import RedisCluster.Line
import RedisCluster.Pool
import RedisCluster.Proofs.Connection.Writing
import RedisCluster.Proofs.Frame.RoundTrip

/-! A request over a clean wire brings the reply to it and leaves the wire clean; one that fails breaks
the wire. -/

namespace RedisCluster

/-- A frame that is read back from its bytes: no line of it is broken, and it fits in a buffer. -/
structure Frame.Sendable (frame : Frame) : Prop where
  unbroken : frame.Unbroken
  addressable : frame.encode.length < vast

/-- A command has no lines of its own; its name and operands are payloads. -/
theorem Command.toFrame_unbroken (command : Command) : command.toFrame.Unbroken := by
  have payloads : ∀ args : List Bytes,
      Frame.AllUnbroken (args.map fun bytes => .bulk (some bytes)) := by
    -- Every operand is a payload, so the induction is on the operands.
    intro args
    induction args with
    | nil => trivial
    | cons first rest ih => exact ⟨trivial, ih⟩
  exact payloads command.args

/-- A call that stopped in such a way leaves a connection that may not be used again. -/
def Halt.Breaks : Halt → Prop
  | .failed error => Pool.breaks (.error error) = true
  | .pending => True

/-- A call that never gets on breaks the connection. -/
theorem Halt.breaks_ofStall (operation : String) (limit : Option Duration) :
    (Halt.ofStall operation limit).Breaks := by
  -- Without a limit the caller waits for good.
  cases limit with
  | none => trivial
  | some limit => rfl

namespace Connection

variable {σ : Type} {stream : Stream σ} {connection : Connection σ}

/-- Where there is nothing to write nothing happens. -/
theorem writeAll_nil (stream : Stream σ) (connection : Connection σ) :
    connection.writeAll stream [] = (.ok (), connection) := by
  rw [writeAll, if_pos (by rfl)]

/-- A write that stops breaks the connection. -/
theorem writeAll_breaks {bytes : Bytes} {halt : Halt}
    (stopped : (connection.writeAll stream bytes).1 = .error halt) : halt.Breaks := by
  -- The stream stalls, fails or takes nothing, after it has taken some parts perhaps.
  fun_induction writeAll stream connection bytes with
  | case1 => cases stopped
  | case2 =>
    cases stopped
    exact Halt.breaks_ofStall _ _
  | case3 => cases stopped; rfl
  | case4 => cases stopped; rfl
  | case5 connection bytes _ after _ count _ ih => exact ih stopped

/-- A read that stops breaks the connection. -/
theorem readFrame_breaks {halt : Halt} (stopped : (connection.readFrame stream).1 = .error halt) :
    halt.Breaks := by
  -- The bytes are no frame, or the stream stalls, fails or ends before there is one.
  fun_induction readFrame stream connection with
  | case1 => cases stopped; rfl
  | case2 => cases stopped
  | case3 =>
    cases stopped
    exact Halt.breaks_ofStall _ _
  | case4 => cases stopped; rfl
  | case5 => cases stopped; rfl
  | case6 _ _ _ _ _ _ _ ih => exact ih stopped

/-- A request that stops, while it is written or while its reply is read, breaks the connection. -/
theorem roundTrip_breaks {frame : Frame} {halt : Halt}
    (stopped : (connection.roundTrip stream frame).1 = .error halt) : halt.Breaks := by
  unfold roundTrip at stopped
  -- Either the request is not written, or its reply is not read.
  split at stopped
  · rename_i found after wrote
    cases stopped
    exact writeAll_breaks (congrArg Prod.fst wrote)
  · exact readFrame_breaks stopped

end Connection

namespace Line

variable {line : Line} {request : Frame} {log : List (Frame × Frame)} {reply : NodeReply}

/-- The node has received the front of a request, of which the rest is still to be sent, and there is
nothing else on the line. -/
structure Sending (line : Line) (request : Frame) (log : List (Frame × Frame)) (rest : Bytes) :
    Prop where
  node : ∃ front, line.node = ⟨vast, front⟩ ∧ front ++ rest = request.encode
  rest : rest ≠ []
  underway : line.underway = []
  log : line.log = log

/-- The node has received a request and answered it; the front of the reply has been read. -/
structure Replying (line : Line) (request : Frame) (log : List (Frame × Frame))
    (reply : NodeReply) (front : Bytes) : Prop where
  node : line.node = ⟨vast, []⟩
  underway : front ++ line.underway = reply.bytes
  log : line.log = log ++ [(request, reply.frame)]

/-- A node without a limit reads a request back from its bytes. -/
theorem parse_request (sendable : request.Sendable) :
    Frame.parse (vast) request.encode = .done request [] := by
  have read := Frame.parse_encode sendable.unbroken (Nat.le_of_lt sendable.addressable)
    sendable.addressable []
  rwa [List.append_nil] at read

/-- A part of a request that does not complete it is kept. -/
theorem Sending.receive_part (sendable : request.Sendable) {part rest : Bytes}
    (sending : line.Sending request log (part ++ rest)) (lacks : rest ≠ []) :
    (line.receive part).Sending request log rest := by
  obtain ⟨front, node, whole⟩ := sending.node
  -- With a byte missing the request is no frame yet.
  rw [← List.append_assoc] at whole
  have waits : Frame.parse (vast) (front ++ part) = .incomplete :=
    Frame.parse_incomplete lacks (by rw [whole]; exact parse_request sendable)
  have size := congrArg List.length whole
  have addressable := sendable.addressable
  simp only [List.length_append] at size
  -- The node waits for the rest and answers nothing.
  have idle : (line.node.append part).drain = ([], none, ⟨vast, front ++ part⟩) := by
    rw [node]
    refine Decoder.drain_of_wait (Decoder.decode_of_incomplete waits ?_)
    show (front ++ part).length ≤ vast
    rw [List.length_append]
    omega
  simp only [receive, idle, List.foldl_nil]
  exact ⟨⟨front ++ part, rfl, whole⟩, lacks, sending.underway, sending.log⟩

/-- The last part of a request makes it whole, and the node answers it. -/
theorem Sending.receive_last (sendable : request.Sendable) {rest : Bytes}
    (sending : line.Sending request log rest) :
    (line.receive rest).Replying request log (line.script.reply request) [] := by
  obtain ⟨front, node, whole⟩ := sending.node
  -- The node takes the one frame that its bytes are, and keeps nothing.
  have taken : (line.node.append rest).drain = ([request], none, ⟨vast, []⟩) := by
    have read : Frame.parse (vast) (front ++ rest) = .done request [] := by
      rw [whole]
      exact parse_request sendable
    rw [node]
    exact @Decoder.drain_of_done ⟨vast, front ++ rest⟩ request [] read
  simp only [receive, taken, List.foldl_cons, List.foldl_nil]
  exact ⟨rfl, by simp [answer, sending.underway], by simp [answer, sending.log]⟩

/-- A request that is written to the end reaches the node, which answers it. -/
theorem Sending.writeAll (sendable : request.Sendable) {connection : Connection Line} {bytes : Bytes}
    (sending : connection.stream.Sending request log bytes)
    (written : (connection.writeAll stream bytes).1 = .ok ()) :
    ∃ reply, (connection.writeAll stream bytes).2.stream.Replying request log reply [] := by
  -- The induction is on the parts that the line takes; what is left of the request gets shorter.
  fun_induction Connection.writeAll stream connection bytes with
  | case1 connection bytes empty => exact absurd (List.isEmpty_iff.1 empty) sending.rest
  | case2 => cases written
  | case3 => cases written
  | case4 => cases written
  | case5 connection bytes some_bytes after accepting count wrote ih =>
    -- The line has accepted a part of the bytes.
    have accepted : ∃ line : Line, line.Sending request log bytes ∧
        after = line.receive (bytes.take (count + 1)) := by
      simp only [stream, write] at wrote
      split at wrote
      · cases wrote
      · rename_i event rest script
        split at wrote
        · obtain ⟨same, rfl⟩ := Prod.mk.inj wrote
          cases same
          exact ⟨{ connection.stream with
              script := { connection.stream.script with writes := rest } },
            ⟨sending.node, sending.rest, sending.underway, sending.log⟩, rfl⟩
        · rename_i other
          obtain ⟨rfl, -⟩ := Prod.mk.inj wrote
          exact absurd rfl (other _)
    obtain ⟨line, sending, rfl⟩ := accepted
    by_cases all_sent : bytes.drop (count + 1) = []
    · -- That was all, so the node has the whole request.
      have whole : bytes.take (count + 1) = bytes := by
        have cut := List.take_append_drop (count + 1) bytes
        rwa [all_sent, List.append_nil] at cut
      refine ⟨line.script.reply request, ?_⟩
      rw [all_sent, Connection.writeAll_nil]
      show (line.receive (bytes.take (count + 1))).Replying request log _ []
      rw [whole]
      exact sending.receive_last sendable
    -- The rest is written after this part, to the line that has received it.
    · refine ih (Sending.receive_part sendable ?_ all_sent) written
      rwa [List.take_append_drop]

/-- A read brings the next bytes of a reply. -/
theorem Replying.read {front bytes : Bytes} {after : Line}
    (replying : line.Replying request log reply front) (some_bytes : bytes ≠ [])
    (brought : line.read = (.data bytes, after)) :
    after.Replying request log reply (front ++ bytes) := by
  unfold Line.read at brought
  -- A script without an event, or one that begins with an event of its own.
  split at brought
  · cases brought
  · rename_i event rest script
    cases event with
    | closed =>
      obtain ⟨none, -⟩ := Prod.mk.inj brought
      cases none
      contradiction
    | failure message => cases brought
    | bytes others =>
      dsimp only at brought
      split at brought
      · cases brought
      · cases brought
        refine ⟨replying.node, ?_, replying.log⟩
        -- The bytes that were read are gone from those under way.
        rw [List.append_assoc, List.take_append_drop]
        exact replying.underway

/-- A reply that is read to the end is the reply to the request, and nothing is left of it. -/
theorem Replying.readFrame {connection : Connection Line} {frame : Frame}
    (replying : connection.stream.Replying request log reply connection.decoder.buffer)
    (limit : connection.decoder.limit ≤ vast)
    (arrived : (connection.readFrame stream).1 = .ok frame) :
    frame = reply.frame ∧
      ∃ line : Line, line.Replying request log reply reply.bytes ∧
        (connection.readFrame stream).2 =
          { connection with stream := line, decoder := ⟨connection.decoder.limit, []⟩ } := by
  -- The induction is on the pieces that arrive; what is read and what is under way is the reply.
  fun_induction Connection.readFrame stream connection with
  | case1 => cases arrived
  | case2 connection found decoder decoded =>
    cases arrived
    obtain ⟨read, same⟩ := Decoder.parse_of_decode decoded
    -- A node that replies sends the frame whatever limit the client has.
    have first := Frame.parse_mono limit read
    by_cases all : connection.stream.underway = []
    -- Nothing is under way, so the buffer is the reply.
    · have whole := replying.underway
      rw [all, List.append_nil] at whole
      rw [whole, reply.whole] at first
      injection first with frame_eq rest_eq
      refine ⟨frame_eq.symm, connection.stream, ?_, ?_⟩
      · rwa [← whole]
      · rw [same, ← rest_eq]
    · -- The front of a reply is no frame yet.
      have early := Frame.parse_incomplete all (by rw [replying.underway]; exact reply.whole)
      rw [early] at first
      cases first
  | case3 => cases arrived
  | case4 => cases arrived
  | case5 => cases arrived
  | case6 connection decoder waits after byte bytes brought ih =>
    -- The piece joins what has been read.
    exact ih (replying.read (List.cons_ne_nil byte bytes) brought) limit arrived

end Line

namespace Wire

variable {wire : Wire} {request frame : Frame}

/-- Nothing is left of earlier requests: the client has no bytes to decode and none to write, the node
has received nothing that it has not answered, and no reply is under way. -/
structure Clean (wire : Wire) : Prop where
  decoder : wire.decoder = {}
  encoder : wire.encoder = {}
  node : wire.stream.node = { limit := vast }
  underway : wire.stream.underway = []

/-- A request that is made on a clean wire and gets an answer gets the reply to it, which is the only
thing that the node took down meanwhile; and it leaves the wire clean. -/
theorem Clean.roundTrip (clean : wire.Clean) (sendable : request.Sendable)
    (answered : (Connection.roundTrip Line.stream wire request).1 = .ok frame) :
    Clean (Connection.roundTrip Line.stream wire request).2 ∧
      (Connection.roundTrip Line.stream wire request).2.stream.log =
        wire.stream.log ++ [(request, frame)] := by
  -- The encoder was empty, so it holds the request and nothing else.
  have bytes : wire.encoder.encode request = ⟨request.encode⟩ := by rw [clean.encoder]; rfl
  unfold Connection.roundTrip Connection.writeFrame at answered ⊢
  simp only [bytes, Encoder.take] at answered ⊢
  -- The node is ready for the request, and the client has written all of it.
  have ready : wire.stream.Sending request wire.stream.log request.encode :=
    ⟨⟨[], clean.node, rfl⟩, List.ne_nil_of_length_pos (Frame.encode_length_pos request),
      clean.underway, rfl⟩
  have sent := @Line.Sending.writeAll request wire.stream.log sendable
    { wire with encoder := ⟨[]⟩ } request.encode ready
  obtain ⟨line, accepted, same, -⟩ := Connection.writeAll_accepts Line.stream
    { wire with encoder := ⟨[]⟩ } request.encode
  cases wrote : Connection.writeAll Line.stream { wire with encoder := ⟨[]⟩ } request.encode with
  | mk outcome after =>
    rw [wrote] at sent same answered
    cases outcome with
    -- A request that was not written brings no frame.
    | error halt => cases answered
    | ok done =>
      -- The node has answered, and its reply is what comes next.
      obtain ⟨reply, replying⟩ := sent rfl
      subst same
      have fresh : (Connection.mk line wire.decoder ⟨[]⟩ wire.readTimeout wire.writeTimeout
          (wire.written ++ accepted)).decoder = {} := clean.decoder
      obtain ⟨rfl, last, read, eq⟩ := Line.Replying.readFrame (by rw [fresh]; exact replying)
        (by rw [fresh]; decide) answered
      simp only [eq]
      -- The whole reply has been read, so none of it is under way.
      have nothing := read.underway
      exact ⟨⟨by rw [fresh], rfl, read.node, List.append_right_eq_self.1 nothing⟩, read.log⟩

/-- A request that is made on a clean wire while things go by a script gets the reply to it. -/
theorem Clean.exchange {script : Script} {after : Wire} (clean : wire.Clean)
    (sendable : request.Sendable) (answered : wire.exchange script request = (.ok frame, after)) :
    after.Clean ∧ after.stream.log = wire.stream.log ++ [(request, frame)] := by
  -- The script is no part of what makes a wire clean.
  have scripted : Clean { wire with stream := { wire.stream with script } } :=
    ⟨clean.decoder, clean.encoder, clean.node, clean.underway⟩
  have made := scripted.roundTrip sendable (congrArg Prod.fst answered)
  unfold Wire.exchange at answered
  rwa [answered] at made

/-- A request that fails breaks the connection that it was made on. -/
theorem exchange_breaks {script : Script} {after : Wire} {error : ClientError}
    (failed : wire.exchange script request = (.error (.failed error), after)) :
    Pool.breaks (.error error) = true := by
  show (Halt.failed error).Breaks
  exact Connection.roundTrip_breaks (congrArg Prod.fst failed)

end Wire

namespace Dialer

/-- The commands that the handshake sends. -/
def greetings (dialer : Dialer) : List Command :=
  (dialer.config.password.map fun password =>
    Command.auth (dialer.config.username.map Utf8.encode) (Utf8.encode password)).toList ++
  (dialer.config.clientName.map fun name => Command.clientSetName (Utf8.encode name)).toList

/-- What the handshake presents fits in a buffer. -/
def Sendable (dialer : Dialer) : Prop :=
  ∀ command ∈ dialer.greetings, command.toFrame.Sendable

end Dialer

/-- A step of the handshake that goes well leaves the wire clean. -/
theorem Wire.Clean.handshakeStep {wire after : Wire} {command : Option Command}
    {judge : Frame → Except Halt Unit} (clean : wire.Clean)
    (sendable : ∀ given ∈ command, given.toFrame.Sendable)
    (well : Connection.handshakeStep Line.stream wire command judge = (.ok (), after)) :
    after.Clean := by
  unfold Connection.handshakeStep at well
  cases command with
  -- Without a command nothing is written.
  | none => cases well; exact clean
  | some command =>
    cases made : Connection.roundTrip Line.stream wire command.toFrame with
    | mk outcome last =>
      simp only [made] at well
      cases outcome with
      | error halt => cases well
      | ok reply =>
        -- The command is a request like others.
        have kept := clean.roundTrip (sendable command rfl) (congrArg Prod.fst made)
        rw [made] at kept
        cases (Prod.mk.inj well).2
        exact kept.1

/-- A wire is clean once it is open. -/
theorem Dialer.dial_clean {dialer : Dialer} {script : Script} {wire : Wire}
    (sendable : dialer.Sendable) (opened : dialer.dial script = (.ok (), wire)) : wire.Clean := by
  unfold Dialer.dial Connection.handshake at opened
  dsimp only at opened
  -- Who is refused at the first step does not get to the second one.
  split at opened
  · cases opened
  · rename_i middle presented
    -- A stream that has just been opened has had no bytes on it.
    have fresh := Wire.Clean.handshakeStep ⟨rfl, rfl, rfl, rfl⟩ (fun command member =>
      sendable command (List.mem_append_left _ (Option.mem_toList.2 member))) presented
    exact fresh.handshakeStep (fun command member =>
      sendable command (List.mem_append_right _ (Option.mem_toList.2 member))) opened

end RedisCluster
