import RedisCluster.Proofs.Connection.Transcript

/-! The handshake: which of its two steps are taken on any stream, what is written for them, and what
becomes of their answers. -/

namespace RedisCluster

variable {σ : Type}

/-- Only the acknowledging reply acknowledges. -/
theorem Frame.isOk_iff {frame : Frame} : frame.isOk = true ↔ frame = .ok := by
  -- Of simple strings one is the reply, and nothing else is.
  cases frame with
  | simple text => simp [Frame.isOk, Frame.ok]
  | _ => simp [Frame.isOk, Frame.ok]

namespace ConnectionConfig

/-- The request that presents the password, behind the username if there is one. -/
def authRequest? (config : ConnectionConfig) : Option Frame :=
  config.password.map fun password =>
    .array (.ofText "AUTH" :: (config.username.map Frame.ofText).toList ++ [.ofText password])

/-- The request that names the connection. -/
def nameRequest? (config : ConnectionConfig) : Option Frame :=
  config.clientName.map fun name =>
    .array [.ofText "CLIENT", .ofText "SETNAME", .ofText name]

end ConnectionConfig

/-- The talk got the acknowledging reply. -/
def Talk.Granted (talk : Talk) : Prop :=
  talk.answer = .ok .ok

/-- What a talk without the acknowledging reply makes of the result: an error reply leads to the
refusal of the step, another reply to a protocol error that shows it, and a failure to get a reply is
passed on as it is. -/
structure Talk.Heeded (talk : Talk) (step : String) (refusal : String → ClientError)
    (result : Except Halt Unit) : Prop where
  refused : ∀ message, talk.answer = .ok (.error message) →
    result = .error (.failed (refusal message))
  unexpected : ∀ reply, talk.answer = .ok reply → reply ≠ .ok → (∀ message, reply ≠ .error message) →
    result = .error (.failed (.protocol ("unexpected " ++ step ++ " reply " ++ reply.outline)))
  unanswered : ∀ halt, talk.answer = .error halt → result = .error halt

namespace Connection

/-- A step from one connection to another: nothing happens, or a talk is held. -/
inductive Step (stream : Stream σ) (before : Connection σ) : Option Talk → Connection σ → Prop
  -- The step was not called for.
  | skipped : Step stream before none before
  -- Its request was made, and the calls are those of the talk.
  | held {talk : Talk} {after : Connection σ} (held : talk.Held stream before after) :
      Step stream before (some talk) after

/-- The calls of a step. -/
def callsOf (step : Option Talk) : List StreamCall :=
  step.elim [] Talk.calls

/-- How a handshake goes. The password is presented exactly if there is one, and the connection is
named exactly if it is to have a name and the password, as far as there is one, was acknowledged. No
other calls are made on the stream. The handshake succeeds exactly if all that was to be done was
acknowledged, and otherwise the step without the acknowledging reply decides the result. -/
structure Handshake (stream : Stream σ) (connection : Connection σ) (config : ConnectionConfig)
    (auth setName : Option Talk) (outcome : Except Halt Unit × Connection σ) : Prop where
  steps : ∃ middle, Step stream connection auth middle ∧ Step stream middle setName outcome.2
  makes : Makes (fun _ stream connection => connection.handshake stream config) stream connection
    (callsOf auth ++ callsOf setName)
  presents : auth.map Talk.request = config.authRequest?
  names : (∀ talk ∈ auth, talk.Granted) → setName.map Talk.request = config.nameRequest?
  silent : (¬ ∀ talk ∈ auth, talk.Granted) → setName = none
  succeeds : outcome.1 = .ok () ↔ (∀ talk ∈ auth, talk.Granted) ∧ ∀ talk ∈ setName, talk.Granted
  heedsAuth : ∀ talk ∈ auth, talk.Heeded "AUTH" .auth outcome.1
  heedsSetName : ∀ talk ∈ setName, talk.Heeded "CLIENT SETNAME" .server outcome.1

section Judging

variable {judge : Frame → Except Halt Unit} {step : String} {refusal : String → ClientError}

/-- How a step judges replies: it accepts the acknowledging one only, and has an error of its own for
error replies. -/
structure Judges (judge : Frame → Except Halt Unit) (step : String)
    (refusal : String → ClientError) : Prop where
  ok : judge .ok = .ok ()
  refused : ∀ message, judge (.error message) = .error (.failed (refusal message))
  unexpected : ∀ reply, reply ≠ .ok → (∀ message, reply ≠ .error message) →
    judge reply = .error (.failed (.protocol ("unexpected " ++ step ++ " reply " ++ reply.outline)))

/-- Naming the connection has the error of the server for error replies. -/
theorem expectOk_judges (step : String) : Judges (expectOk step) step .server where
  ok := rfl
  refused _ := rfl
  unexpected reply other no_error := by
    -- Error replies are told apart first, and then the one that acknowledges.
    unfold expectOk
    split
    · exact absurd rfl (no_error _)
    · rw [if_neg (fun acknowledges => other (Frame.isOk_iff.1 acknowledges))]

/-- Presenting the password has an error of its own for error replies. -/
theorem expectAuthenticated_judges : Judges expectAuthenticated "AUTH" .auth where
  ok := rfl
  refused _ := rfl
  unexpected reply other no_error := by
    -- An error reply leads to a refusal; all other replies are judged as they are elsewhere.
    unfold expectAuthenticated
    split
    · exact absurd rfl (no_error _)
    · exact (expectOk_judges "AUTH").unexpected reply other no_error

/-- Only the acknowledging reply is judged well. -/
theorem Judges.ok_iff (judges : Judges judge step refusal) (reply : Frame) :
    judge reply = .ok () ↔ reply = .ok := by
  refine ⟨fun well => ?_, fun acknowledges => acknowledges ▸ judges.ok⟩
  -- Each other reply has been given an error, whether it is an error reply or not.
  by_contra other
  by_cases no_error : ∀ message, reply ≠ .error message
  · rw [judges.unexpected reply other no_error] at well
    cases well
  · push Not at no_error
    obtain ⟨message, rfl⟩ := no_error
    rw [judges.refused] at well
    cases well

/-- A talk is judged well exactly if it got the acknowledging reply. -/
theorem Judges.granted_iff (judges : Judges judge step refusal) (talk : Talk) :
    talk.answer.bind judge = .ok () ↔ talk.Granted := by
  -- A talk without a reply has its halt for a verdict, which is no good one.
  unfold Talk.Granted
  cases talk.answer with
  | error halt => exact ⟨nofun, nofun⟩
  | ok reply => exact (judges.ok_iff reply).trans ⟨congrArg Except.ok, Except.ok.inj⟩

/-- A result that is the judgement of a talk heeds it. -/
theorem Judges.heeded (judges : Judges judge step refusal) {talk : Talk} {result : Except Halt Unit}
    (judged : ∀ halt, talk.answer.bind judge = .error halt → result = .error halt) :
    talk.Heeded step refusal result where
  refused message answered := judged _ (by rw [answered]; exact judges.refused message)
  unexpected reply answered other no_error :=
    judged _ (by rw [answered]; exact judges.unexpected reply other no_error)
  unanswered halt answered := judged _ (by rw [answered]; rfl)

end Judging

variable {stream : Stream σ} {connection : Connection σ}

/-- A step that is called for makes its request and judges the reply. -/
theorem handshakeStep_some (stream : Stream σ) (connection : Connection σ) (command : Command)
    (judge : Frame → Except Halt Unit) :
    connection.handshakeStep stream (some command) judge =
      ((connection.roundTrip stream command.toFrame).1.bind judge,
        (connection.roundTrip stream command.toFrame).2) := by
  -- The reply is judged, and a failure to get one is passed on.
  cases made : connection.roundTrip stream command.toFrame with
  | mk answer after => cases answer <;> simp only [handshakeStep, made, Except.bind]

/-- What a step of the handshake does: it is skipped, or it is a talk with the request of its command,
and its verdict is how the answer is judged. -/
structure Stepped (stream : Stream σ) (connection : Connection σ) (command : Option Command)
    (judge : Frame → Except Halt Unit) (talk : Option Talk) : Prop where
  requests : talk.map Talk.request = command.map Command.toFrame
  step : Step stream connection talk (connection.handshakeStep stream command judge).2
  makes : Makes (fun _ stream connection => connection.handshakeStep stream command judge) stream
    connection (callsOf talk)
  verdict : (connection.handshakeStep stream command judge).1 =
    talk.elim (.ok ()) fun talk => talk.answer.bind judge

/-- Every step that finds nothing else to be written does so. -/
theorem handshakeStep_stepped (stream : Stream σ) (rested : connection.encoder = {})
    (command : Option Command) (judge : Frame → Except Halt Unit) :
    ∃ talk : Option Talk, Stepped stream connection command judge talk := by
  -- The step is called for if there is something to present.
  cases command with
  | none =>
    exact ⟨none, rfl, .skipped, fun noted => by simp [handshakeStep, callsOf], rfl⟩
  | some command =>
    obtain ⟨⟨request, calls, answer⟩, rfl, held⟩ := roundTrip_held stream rested command.toFrame
    have made := handshakeStep_some stream connection command judge
    refine ⟨some ⟨command.toFrame, calls, answer⟩, rfl, ?_, fun noted => ?_, ?_⟩
    · rw [made]
      exact .held held
    -- Where calls are noted the request makes the same ones, so the step does.
    · have there := held.makes noted
      dsimp only at there
      simp only [handshakeStep_some, there]
      rfl
    · rw [made, held.came]
      rfl

section Verdict

variable {command : Option Command} {judge : Frame → Except Halt Unit} {step : String}
  {refusal : String → ClientError} {talk : Option Talk}

/-- A step goes well exactly if it is skipped or gets the acknowledging reply. -/
theorem Stepped.granted_iff (stepped : Stepped stream connection command judge talk)
    (judges : Judges judge step refusal) :
    (connection.handshakeStep stream command judge).1 = .ok () ↔ ∀ given ∈ talk, given.Granted := by
  -- The verdict is that of the talk, or a good one without any.
  rw [stepped.verdict]
  cases talk with
  | none => simp
  | some talk => simpa using judges.granted_iff talk

/-- A result that passes on a bad verdict heeds the talk of the step. -/
theorem Stepped.heeded {given : Talk} {result : Except Halt Unit}
    (stepped : Stepped stream connection command judge talk) (judges : Judges judge step refusal)
    (member : given ∈ talk)
    (passed : ∀ halt, (connection.handshakeStep stream command judge).1 = .error halt →
      result = .error halt) :
    given.Heeded step refusal result := by
  cases member
  exact judges.heeded fun halt failed => passed halt (stepped.verdict.trans failed)

end Verdict

/-- A step leaves the encoder as it found it. -/
theorem Step.encoder {talk : Option Talk} {after : Connection σ}
    (step : Step stream connection talk after) : after.encoder = connection.encoder := by
  -- A talk changes the stream, the buffer and what was written.
  cases step with
  | skipped => rfl
  | held held =>
    obtain ⟨_, _, _, rfl⟩ := held.keeps
    rfl

/-- The command that presents the password. -/
def authCommand? (config : ConnectionConfig) : Option Command :=
  config.password.map fun password =>
    Command.auth (config.username.map Utf8.encode) (Utf8.encode password)

/-- The command that names the connection. -/
def nameCommand? (config : ConnectionConfig) : Option Command :=
  config.clientName.map fun name => Command.clientSetName (Utf8.encode name)

/-- The password is presented with the request that the configuration asks for. -/
theorem authCommand?_toFrame (config : ConnectionConfig) :
    (authCommand? config).map Command.toFrame = config.authRequest? := by
  rw [authCommand?, ConnectionConfig.authRequest?, Option.map_map]
  -- The username comes in front of the password in both, if there is one.
  cases config.username <;> rfl

/-- The connection is named with the request that the configuration asks for. -/
theorem nameCommand?_toFrame (config : ConnectionConfig) :
    (nameCommand? config).map Command.toFrame = config.nameRequest? := by
  rw [nameCommand?, ConnectionConfig.nameRequest?, Option.map_map]
  rfl

/-- Where the password is not acknowledged the handshake ends. -/
theorem handshake_of_refused {config : ConnectionConfig} {halt : Halt} {after : Connection σ}
    (refused : connection.handshakeStep stream (authCommand? config) expectAuthenticated =
      (.error halt, after)) :
    connection.handshake stream config = (.error halt, after) := by
  unfold authCommand? at refused
  simp only [handshake, refused]

/-- Where the password is acknowledged, or there is none, the handshake names the connection. -/
theorem handshake_of_granted {config : ConnectionConfig} {middle : Connection σ}
    (granted : connection.handshakeStep stream (authCommand? config) expectAuthenticated =
      (.ok (), middle)) :
    connection.handshake stream config =
      middle.handshakeStep stream (nameCommand? config) (expectOk "CLIENT SETNAME") := by
  unfold authCommand? at granted
  simp only [handshake, granted, nameCommand?]

section Steps

variable {config : ConnectionConfig} {auth setName : Option Talk}

/-- A handshake ends with the first step if that is not acknowledged. -/
theorem Stepped.refused {halt : Halt} {after : Connection σ}
    (first : Stepped stream connection (authCommand? config) expectAuthenticated auth)
    (refused : connection.handshakeStep stream (authCommand? config) expectAuthenticated =
      (.error halt, after)) :
    Handshake stream connection config auth none (.error halt, after) := by
  -- What the first step came to is what the handshake comes to, and no second step is made.
  have stopped := handshake_of_refused refused
  -- Had the talk been acknowledged, the first step would have gone well.
  have ungranted : ¬ ∀ talk ∈ auth, talk.Granted := fun all => by
    have well := (first.granted_iff expectAuthenticated_judges).2 all
    rw [refused] at well
    cases well
  have step := first.step
  have made := first.makes
  simp only [Makes, refused] at step made
  exact {
    steps := ⟨after, step, .skipped⟩
    makes := fun noted => by
      have there : (connection.noting noted).handshake stream.noted config = _ :=
        handshake_of_refused (made noted)
      simp only [there, stopped, callsOf, Option.elim_none, List.append_nil]
    presents := first.requests.trans (authCommand?_toFrame config)
    names := fun all => absurd all ungranted
    silent := fun _ => rfl
    succeeds := ⟨fun well => (by cases well), fun all => absurd all.1 ungranted⟩
    heedsAuth := fun talk member =>
      first.heeded expectAuthenticated_judges member fun other failed => by
        rwa [refused] at failed
    heedsSetName := fun talk member => by cases member }

/-- A handshake goes on with the second step if the first one is acknowledged or there is none. -/
theorem Stepped.granted {middle : Connection σ}
    (first : Stepped stream connection (authCommand? config) expectAuthenticated auth)
    (granted : connection.handshakeStep stream (authCommand? config) expectAuthenticated =
      (.ok (), middle))
    (second : Stepped stream middle (nameCommand? config) (expectOk "CLIENT SETNAME") setName) :
    Handshake stream connection config auth setName
      (middle.handshakeStep stream (nameCommand? config) (expectOk "CLIENT SETNAME")) := by
  -- The handshake ends as its second step does, so that alone decides.
  have onward := handshake_of_granted granted
  have all_granted : ∀ talk ∈ auth, talk.Granted :=
    (first.granted_iff expectAuthenticated_judges).1 (congrArg Prod.fst granted)
  have step := first.step
  have made := first.makes
  have made_too := second.makes
  simp only [Makes, granted] at step made made_too
  exact {
    steps := ⟨middle, step, second.step⟩
    makes := fun noted => by
      have there : (connection.noting noted).handshake stream.noted config = _ :=
        handshake_of_granted (made noted)
      simp only [there, onward, made_too, List.append_assoc]
    presents := first.requests.trans (authCommand?_toFrame config)
    names := fun _ => second.requests.trans (nameCommand?_toFrame config)
    silent := fun refused => absurd all_granted refused
    succeeds := (second.granted_iff (expectOk_judges _)).trans
      ⟨fun all => ⟨all_granted, all⟩, And.right⟩
    heedsAuth := fun talk member =>
      first.heeded expectAuthenticated_judges member fun halt failed => by
        rw [granted] at failed
        cases failed
    heedsSetName := fun talk member => second.heeded (expectOk_judges _) member fun _ => id }

end Steps

/-- On any stream, whatever it takes and brings at a time and wherever it fails or stalls, and for any
configuration, the handshake goes by its steps. Bytes that were buffered before may be replies, and
nothing is left to be written before, as after every call. -/
theorem handshake_by_steps (stream : Stream σ) (connection : Connection σ)
    (config : ConnectionConfig) (rested : connection.encoder = {}) :
    ∃ auth setName : Option Talk,
      Handshake stream connection config auth setName (connection.handshake stream config) := by
  -- The first step is made on any account, if only to find that it is not called for.
  obtain ⟨auth, first⟩ :=
    handshakeStep_stepped stream rested (authCommand? config) expectAuthenticated
  have step := first.step
  cases begun : connection.handshakeStep stream (authCommand? config) expectAuthenticated with
  | mk verdict middle =>
    -- Whether it went well decides if there is a second one.
    rw [begun] at step
    cases verdict with
    | error halt =>
      rw [handshake_of_refused begun]
      exact ⟨auth, none, first.refused begun⟩
    | ok =>
      -- The first talk leaves nothing behind that the second one would write.
      obtain ⟨setName, second⟩ := handshakeStep_stepped stream (step.encoder.trans rested)
        (nameCommand? config) (expectOk "CLIENT SETNAME")
      rw [handshake_of_granted begun]
      exact ⟨auth, setName, first.granted begun second⟩

/-- The password is acknowledged by a line of which a part was buffered already, and what stands
behind it in the same chunk refuses the name; the first request is written in parts. -/
theorem handshake_by_steps_of_refused_name :
    let connection : Connection StreamScript :=
      { stream :=
          ⟨[.data [75, 13, 10, 45, 69, 82, 82, 13, 10]], [.accepts 3, .accepts 28, .accepts 38]⟩
        decoder := { buffer := [43, 79] } }
    let config : ConnectionConfig :=
      { username := some "app", password := some "pw", clientName := some "a b" }
    let run := connection.handshake StreamScript.stream config
    connection.encoder = {} ∧ run.2.stream.reads.isEmpty ∧ run.2.stream.writes.isEmpty ∧
      (match run.1 with | .error (.failed error) => some error | _ => none) = some (.server "ERR") ∧
      ∃ auth setName : Option Talk,
        Handshake StreamScript.stream connection config auth setName run := by
  intro connection config run
  -- All of it is computed but for the handshake itself, which the theorem describes.
  exact ⟨rfl, by decide +kernel, by decide +kernel, by decide +kernel,
    handshake_by_steps StreamScript.stream connection config rfl⟩

end Connection

end RedisCluster
