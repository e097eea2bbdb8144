import RedisCluster.Line
import RedisCluster.Proofs.Connection.Handshake

/-! Connections that are opened under a configuration: its time limits bound them for as long as they
are used, and the handshake presents what it says. -/

namespace RedisCluster.Connection

variable {σ : Type} {stream : Stream σ} {connection after : Connection σ} {config : ConnectionConfig}

/-- A connection is under the time limits of a configuration and has nothing left over to write. -/
structure Under (connection : Connection σ) (config : ConnectionConfig) : Prop where
  readTimeout : connection.readTimeout = some config.readTimeout
  writeTimeout : connection.writeTimeout = some config.writeTimeout
  rested : connection.encoder = {}

/-- A connection after some requests in a row, whatever each of them has come to. -/
def afterRequests (stream : Stream σ) (connection : Connection σ) (requests : List Frame) :
    Connection σ :=
  requests.foldl (fun connection request => (connection.roundTrip stream request).2) connection

/-- A talk leaves the time limits as they were. -/
theorem Under.held (under : connection.Under config) {talk : Talk}
    (held : talk.Held stream connection after) : after.Under config := by
  -- Of a connection only the stream, the buffer and the record of what was written have changed.
  obtain ⟨_, _, _, rfl⟩ := held.keeps
  exact ⟨under.readTimeout, under.writeTimeout, under.rested⟩

/-- So does a step of the handshake. -/
theorem Under.step (under : connection.Under config) {talk : Option Talk}
    (step : Step stream connection talk after) : after.Under config := by
  -- Without a talk the connection is the same one.
  cases step with
  | skipped => exact under
  | held held => exact under.held held

/-- No request changes the time limits, nor do many in a row. -/
theorem Under.afterRequests (under : connection.Under config) (requests : List Frame) :
    (connection.afterRequests stream requests).Under config := by
  induction requests generalizing connection with
  | nil => exact under
  | cons request requests ih =>
    -- What the first request leaves behind is under the limits, so the others start as it did.
    obtain ⟨talk, _, held⟩ := roundTrip_held stream under.rested request
    exact ih (under.held held)

/-- Where a node is reached, a connection is established exactly if its handshake succeeds, and then
it is under the time limits. -/
theorem establish_by_steps (stream : Stream σ) (config : ConnectionConfig) (state : σ) :
    ∃ auth setName outcome,
      Handshake stream (.ofConfig config state) config auth setName outcome ∧
        establish stream config (.stream state) = outcome.1.map (fun _ => outcome.2) ∧
        outcome.2.Under config := by
  obtain ⟨auth, setName, shaken⟩ := handshake_by_steps stream (.ofConfig config state) config rfl
  refine ⟨auth, setName, _, shaken, ?_, ?_⟩
  · -- The connection is handed out together with the good verdict, and with no other.
    rw [establish]
    cases (ofConfig config state).handshake stream config with
    | mk verdict opened => cases verdict <;> rfl
  -- A fresh connection is under the limits, and both steps keep it so.
  · obtain ⟨middle, first, second⟩ := shaken.steps
    have fresh : (ofConfig config state).Under config := ⟨rfl, rfl, rfl⟩
    exact (fresh.step first).step second

/-- A wire to a node is established as its dialer opens it. -/
theorem establish_line (config : ConnectionConfig) (script : Script) :
    establish Line.stream config (.stream { script }) =
      ((Dialer.ofConfig config).dial script).1.map
        fun _ => ((Dialer.ofConfig config).dial script).2 := by
  -- The dialer starts from the same connection, so only the form of the result is to be compared.
  have same : (Dialer.ofConfig config).dial script =
      (Connection.ofConfig config ({ script } : Line)).handshake Line.stream config := rfl
  rw [same, establish]
  cases (Connection.ofConfig config ({ script } : Line)).handshake Line.stream config with
  | mk verdict opened => cases verdict <;> rfl

end RedisCluster.Connection
