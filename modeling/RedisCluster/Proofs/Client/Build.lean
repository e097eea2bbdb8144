import RedisCluster.Proofs.Connection.Opening
import RedisCluster.Proofs.Pool.Config
import RedisCluster.Proofs.Settings.Bootstrap

/-! Building a client: which settings are refused, and with which words, and what a client goes by that
is built, whatever the nodes answer while it starts. -/

namespace RedisCluster

section Reading

variable {α β ε : Type} {read : α → Except ε β} {items : List α}

/-- A list can be read exactly if each of its items can. -/
theorem exists_mapM_eq_ok_iff : (∃ values, items.mapM read = .ok values) ↔
    ∀ item ∈ items, ∃ value, read item = .ok value := by
  -- A list is read from its first item on, and stops where one cannot be read.
  induction items with
  | nil => exact ⟨fun _ => List.forall_mem_nil _, fun _ => ⟨[], rfl⟩⟩
  | cons item items ih =>
    rw [List.forall_mem_cons, ← ih, List.mapM_cons]
    cases read item <;> cases items.mapM read <;> simp [bind, Except.bind, pure, Except.pure]

/-- Behind items that can be read, one that cannot makes the whole list fail as it does itself. -/
theorem mapM_append_cons {front rest : List α} {bad : α} {error : ε}
    (good : ∀ item ∈ front, ∃ value, read item = .ok value) (refused : read bad = .error error) :
    (front ++ bad :: rest).mapM read = .error error := by
  -- The good items in front are read, and what comes of the rest comes of the whole.
  induction front with
  | nil => simp [List.mapM_cons, refused, bind, Except.bind]
  | cons item front ih =>
    obtain ⟨⟨value, accepted⟩, others⟩ := List.forall_mem_cons.1 good
    rw [List.cons_append, List.mapM_cons, accepted, ih others]
    rfl

/-- Reading a list fails at the first item that cannot be read. -/
theorem mapM_eq_error_iff {error : ε} : items.mapM read = .error error ↔
    ∃ front bad rest, items = front ++ bad :: rest ∧
      (∀ item ∈ front, ∃ value, read item = .ok value) ∧ read bad = .error error := by
  constructor
  · intro failed
    induction items with
    | nil => cases failed
    | cons item items ih =>
      rw [List.mapM_cons] at failed
      cases first : read item with
      | error other =>
        -- The first item is the bad one.
        rw [first] at failed
        cases failed
        exact ⟨[], item, items, rfl, List.forall_mem_nil _, first⟩
      | ok value =>
        -- It is good, so the failure lies among the others.
        rw [first] at failed
        cases others : items.mapM read with
        | error other =>
          rw [others] at failed
          cases failed
          obtain ⟨front, bad, rest, rfl, good, refused⟩ := ih others
          exact ⟨item :: front, bad, rest, rfl, List.forall_mem_cons.2 ⟨⟨value, first⟩, good⟩,
            refused⟩
        | ok values =>
          rw [others] at failed
          cases failed
  · rintro ⟨front, bad, rest, rfl, good, refused⟩
    exact mapM_append_cons good refused

end Reading

namespace Settings

/-- What is wrong with settings that were made, and the error that tells it. Of several faults the
first one is told: no address, an address that names no endpoint, or no attempts at a command. -/
inductive Unfit (made : List Setting) : ClientError → Prop where
  | noAddress (nothing : given made = []) :
      Unfit made (.invalidArgument "at least one node address is required")
  | badAddress {front rest : List String} {bad : String} {error : ClientError}
      (listed : given made = front ++ bad :: rest)
      (good : ∀ address ∈ front, ∃ endpoint, Endpoint.ofAddress address = .ok endpoint)
      (refused : Endpoint.ofAddress bad = .error error) : Unfit made error
  | noAttempts (some_address : given made ≠ [])
      (good : ∀ address ∈ given made, ∃ endpoint, Endpoint.ofAddress address = .ok endpoint)
      (zero : Last .maxRedirects made (some 0)) :
      Unfit made (.invalidArgument "max_redirects must be at least 1")

variable {made : List Setting} {error : ClientError} {bootstrap : List Endpoint}

/-- Whatever is wrong with settings is told as an invalid argument. -/
theorem Unfit.invalidArgument (unfit : Unfit made error) :
    ∃ message, error = .invalidArgument message := by
  -- Only an address has an error of its own, and that is an invalid argument too.
  cases unfit with
  | noAddress nothing => exact ⟨_, rfl⟩
  | badAddress listed good refused => exact Endpoint.error_of_ofAddress refused
  | noAttempts some_address good zero => exact ⟨_, rfl⟩

/-- There are no attempts exactly if that was set last. -/
theorem maxRedirects_eq_zero_iff :
    (ofList made).maxRedirects = 0 ↔ Last .maxRedirects made (some 0) := by
  constructor
  · intro zero
    -- What was set last shows in the number, and without any setting the default does.
    obtain ⟨last, counts, shown⟩ := shows_maxRedirects.exists_last made
    cases last with
    | none =>
      -- The default is not zero.
      rw [zero] at shown
      cases shown
    | some count =>
      obtain rfl : 0 = count := zero.symm.trans shown
      exact counts
  · exact shows_maxRedirects.eq_of_last

/-- Settings are without a fault, or there is one that comes first. -/
theorem fit_or_unfit (made : List Setting) :
    (∃ error, Unfit made error) ∨
      given made ≠ [] ∧ (∃ bootstrap, (given made).mapM Endpoint.ofAddress = .ok bootstrap) ∧
        ¬Last .maxRedirects made (some 0) := by
  -- The faults are looked for in the order in which the check tells them.
  by_cases nothing : given made = []
  · exact .inl ⟨_, .noAddress nothing⟩
  · cases read : (given made).mapM Endpoint.ofAddress with
    | error error =>
      obtain ⟨front, bad, rest, listed, good, refused⟩ := mapM_eq_error_iff.1 read
      exact .inl ⟨error, .badAddress listed good refused⟩
    | ok bootstrap =>
      by_cases zero : Last .maxRedirects made (some 0)
      · exact .inl ⟨_, .noAttempts nothing (exists_mapM_eq_ok_iff.1 ⟨bootstrap, read⟩) zero⟩
      · exact .inr ⟨nothing, ⟨bootstrap, rfl⟩, zero⟩

/-- Settings with a fault do not pass the check, and the first fault is told. -/
theorem Unfit.check (unfit : Unfit made error) : (ofList made).check = .error error := by
  unfold Settings.check
  -- The addresses that are checked are those that were given, in their order.
  rw [bootstrap_ofList]
  cases unfit with
  | noAddress nothing => rw [if_pos nothing]
  | badAddress listed good refused =>
    rw [listed, if_neg (by simp), mapM_append_cons good refused]
  | noAttempts some_address good zero =>
    obtain ⟨bootstrap, read⟩ := exists_mapM_eq_ok_iff.2 good
    rw [if_neg some_address, read]
    exact if_pos (maxRedirects_eq_zero_iff.2 zero)

/-- Settings without a fault pass the check with the endpoints that their addresses name. -/
theorem check_of_fit (some_address : given made ≠ [])
    (read : (given made).mapM Endpoint.ofAddress = .ok bootstrap)
    (attempts : ¬Last .maxRedirects made (some 0)) : (ofList made).check = .ok bootstrap := by
  -- None of the three checks fails.
  unfold check
  rw [bootstrap_ofList, if_neg some_address, read]
  exact if_neg (mt maxRedirects_eq_zero_iff.1 attempts)

/-- Settings do not pass the check exactly if there is a fault in them. -/
theorem check_eq_error_iff : (ofList made).check = .error error ↔ Unfit made error := by
  refine ⟨fun refused => ?_, Unfit.check⟩
  -- There is a first fault, which is the one that is told, or there is none.
  obtain ⟨first, unfit⟩ | ⟨some_address, ⟨bootstrap, read⟩, attempts⟩ := fit_or_unfit made
  · obtain rfl : first = error := Except.error.inj (unfit.check.symm.trans refused)
    exact unfit
  · rw [check_of_fit some_address read attempts] at refused
    cases refused

/-- Settings have a fault if they give no address, if one of their addresses names no endpoint, or if
no attempts were set last. -/
theorem exists_unfit_iff : (∃ error, Unfit made error) ↔ given made = [] ∨
    (∃ address ∈ given made, ∀ endpoint, Endpoint.ofAddress address ≠ .ok endpoint) ∨
      Last .maxRedirects made (some 0) := by
  constructor
  -- Each kind of fault is one of the three.
  · rintro ⟨error, unfit⟩
    cases unfit with
    | noAddress nothing => exact .inl nothing
    | @badAddress _ _ bad _ listed good refused =>
      have member : bad ∈ given made := by rw [listed]; simp
      exact .inr (.inl ⟨bad, member, fun endpoint => by rw [refused]; nofun⟩)
    | noAttempts some_address good zero => exact .inr (.inr zero)
  · intro faults
    obtain unfit | ⟨some_address, read, attempts⟩ := fit_or_unfit made
    · exact unfit
    · -- Without a fault none of the three can be.
      obtain nothing | ⟨address, member, bad⟩ | zero := faults
      · exact absurd nothing some_address
      · obtain ⟨endpoint, accepted⟩ := exists_mapM_eq_ok_iff.1 read address member
        exact absurd accepted (bad endpoint)
      · exact absurd zero attempts

end Settings

open Settings

/-- Pools have the size and the time to wait for a place that were set last, or the defaults. -/
structure PoolConfig.GoesBy (config : PoolConfig) (made : List Setting) : Prop where
  maxConnections : ∃ last, Last .maxConnections made last ∧ config.maxConnections = last.getD 8
  waitTimeout : ∃ last, Last .waitTimeout made last ∧ config.waitTimeout = last.getD (.ofSeconds 2)

/-- Connections are opened by what was set last, or by the defaults. A node that cannot be reached in
time is given up. Once it is reached, the handshake presents the password, behind the username if there
is one, and names the connection; and its reads and writes, and those of all requests that follow, are
under their time limits. So it is with the wires of a network whose dialer goes by the configuration. -/
structure ConnectionConfig.GoesBy (config : ConnectionConfig) (made : List Setting) : Prop where
  connectTimeout : ∃ last, Last .connectTimeout made last ∧ ∀ (σ : Type) (stream : Stream σ),
    Connection.establish stream config .stall =
      .error (.failed (.timeout "connect" (last.getD (.ofSeconds 2))))
  readTimeout : ∃ last, Last .readTimeout made last ∧ config.readTimeout = last.getD (.ofSeconds 2)
  writeTimeout : ∃ last, Last .writeTimeout made last ∧ config.writeTimeout = last.getD (.ofSeconds 2)
  presents : ∃ username password, Last .username made username ∧ Last .password made password ∧
    config.authRequest? = password.map fun password =>
      .array (.ofText "AUTH" :: (username.map Frame.ofText).toList ++ [.ofText password])
  names : ∃ last, Last .clientName made last ∧ config.nameRequest? = last.map fun name =>
    .array [.ofText "CLIENT", .ofText "SETNAME", .ofText name]
  opens : ∀ (σ : Type) (stream : Stream σ) (state : σ), ∃ auth setName outcome,
    Connection.Handshake stream (.ofConfig config state) config auth setName outcome ∧
      Connection.establish stream config (.stream state) = outcome.1.map (fun _ => outcome.2) ∧
      ∀ requests, (outcome.2.afterRequests stream requests).Under config
  dials : ∀ script, Connection.establish Line.stream config (.stream { script }) =
    ((Dialer.ofConfig config).dial script).1.map fun _ => ((Dialer.ofConfig config).dial script).2

namespace Client

variable {made : List Setting} {error : ClientError}

/-- A client goes by the attempts and the translator that were set last, or by the defaults. -/
structure GoesBy (client : Client) (made : List Setting) : Prop where
  maxRedirects : ∃ last, Last .maxRedirects made last ∧
    client.dispatcher.maxRedirects = last.getD 5
  translator : ∃ last, Last .translator made last ∧
    client.dispatcher.translator = last.getD .identity

/-- A client is not built exactly if the settings do not pass the check. -/
theorem build_eq_error_iff {settings : Settings} :
    build settings = .error error ↔ settings.check = .error error := by
  -- After the check nothing can fail any more.
  unfold build
  cases settings.check <;> simp

/-- The client that settings describe goes by what was set last, if attempts are left. -/
theorem goesBy_ofSettings (attempts : ¬Last .maxRedirects made (some 0)) :
    (ofSettings (ofList made)).GoesBy made where
  maxRedirects := by
    -- The number that was set is used unless it is zero.
    obtain ⟨last, counts, shown⟩ := (reflects_ofList made).maxRedirects
    have positive : (ofList made).maxRedirects ≠ 0 := mt maxRedirects_eq_zero_iff.1 attempts
    refine ⟨last, counts, ?_⟩
    -- The least number of attempts makes no difference.
    rw [← shown]
    exact Nat.max_eq_left (Nat.one_le_iff_ne_zero.2 positive)
  translator := (reflects_ofList made).translator

/-- The connections that settings describe go by what was set last. -/
theorem connection_goesBy (made : List Setting) : (ofList made).connection.GoesBy made where
  connectTimeout := by
    obtain ⟨last, counts, shown⟩ := (reflects_ofList made).connectTimeout
    exact ⟨last, counts, fun σ stream => by rw [← shown]; rfl⟩
  readTimeout := (reflects_ofList made).readTimeout
  writeTimeout := (reflects_ofList made).writeTimeout
  presents := by
    -- The username and the password are set apart from each other, and presented together.
    obtain ⟨username, first, user⟩ := (reflects_ofList made).username
    obtain ⟨password, second, secret⟩ := (reflects_ofList made).password
    exact ⟨username, password, first, second, by rw [← user, ← secret]; rfl⟩
  names := by
    obtain ⟨name, counts, shown⟩ := (reflects_ofList made).clientName
    exact ⟨name, counts, by rw [← shown]; rfl⟩
  opens σ stream state := by
    obtain ⟨auth, setName, outcome, shaken, established, under⟩ :=
      Connection.establish_by_steps stream (ofList made).connection state
    exact ⟨auth, setName, outcome, shaken, established, under.afterRequests⟩
  dials := Connection.establish_line (ofList made).connection

/-- A new client has no pools yet, and those that are ever made from its state on go by what was set
last, whatever programs run. -/
theorem pools_goBy {α : Type} (made : List Setting) (moves : List (Move α)) :
    (({ state := .initial (ofList made).pool } : System α).run moves).state.topology.Throughout
      (·.GoesBy made) := by
  -- The state holds no pool, but the configuration for all that will be made.
  have goes : (ofList made).pool.GoesBy made :=
    ⟨(reflects_ofList made).maxConnections, (reflects_ofList made).waitTimeout⟩
  have fresh : (ClientState.initial (ofList made).pool).topology.Throughout (·.GoesBy made) :=
    ⟨goes, fun id pool found => by simp [ClientState.initial, Topology.pool?] at found⟩
  exact fresh.run moves

/-- A client is refused exactly if its settings give no address or one that names no endpoint, or if
they set the attempts at a command to none last. Then the first of these faults is told as an invalid
argument, and there is no program that could take a step. Any other settings come to a client that is
about to start, with a program that ends with the client whatever its steps are answered. It starts from
the endpoints that the addresses name. Of everything it goes by what was set last, or by the default: the
client by the attempts and the translator, all pools that are ever made in runs from its state on by
their size and the time to wait, and its connections by their time limits and by what the handshake
presents. -/
theorem built_as_set (made : List Setting) :
    let settings := ofList made
    (∀ error, build settings = .error error ↔ Unfit made error) ∧
    ((∃ error, Unfit made error) ↔ given made = [] ∨
      (∃ address ∈ given made, ∀ endpoint, Endpoint.ofAddress address ≠ .ok endpoint) ∨
        Last .maxRedirects made (some 0)) ∧
    (∀ error, Unfit made error → ∃ message, error = .invalidArgument message) ∧
    ((∀ error, ¬Unfit made error) → ∃ startup bootstrap client,
      build settings = .ok startup ∧
      (∀ (σ : Type) (respond : (op : Op) → σ → op.Answer × σ) (state : σ),
        (startup.program.run respond state).1 = client) ∧
      startup.program =
        (Discovery.start client.dispatcher.translator bootstrap).bind (fun _ => .done client) ∧
      Endpoint.AllNamed (given made) bootstrap ∧ client.GoesBy made ∧
      (∀ (α : Type) (moves : List (Move α)),
        (({ state := startup.state } : System α).run moves).state.topology.Throughout
          (·.GoesBy made)) ∧
      startup.connection.GoesBy made) := by
  intro settings
  -- The check is all that can refuse.
  have refusals (error : ClientError) : build settings = .error error ↔ Unfit made error :=
    build_eq_error_iff.trans check_eq_error_iff
  refine ⟨refusals, exists_unfit_iff, fun _ => Unfit.invalidArgument, fun fit => ?_⟩
  obtain ⟨error, unfit⟩ | ⟨some_address, ⟨bootstrap, read⟩, attempts⟩ := fit_or_unfit made
  · exact absurd unfit (fit error)
  -- The program starts the client from the endpoints that were read, and then is done.
  · refine ⟨_, bootstrap, ofSettings settings, build_of_check
      (check_of_fit some_address read attempts), fun σ respond state => ?_, rfl,
      mapM_eq_ok_iff.1 read, goesBy_ofSettings attempts, fun α => pools_goBy made,
      connection_goesBy made⟩
    -- Whether any node has answered while the client starts is not asked for.
    simp [Program.run, settings]

-- Without an address, nothing is said about the attempts.
example : build (ofList [.maxRedirects 0, .addresses " ,, "]) =
    .error (.invalidArgument "at least one node address is required") :=
  rfl

end Client

end RedisCluster
