import RedisCluster.Proofs.Client.Rules

/-! The client's own business beside a command: whatever it does on the way to a node, it sends nothing
but pings and questions about the layout, and it closes nothing. -/

namespace RedisCluster

/-- A step of the client's own business. It sends pings and questions about the layout only; it neither
starts over, nor closes anything, nor opens connections past all pools. -/
def Op.isBusiness : Op → Bool
  | .send _ .ping | .answer _ .ping | .send _ .layout | .answer _ .layout => true
  | .send _ _ | .answer _ _ | .reset | .close | .closePool _ | .dial _ => false
  | _ => true

/-- A step on the way to a node that is alive: it looks at the pools, checks a connection out or gives
one back, or sends a ping. -/
def Op.isSounding : Op → Bool
  | .isClosed | .knownPools | .enter _ | .awaitPermit _ _ | .takeIdle _ _ | .connect _ _ | .leave _ _
  | .send _ .ping | .answer _ .ping => true
  | _ => false

/-- A step of loading the layout anew: it looks at the pools, checks a connection out or gives one back,
sends a question about the layout, loads the answer, or begins or ends all this. -/
def Op.isReloading : Op → Bool
  | .knownPools | .enter _ | .awaitPermit _ _ | .takeIdle _ _ | .connect _ _ | .leave _ _
  | .send _ .layout | .answer _ .layout | .rebuild _ | .beginRediscovery | .endRediscovery => true
  | _ => false

/-- A step that closes a pool, or the client as a whole. -/
def Op.closes : Op → Bool
  | .reset | .close | .closePool _ => true
  | _ => false

/-- A step that sends or answers `ASKING`. -/
def Op.asks : Op → Bool
  | .send _ .asking | .answer _ .asking => true
  | _ => false

namespace Op

/-- Who looks for a node that is alive goes about the client's own business. -/
theorem business_of_sounding {op : Op} (sounding : op.isSounding = true) : op.isBusiness = true := by
  cases op with
  -- Of all requests only pings are for this.
  | send lease request => cases request <;> first | rfl | simp [isSounding] at sounding
  | answer lease request => cases request <;> first | rfl | simp [isSounding] at sounding
  | _ => first | rfl | simp [isSounding] at sounding

/-- Who loads the layout anew goes about the client's own business. -/
theorem business_of_reloading {op : Op} (reloading : op.isReloading = true) :
    op.isBusiness = true := by
  cases op with
  -- Of all requests only questions about the layout are for this.
  | send lease request => cases request <;> first | rfl | simp [isReloading] at reloading
  | answer lease request => cases request <;> first | rfl | simp [isReloading] at reloading
  | _ => first | rfl | simp [isReloading] at reloading

/-- The client's own business closes nothing. -/
theorem closes_of_business {op : Op} (own : op.isBusiness = true) : op.closes = false := by
  -- What closes is ruled out by name in `isBusiness`.
  cases op <;> first | rfl | simp [isBusiness] at own

/-- The client's own business needs no `ASKING`. -/
theorem asks_of_business {op : Op} (own : op.isBusiness = true) : op.asks = false := by
  cases op with
  -- Only requests can be `ASKING`, and of these only two kinds belong to the business.
  | send lease request => cases request <;> first | rfl | simp [isBusiness] at own
  | answer lease request => cases request <;> first | rfl | simp [isBusiness] at own
  | _ => rfl

end Op

namespace Program

/-- A program that goes about the client's own business. -/
abbrev Business {α : Type} (program : Program α) : Prop :=
  program.Within fun op => op.isBusiness = true

variable {allowed : Op → Prop}

/-- Checking a connection out takes the four steps of a pool at most. -/
theorem acquire_within (pool : PoolRef) (entering : allowed (.enter pool))
    (waiting : ∀ ticket, allowed (.awaitPermit pool ticket))
    (taking : ∀ ticket, allowed (.takeIdle pool ticket))
    (opening : ∀ ticket, allowed (.connect pool ticket)) : (acquire pool).Within allowed := by
  -- Those who have to wait do so inside of the pool.
  -- Each of the steps may be the last one.
  refine ⟨entering, fun entered => ?_⟩
  cases entered with
  | error error => trivial
  | ok ticket =>
    refine ⟨waiting ticket, fun permit => ?_⟩
    cases permit with
    | error error => trivial
    | ok granted =>
      refine ⟨taking ticket, fun reused => ?_⟩
      cases reused with
      | true => trivial
      | false =>
        refine ⟨opening ticket, fun connected => ?_⟩
        cases connected <;> trivial

/-- Giving a connection back takes one step of a pool at most. -/
theorem release_within (lease : Lease) (leaving : ∀ pool ticket, allowed (.leave pool ticket)) :
    (release lease).Within allowed := by
  -- A direct connection was never in a pool.
  cases lease with
  | pooled pool ticket => exact ⟨leaving pool ticket, fun _ => trivial⟩
  | direct node number => trivial

/-- A question is sent and answered. -/
theorem request_within (lease : Lease) (request : Request) (sending : allowed (.send lease request))
    (answering : allowed (.answer lease request)) :
    (Program.request lease request).Within allowed :=
  ⟨sending, fun _ => ⟨answering, fun _ => trivial⟩⟩

/-- A question is asked over a connection of the node's pool, which is given back. -/
theorem inquire_within {α : Type} (pool : PoolRef) {request : Request}
    (acquired : (acquire pool).Within allowed)
    (requested : ∀ lease, (Program.request lease request).Within allowed)
    (released : ∀ lease, (release lease).Within allowed)
    {refuse : ClientError → Program α} {judge : Except ClientError Frame → Program α}
    (refused : ∀ error, (refuse error).Within allowed)
    (judged : ∀ reply, (judge reply).Within allowed) :
    (inquire pool request refuse judge).Within allowed := by
  refine acquired.bind fun acquired => ?_
  cases acquired with
  | error error => exact refused error
  -- Whatever was answered, the connection is back before the answer is judged.
  | ok lease => exact (requested lease).bind fun reply => (released lease).bind fun _ => judged reply

/-- Checking a connection out is the client's own business. -/
theorem acquire_business (pool : PoolRef) : (acquire pool).Business :=
  acquire_within pool rfl (fun _ => rfl) (fun _ => rfl) fun _ => rfl

/-- Giving a connection back is the client's own business. -/
theorem release_business (lease : Lease) : (release lease).Business :=
  release_within lease fun _ _ => rfl

end Program

namespace Discovery

/-- A rediscovery takes no steps but those of loading the layout anew. -/
theorem rediscover_reloading (translator : Translator) (preferred : Option PoolRef) :
    (rediscover translator preferred).Within fun op => op.isReloading = true := by
  -- A connection is taken, used and given back in steps that a reload may take.
  have acquired : ∀ pool, (Program.acquire pool).Within fun op => op.isReloading = true :=
    fun pool => Program.acquire_within pool rfl (fun _ => rfl) (fun _ => rfl) fun _ => rfl
  have released : ∀ lease, (Program.release lease).Within fun op => op.isReloading = true :=
    fun lease => Program.release_within lease fun _ _ => rfl
  have refreshed : ∀ pool, (refreshFrom translator pool).Within fun op => op.isReloading = true := by
    intro pool
    refine Program.inquire_within pool (acquired pool)
      (fun lease => Program.request_within lease _ rfl rfl) released (fun _ => trivial)
      fun reply => ?_
    -- A layout that cannot be read is not loaded.
    split
    · trivial
    · exact ⟨rfl, fun _ => trivial⟩
  have turns : ∀ pools,
      (firstRefreshed translator pools).Within fun op => op.isReloading = true := by
    intro pools
    -- The nodes are asked one by one until one of them has helped.
    induction pools with
    | nil => trivial
    | cons pool rest ih =>
      refine (refreshed pool).bind fun outcome => ?_
      cases outcome with
      | error error => exact ih
      | ok loaded => trivial
  -- The preferred node comes first, and the others only if it fails.
  have passed : (pass translator preferred).Within fun op => op.isReloading = true := by
    cases preferred with
    | none => exact ⟨rfl, fun known => turns _⟩
    | some pool =>
      refine (refreshed pool).bind fun outcome => ?_
      cases outcome with
      | error error => exact ⟨rfl, fun known => turns _⟩
      | ok loaded => trivial
  refine ⟨rfl, fun started => ?_⟩
  cases started with
  -- Somebody else is at it already.
  | false => trivial
  | true =>
    refine passed.bind fun found => ⟨rfl, fun _ => ?_⟩
    cases found <;> trivial

/-- A rediscovery is the client's own business. -/
theorem rediscover_business (translator : Translator) (preferred : Option PoolRef) :
    (rediscover translator preferred).Business :=
  (rediscover_reloading translator preferred).mono fun _ => Op.business_of_reloading

end Discovery

namespace Dispatcher

/-- Looking for a node that is alive is pinging the known ones. -/
theorem fallback_sounding : fallback.Within fun op => op.isSounding = true := by
  -- A ping needs a connection as well, in steps that a search may take.
  have acquired : ∀ pool, (Program.acquire pool).Within fun op => op.isSounding = true :=
    fun pool => Program.acquire_within pool rfl (fun _ => rfl) (fun _ => rfl) fun _ => rfl
  have released : ∀ lease, (Program.release lease).Within fun op => op.isSounding = true :=
    fun lease => Program.release_within lease fun _ _ => rfl
  have alive : ∀ pools failure,
      (firstAlive failure pools).Within fun op => op.isSounding = true := by
    -- The failure that is carried along has no part in what is done.
    intro pools
    induction pools with
    | nil => exact fun _ => trivial
    | cons pool rest ih =>
      intro failure
      have pinged : (ping pool).Within fun op => op.isSounding = true :=
        Program.inquire_within pool (acquired pool)
          (fun lease => Program.request_within lease _ rfl rfl) released
          (fun _ => trivial) fun _ => trivial
      refine pinged.bind fun pong => ?_
      cases pong with
      | error error => exact ih _
      | ok answered => trivial
  refine ⟨rfl, fun closed => ?_⟩
  cases closed with
  | true => trivial
  | false => exact ⟨rfl, fun known => alive known none⟩

/-- On the way to the owner of a slot no other slot is looked up, and the nodes are counted, pinged or
asked for the layout at most. -/
theorem ownerPool_within {allowed : Op → Prop} (dispatcher : Dispatcher) {slot : Option Nat}
    (looking : ∀ own, slot = some own → allowed (.owner own)) (counting : allowed .nodeCount)
    (sounding : ∀ op, op.isSounding = true → allowed op)
    (reloading : ∀ op, op.isReloading = true → allowed op) :
    (dispatcher.ownerPool slot).Within allowed := by
  have fallen : fallback.Within allowed := fallback_sounding.mono sounding
  -- A command without keys is content with any live node.
  cases slot with
  | none => exact fallen
  | some slot =>
    refine ⟨looking slot rfl, fun owner => ?_⟩
    cases owner with
    | some pool => trivial
    | none =>
      refine ⟨counting, fun known => ?_⟩
      simp only [Program.bind_done]
      split
      · exact fallen
      · -- With some node known, the layout is loaded before the slot is looked up again.
        refine ((Discovery.rediscover_reloading _ none).mono reloading).bind fun _ =>
          ⟨looking slot rfl, fun owner => ?_⟩
        cases owner with
        | some pool => trivial
        | none => exact fallen

/-- On the way to a pool its node may be looked up and registered, too. -/
theorem choose_within {allowed : Op → Prop} (dispatcher : Dispatcher) {slot : Option Nat}
    (route : Route) (looking : ∀ own, slot = some own → allowed (.owner own))
    (counting : allowed .nodeCount) (finding : ∀ node, allowed (.lookup node))
    (registering : ∀ node, allowed (.register node))
    (sounding : ∀ op, op.isSounding = true → allowed op)
    (reloading : ∀ op, op.isReloading = true → allowed op) :
    (dispatcher.choose slot route).Within allowed := by
  cases route with
  | owner =>
    exact (ownerPool_within dispatcher looking counting sounding reloading).bind fun _ => trivial
  | asking target =>
    refine ⟨finding target, fun known => ?_⟩
    cases known with
    -- A target that is known needs no pool of its own.
    | some pool => trivial
    | none => exact ⟨registering target, fun _ => trivial⟩

/-- The way to a pool is the client's own business. -/
theorem choose_business (dispatcher : Dispatcher) (slot : Option Nat) (route : Route) :
    (dispatcher.choose slot route).Business :=
  choose_within dispatcher route (fun _ _ => rfl) rfl (fun _ => rfl) (fun _ => rfl)
    (fun _ => Op.business_of_sounding) fun _ => Op.business_of_reloading

/-- No part of a command closes anything. -/
theorem execute_closes_nothing (dispatcher : Dispatcher) (command : Command) :
    (dispatcher.execute command).Within fun op => op.closes = false := by
  -- What is one's own business closes nothing, and only the attempt itself is not that.
  have own : ∀ {α : Type} {program : Program α}, program.Business →
      program.Within fun op => op.closes = false :=
    fun business => business.mono fun _ => Op.closes_of_business
  have requested : ∀ lease request,
      (Program.request lease request).Within fun op => op.closes = false :=
    fun _ _ => ⟨rfl, fun _ => ⟨rfl, fun _ => trivial⟩⟩
  have attempted : ∀ pool frame asking,
      (attempt pool frame asking).Within fun op => op.closes = false :=
    fun pool frame asking => attempt_within pool (own (Program.acquire_business pool))
      (fun _ lease => requested lease _) (fun lease => requested lease _)
      fun lease => own (Program.release_business lease)
  -- The five parts of a command are gone through, each of them by what it may do.
  exact execute_induction (fun _ program => program.Within fun op => op.closes = false)
    (fun _ => trivial) (fun first rest => first.bind rest) ⟨rfl, fun _ => trivial⟩
    (fun slot route => own (choose_business dispatcher slot route))
    (fun pool asking => attempted pool _ asking) (fun _ _ => ⟨rfl, fun _ => trivial⟩)
    fun preferred => own (Discovery.rediscover_business _ preferred)

end Dispatcher

end RedisCluster
