import RedisCluster.Endpoint.Address

/-! Settings of a client, collected one by one and checked before it is built. -/

namespace RedisCluster

/-- How connections to nodes are opened. -/
structure ConnectionConfig where
  connectTimeout : Duration := .ofSeconds 2
  readTimeout : Duration := .ofSeconds 2
  writeTimeout : Duration := .ofSeconds 2
  username : Option String := none
  password : Option String := none
  clientName : Option String := none

namespace ConnectionConfig

/-- A connection configuration as messages show it; the password stays out. -/
def outline (config : ConnectionConfig) : String :=
  Outline.record "ConnectionConfig"
    [("connect_timeout", config.connectTimeout.text),
      ("read_timeout", config.readTimeout.text),
      ("write_timeout", config.writeTimeout.text),
      ("username", Outline.option (config.username.map Quoted.text)),
      ("password", Outline.option (config.password.map fun _ => Quoted.text "<redacted>")),
      ("client_name", Outline.option (config.clientName.map Quoted.text))]

end ConnectionConfig

/-- How many connections a node may have, and how long a caller waits for one. -/
structure PoolConfig where
  maxConnections : Nat := 8
  waitTimeout : Duration := .ofSeconds 2
deriving DecidableEq

namespace PoolConfig

/-- A pool configuration as messages show it. -/
def outline (config : PoolConfig) : String :=
  Outline.record "PoolConfig"
    [("max_connections_per_node", toString config.maxConnections),
      ("wait_timeout", config.waitTimeout.text)]

end PoolConfig

/-- One setting that a user makes. -/
inductive Setting where
  | node (endpoint : Endpoint)
  | nodes (endpoints : List Endpoint)
  | addresses (text : String)
  | username (text : String)
  | password (text : String)
  | clientName (text : String)
  | connectTimeout (limit : Duration)
  | readTimeout (limit : Duration)
  | writeTimeout (limit : Duration)
  | maxConnections (count : Nat)
  | waitTimeout (limit : Duration)
  | maxRedirects (count : Nat)
  | translator (translator : Translator)

/-- All settings of a client; each one not made keeps its default. -/
structure Settings where
  addresses : List String := []
  connection : ConnectionConfig := {}
  pool : PoolConfig := {}
  maxRedirects : Nat := 5
  translator : Translator := .identity

namespace Settings

/-- The trimmed items of a list with commas, without the empty ones. -/
def splitAddresses (text : String) : List String :=
  let items := (pieces (· == ',') text.toList).map trimBlanks
  (items.filter fun item => !item.isEmpty).map String.ofList

/-- Makes one setting; addresses add up, every other setting replaces what was set before. -/
def make (settings : Settings) : Setting → Settings
  | .node endpoint =>
    -- An endpoint is kept as its text, and read again when the client is built.
    { settings with addresses := settings.addresses ++ [endpoint.socketAddress] }
  | .nodes endpoints =>
    { settings with addresses := settings.addresses ++ endpoints.map Endpoint.socketAddress }
  | .addresses text =>
    { settings with addresses := settings.addresses ++ splitAddresses text }
  | .username text =>
    { settings with connection := { settings.connection with username := some text } }
  | .password text =>
    { settings with connection := { settings.connection with password := some text } }
  | .clientName text =>
    { settings with connection := { settings.connection with clientName := some text } }
  | .connectTimeout limit =>
    { settings with connection := { settings.connection with connectTimeout := limit } }
  | .readTimeout limit =>
    { settings with connection := { settings.connection with readTimeout := limit } }
  | .writeTimeout limit =>
    { settings with connection := { settings.connection with writeTimeout := limit } }
  | .maxConnections count =>
    { settings with pool := { settings.pool with maxConnections := count } }
  | .waitTimeout limit =>
    { settings with pool := { settings.pool with waitTimeout := limit } }
  | .maxRedirects count => { settings with maxRedirects := count }
  | .translator translator => { settings with translator := translator }

/-- The settings that result from making some in order. -/
def ofList (made : List Setting) : Settings :=
  made.foldl make {}

/-- The endpoints to start from; without any address there is nothing to connect to. -/
def bootstrap (settings : Settings) : Except ClientError (List Endpoint) :=
  -- Nothing was given, not even an address that is wrong.
  if settings.addresses = [] then
    .error (.invalidArgument "at least one node address is required")
  else settings.addresses.mapM Endpoint.ofAddress

/-- The bootstrap endpoints, if the settings describe a client at all. -/
def check (settings : Settings) : Except ClientError (List Endpoint) :=
  match settings.bootstrap with
  | .error error => .error error
  -- The addresses are checked first.
  | .ok endpoints =>
    if settings.maxRedirects = 0 then
      .error (.invalidArgument "max_redirects must be at least 1")
    else .ok endpoints

end Settings

end RedisCluster
