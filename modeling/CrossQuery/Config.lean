import CrossQuery.Engine
import CrossQuery.Postgres.Settings
import CrossQuery.Toml.Reader

/-!
# Configuration

The settings in a configuration file: the limits of the engine, the drivers that databases are
routed to, and the PostgreSQL server. Whatever is left out has a standard value.
-/

set_option autoImplicit false

namespace CrossQuery

/-- The limits of an engine as they are configured. Zero turns a limit off. -/
structure EngineConfig where
  timeoutMs : Nat
  maxRetries : Nat
  retryBackoffMs : Nat
  maxResultRows : Nat
deriving DecidableEq

namespace EngineConfig

def standard : EngineConfig :=
  ⟨30000, 2, 100, 2000⟩

def read? (value : Json) : Option EngineConfig := do
  let record ← value.record?
    ["timeout_ms", "max_retries", "retry_backoff_ms", "max_result_rows"]
  some
    { timeoutMs := ← record.defaulted "timeout_ms" standard.timeoutMs (Json.readUnsigned? 64)
      maxRetries := ← record.defaulted "max_retries" standard.maxRetries (Json.readUnsigned? 32)
      retryBackoffMs :=
        ← record.defaulted "retry_backoff_ms" standard.retryBackoffMs (Json.readUnsigned? 64)
      maxResultRows :=
        ← record.defaulted "max_result_rows" standard.maxResultRows (Json.readUnsigned? 64) }

def toJson (config : EngineConfig) : Json :=
  .object
    [("timeout_ms", Json.ofNat config.timeoutMs), ("max_retries", Json.ofNat config.maxRetries),
      ("retry_backoff_ms", Json.ofNat config.retryBackoffMs),
      ("max_result_rows", Json.ofNat config.maxResultRows)]

/-- A limit, unless it is turned off. -/
def limit? (value : Nat) : Option Nat :=
  if value > 0 then some value else none

def settings (config : EngineConfig) : EngineSettings :=
  { timeout := limit? config.timeoutMs
    maxRetries := config.maxRetries
    retryBackoff := config.retryBackoffMs
    maxResultRows := limit? config.maxResultRows }

end EngineConfig

/-- The driver that a database is routed to. -/
structure DatabaseBinding where
  id : Int
  driver : String
deriving DecidableEq

def DatabaseBinding.read? (value : Json) : Option DatabaseBinding := do
  let record ← value.record? ["id", "driver"]
  some
    { id := ← record.required "id" Json.readInt64?
      driver := ← record.required "driver" Json.readText? }

def DatabaseBinding.toJson (binding : DatabaseBinding) : Json :=
  .object [("id", .whole binding.id), ("driver", .string binding.driver)]

structure Config where
  engine : EngineConfig
  databases : List DatabaseBinding
  postgres : Option Postgres.Settings
deriving DecidableEq

namespace Config

def standard : Config :=
  ⟨.standard, [], none⟩

def read? (value : Json) : Option Config := do
  let record ← value.record? ["engine", "databases", "postgres"]
  some
    { engine := ← record.defaulted "engine" standard.engine EngineConfig.read?
      databases :=
        ← record.defaulted "databases" standard.databases (Json.readList? DatabaseBinding.read?)
      postgres :=
        ← record.defaulted "postgres" standard.postgres (Json.nullable Postgres.Settings.read?) }

def parse? (text : String) : Option Config := do
  read? (← Toml.parse? text)

/-- A configuration as JSON, without the password. -/
def toJson (config : Config) : Json :=
  .object
    [("engine", config.engine.toJson),
      ("databases", .array (config.databases.map DatabaseBinding.toJson)),
      ("postgres", Json.ofOption Postgres.Settings.toJson config.postgres)]

def engineTable (config : EngineConfig) : String :=
  "[engine]\n" ++ Toml.writeWhole "timeout_ms" config.timeoutMs ++
    Toml.writeWhole "max_retries" config.maxRetries ++
    Toml.writeWhole "retry_backoff_ms" config.retryBackoffMs ++
    Toml.writeWhole "max_result_rows" config.maxResultRows

def bindingTable (binding : DatabaseBinding) : String :=
  "\n[[databases]]\n" ++ Toml.writeWhole "id" binding.id ++
    Toml.writeString "driver" binding.driver

/-- The table of a server, without the password. -/
def postgresTable (settings : Postgres.Settings) : String :=
  "\n[postgres]\n" ++ Toml.writeString "host" settings.host ++
    Toml.writeWhole "port" settings.port ++ Toml.writeString "database" settings.database ++
    Toml.writeString "username" settings.username ++
    Toml.writeString "ssl_mode" settings.tlsMode.name ++
    Toml.writeBool "accept_invalid_certs" settings.acceptInvalidCertificates ++
    ((settings.certificatePath.map (Toml.writeString "ca_cert_path")).getD "") ++
    Toml.writeWhole "pool_size" settings.poolSize

/-- A configuration as TOML, without the password. -/
def toToml (config : Config) : String :=
  engineTable config.engine ++ String.join (config.databases.map bindingTable) ++
    ((config.postgres.map postgresTable).getD "")

end Config

end CrossQuery
