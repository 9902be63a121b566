import CrossQuery.Json.Shape
import CrossQuery.Text.Numeral

/-!
# Connections to PostgreSQL

How a server is reached, and the connection string that says so: pairs of names and values, with
the values that may hold any character in quotes.
-/

set_option autoImplicit false

namespace CrossQuery.Postgres

/-- How a connection is protected. -/
inductive TlsMode where
  | disable
  | prefer
  | require
  | verifyCa
  | verifyFull
deriving DecidableEq

def TlsMode.name : TlsMode → String
  | .disable => "disable"
  | .prefer => "prefer"
  | .require => "require"
  | .verifyCa => "verify_ca"
  | .verifyFull => "verify_full"

def TlsMode.names : List (String × TlsMode) :=
  [TlsMode.disable, .prefer, .require, .verifyCa, .verifyFull].map fun mode => (mode.name, mode)

/-- The name of a mode in a connection string, which knows no mode that verifies the server. -/
def TlsMode.connectionName : TlsMode → String
  | .disable => "disable"
  | .prefer => "prefer"
  | .require | .verifyCa | .verifyFull => "require"

/-- Whether a mode verifies the certificate of the server in any case. -/
def TlsMode.isStrict : TlsMode → Bool
  | .verifyCa | .verifyFull => true
  | _ => false

/-- How a server is reached. -/
structure Settings where
  host : String
  port : Nat
  database : String
  username : String
  /-- Never written to a file. -/
  password : String
  tlsMode : TlsMode
  /-- Accept any certificate, unless the mode is strict. -/
  acceptInvalidCertificates : Bool
  /-- A file with more certificates to trust. -/
  certificatePath : Option String
  poolSize : Nat
deriving DecidableEq

namespace Settings

/-- What is left out has these values. -/
def standard : Settings :=
  { host := "localhost"
    port := 5432
    database := "postgres"
    username := "postgres"
    password := ""
    tlsMode := .prefer
    acceptInvalidCertificates := false
    certificatePath := none
    poolSize := 16 }

def read? (value : Json) : Option Settings := do
  let record ← value.record?
    ["host", "port", "database", "username", "password", "ssl_mode", "accept_invalid_certs",
      "ca_cert_path", "pool_size"]
  some
    { host := ← record.defaulted "host" standard.host Json.readText?
      port := ← record.defaulted "port" standard.port (Json.readUnsigned? 16)
      database := ← record.defaulted "database" standard.database Json.readText?
      username := ← record.defaulted "username" standard.username Json.readText?
      password := ← record.defaulted "password" standard.password Json.readText?
      tlsMode :=
        ← record.defaulted "ssl_mode" standard.tlsMode (Json.readChoice? TlsMode.names)
      acceptInvalidCertificates :=
        ← record.defaulted "accept_invalid_certs" standard.acceptInvalidCertificates
          Json.readBool?
      certificatePath :=
        ← record.defaulted "ca_cert_path" standard.certificatePath (Json.nullable Json.readText?)
      poolSize := ← record.defaulted "pool_size" standard.poolSize (Json.readUnsigned? 64) }

/-- Settings as JSON, without the password. -/
def toJson (settings : Settings) : Json :=
  .object
    [("host", .string settings.host), ("port", Json.ofNat settings.port),
      ("database", .string settings.database), ("username", .string settings.username),
      ("ssl_mode", .string settings.tlsMode.name),
      ("accept_invalid_certs", .bool settings.acceptInvalidCertificates),
      ("ca_cert_path", Json.ofOption .string settings.certificatePath),
      ("pool_size", Json.ofNat settings.poolSize)]

/-- A text with each occurrence of a character replaced by another text. -/
def replaceChar (c : Char) (replacement text : List Char) : List Char :=
  text.flatMap fun other => if other = c then replacement else [other]

/-- A value as it stands between quotes. Backslashes are escaped first, and then quotes. -/
def escape (value : List Char) : List Char :=
  replaceChar '\'' ['\\', '\''] (replaceChar '\\' ['\\', '\\'] value)

def quote (value : String) : String :=
  String.ofList ('\'' :: escape value.toList ++ ['\''])

/-- The pairs of a connection string, with the values as they are written. -/
def connectionPairs (settings : Settings) : List (String × String) :=
  [("host", quote settings.host), ("port", String.ofList (Text.writeNat settings.port)),
    ("dbname", quote settings.database), ("user", quote settings.username),
    ("password", quote settings.password), ("sslmode", settings.tlsMode.connectionName),
    ("connect_timeout", "10")]

def connectionString (settings : Settings) : String :=
  String.intercalate " " (settings.connectionPairs.map fun pair => pair.1 ++ "=" ++ pair.2)

/-- The settings in a few words, without the password. -/
def display (settings : Settings) : String :=
  settings.username ++ "@" ++ settings.host ++ ":" ++
    String.ofList (Text.writeNat settings.port) ++ "/" ++ settings.database

/-- The file of certificates that a connection needs. -/
def neededCertificates? (settings : Settings) : Option String :=
  if settings.tlsMode = .disable then none
  else if settings.acceptInvalidCertificates && !settings.tlsMode.isStrict then none
  else settings.certificatePath

end Settings

end CrossQuery.Postgres
