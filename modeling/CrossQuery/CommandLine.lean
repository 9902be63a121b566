import CrossQuery.CommandLine.Arguments
import CrossQuery.Config
import CrossQuery.Dataset.Reader
import CrossQuery.Dataset.Stores
import CrossQuery.Engine.Store
import CrossQuery.Request.Reader
import CrossQuery.Text.Quoted

/-!
# Commands

What the commands of the program print, as a function of the files that they are given: run a
request, show what a store would be asked for it, or list the drivers.
-/

set_option autoImplicit false

namespace CrossQuery.CommandLine

/-- What a command finds where it runs. -/
structure Surroundings where
  /-- The text of a file, unless it cannot be read. -/
  read : String → Option String
  /-- The path of the configuration that is used if none is named. -/
  configPath : String
  /-- The password of a server that none is configured for. -/
  password : String

/-- What a command prints, and the code it exits with. -/
structure Outcome where
  exit : Nat
  output : String
  error : String
deriving DecidableEq

namespace Surroundings

/-- The configuration in a file. One that is not there is the standard one. -/
def loadConfig (around : Surroundings) (path : String) : Except String Config :=
  match around.read path with
  | none => .ok .standard
  | some text =>
    match Config.parse? text with
    | some config => .ok config
    | none => .error ("parsing " ++ path)

def loadDataset (around : Surroundings) (path : String) : Except String Dataset :=
  match around.read path with
  | none => .error ("Failed to read dataset " ++ path)
  | some text => (Dataset.parse text).mapError DatasetError.message

def loadRequest (around : Surroundings) (path : String) : Except String Request :=
  match around.read path with
  | none => .error ("reading " ++ path)
  | some text =>
    match Request.parse? text with
    | some request => .ok request
    | none => .error ("parsing request " ++ path)

/-- The settings of a server with the password that stands in for an empty one. -/
def withPassword (around : Surroundings) (settings : Postgres.Settings) : Postgres.Settings :=
  if settings.password.isEmpty then { settings with password := around.password } else settings

end Surroundings

def tablesDriver : String := "h2"

def documentsDriver : String := "mongo"

def postgresDriver : String := "postgres"

/-- The backends over the stores of a dataset. -/
def embeddedBackends (stores : EmbeddedStores) : List (Backend Site) :=
  [.tables tablesDriver .upperCase "database" stores.database stores.catalog,
    .documents documentsDriver "documents" stores.documents stores.catalog]

/-- The backend of a server, which is not reached from here: queries can be planned only. -/
def postgresBackend (settings : Postgres.Settings) (catalog : Catalog) : Backend Site :=
  { name := postgresDriver
    capabilities := .relational .lowerCase
    catalog := catalog
    native := NativeQuery.ofPlanForTables .lowerCase
    attempt := fun _ site =>
      ⟨.error (.connection ("no connection to " ++ settings.display)), 0, site⟩ }

/-- The backend of a configured server, whose file of certificates must be there. -/
def connectPostgres (around : Surroundings) (catalog : Catalog) (settings : Postgres.Settings) :
    Except String (Backend Site) :=
  let settings := around.withPassword settings
  match settings.neededCertificates? with
  | some path =>
    if (around.read path).isSome then .ok (postgresBackend settings catalog)
    else .error ("configuring postgres " ++ settings.display)
  | none => .ok (postgresBackend settings catalog)

/-- The backends over a dataset, and of the server if one is configured. -/
def backends (around : Surroundings) (config : Config) (dataset : Dataset) :
    Except String (List (Backend Site)) := do
  let stores ← dataset.embed.mapError DatasetError.message
  let embedded := embeddedBackends stores
  match config.postgres with
  | some settings =>
    return Backend.register embedded (← connectPostgres around stores.catalog settings)
  | none => return embedded

/-- Route a database to a driver, which must be there. -/
def bindDatabase (engine : Engine Site) (binding : DatabaseBinding) :
    Except String (Engine Site) :=
  match Backend.find engine.backends binding.driver with
  | .ok _ => .ok (engine.bind binding.id binding.driver)
  | .error _ =>
    .error
      ("database " ++ String.ofList (Text.writeInt binding.id) ++
        " is bound to unregistered driver " ++
        String.ofList (Text.quoted binding.driver.toList))

/-- The engine over the dataset and the configuration that are named. The database of a dataset is
routed to its tables at first. -/
def buildEngine (around : Surroundings) (invocation : Invocation) :
    Except String (Engine Site) := do
  let config ← around.loadConfig (invocation.config.getD around.configPath)
  let dataset ← invocation.dataset.mapM around.loadDataset
  let backends ←
    match dataset with
    | some dataset => backends around config dataset
    | none => .ok []
  let engine : Engine Site := ⟨backends, [], config.engine.settings⟩
  let engine :=
    match dataset with
    | some dataset => engine.bind dataset.databaseId tablesDriver
    | none => engine
  config.databases.foldlM bindDatabase engine

def describeBackend (backend : Backend Site) : Json :=
  .object
    [("name", .string backend.name), ("capabilities", backend.capabilities.toJson)]

def printed (exit : Nat) (output : String) : Outcome :=
  ⟨exit, output, ""⟩

def failed (message : String) : Outcome :=
  ⟨1, "", "Error: " ++ message⟩

def runRequest (engine : Engine Site) (request : Request) : Outcome :=
  let response := (engine.run request none .initial).response
  printed (if response.envelope?.isSome then 0 else 1) response.toJson.indented

/-- Show what a store would be asked for a request. -/
def planRequest (engine : Engine Site) (request : Request) : Outcome :=
  match engine.nativeQuery request with
  | .ok native => printed 0 native.text
  | .error failure => failed failure.message

def listDrivers (engine : Engine Site) : Outcome :=
  printed 0 (Json.array (engine.backends.map describeBackend)).indented

/-- The outcome of a command over an engine. -/
def answer (around : Surroundings) (engine : Engine Site) : Command → Except String Outcome
  | .drivers => .ok (listDrivers engine)
  | .run path => (around.loadRequest path).map (runRequest engine)
  | .plan path => (around.loadRequest path).map (planRequest engine)

/-- Run a command. The engine is built before the request is read. -/
def Invocation.run (invocation : Invocation) (around : Surroundings) : Outcome :=
  match buildEngine around invocation with
  | .error message => failed message
  | .ok engine =>
    match answer around engine invocation.command with
    | .ok outcome => outcome
    | .error message => failed message

def UsageError.outcome (error : UsageError) : Outcome :=
  ⟨2, "", error.message⟩

def run (arguments : List String) (around : Surroundings) : Outcome :=
  match Invocation.ofArguments arguments with
  | .ok invocation => invocation.run around
  | .error error => error.outcome

end CrossQuery.CommandLine
