/-!
# Arguments

The command that arguments ask for. The first argument names the command, and the options of the
command follow in any order, each with a path behind it or after an equals sign.
-/

set_option autoImplicit false

namespace CrossQuery.CommandLine

/-- A command with the path of the request that it needs. -/
inductive Command where
  | run (request : String)
  | plan (request : String)
  | drivers
deriving DecidableEq

/-- A command with the paths of the files that the engine is made of. -/
structure Invocation where
  command : Command
  dataset : Option String
  config : Option String
deriving DecidableEq

inductive Flag where
  | request
  | dataset
  | config
deriving DecidableEq

def Flag.usage : Flag → String
  | .request => "--request <REQUEST>"
  | .dataset => "--dataset <DATASET>"
  | .config => "--config <CONFIG>"

/-- Why arguments ask for nothing. -/
inductive UsageError where
  | noCommand
  | unknownCommand (name : String)
  | unexpected (argument : String)
  | missingPath (flag : Flag)
  | repeated (flag : Flag)
  | missingRequest
deriving DecidableEq

def UsageError.message : UsageError → String
  | .noCommand => "error: a command is required: run, plan or drivers"
  | .unknownCommand name => "error: unrecognized subcommand '" ++ name ++ "'"
  | .unexpected argument => "error: unexpected argument '" ++ argument ++ "' found"
  | .missingPath flag =>
    "error: a value is required for '" ++ flag.usage ++ "' but none was supplied"
  | .repeated flag => "error: the argument '" ++ flag.usage ++ "' cannot be used multiple times"
  | .missingRequest =>
    "error: the following required arguments were not provided:\n  " ++ Flag.request.usage

abbrev Paths := List (Flag × String)

/-- The option with a name, and what stands behind an equals sign. -/
def readFlag? (argument : List Char) : Option (Flag × Option String) :=
  let path : Option String :=
    match argument.dropWhile fun c => c ≠ '=' with
    | _ :: path => some (String.ofList path)
    | [] => none
  match String.ofList (argument.takeWhile fun c => c ≠ '=') with
  | "--request" => some (.request, path)
  | "--dataset" => some (.dataset, path)
  | "--config" => some (.config, path)
  | _ => none

/-- Add the path of an option, which may be given once and not be empty. -/
def addPath (paths : Paths) (flag : Flag) (path : String) : Except UsageError Paths :=
  if path.isEmpty then .error (.missingPath flag)
  else if (paths.lookup flag).isSome then .error (.repeated flag)
  else .ok ((flag, path) :: paths)

/-- Whether an argument is written like an option. -/
def isFlagLike (argument : String) : Bool :=
  ['-'].isPrefixOf argument.toList && argument.length > 1

/-- The paths that the arguments behind a command name. -/
def readPaths (allowed : List Flag) : Paths → List String → Except UsageError Paths
  | paths, [] => .ok paths
  | paths, argument :: rest =>
    match readFlag? argument.toList with
    | none => .error (.unexpected argument)
    | some (flag, path) =>
      if !allowed.contains flag then .error (.unexpected argument)
      else
        match path, rest with
        | some path, rest => do readPaths allowed (← addPath paths flag path) rest
        | none, [] => .error (.missingPath flag)
        | none, path :: rest =>
          if isFlagLike path then .error (.missingPath flag)
          else do readPaths allowed (← addPath paths flag path) rest

def withRequest (command : String → Command) (arguments : List String) :
    Except UsageError Invocation := do
  let paths ← readPaths [.request, .dataset, .config] [] arguments
  match paths.lookup .request with
  | none => throw .missingRequest
  | some request => return ⟨command request, paths.lookup .dataset, paths.lookup .config⟩

def Invocation.ofArguments : List String → Except UsageError Invocation
  | [] => .error .noCommand
  | "run" :: rest => withRequest .run rest
  | "plan" :: rest => withRequest .plan rest
  | "drivers" :: rest => do
    let paths ← readPaths [.dataset, .config] [] rest
    return ⟨.drivers, paths.lookup .dataset, paths.lookup .config⟩
  | argument :: _ =>
    .error (if isFlagLike argument then .unexpected argument else .unknownCommand argument)

def Command.request? : Command → Option String
  | .run request => some request
  | .plan request => some request
  | .drivers => none

def Invocation.paths (invocation : Invocation) : List String :=
  invocation.command.request?.toList ++ invocation.dataset.toList ++ invocation.config.toList

end CrossQuery.CommandLine
