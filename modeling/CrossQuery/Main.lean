import CrossQuery.CommandLine

/-!
# The program

Reads the files that the arguments name, and prints what the command yields.
-/

set_option autoImplicit false

namespace CrossQuery.CommandLine

/-- The text of a file, unless it cannot be read. -/
def readFile (path : String) : IO (String × Option String) := do
  try
    return (path, some (← IO.FS.readFile path))
  catch _ =>
    return (path, none)

/-- The path of the configuration that is used if none is named. -/
def standardConfigPath : IO String := do
  match ← IO.getEnv "XDG_CONFIG_HOME" with
  | some directory => return directory ++ "/crossquery/config.toml"
  | none => return ((← IO.getEnv "HOME").getD "") ++ "/.config/crossquery/config.toml"

/-- The surroundings in which the files with some paths have been read. -/
def surroundings (paths : List String) : IO Surroundings := do
  let configPath ← standardConfigPath
  let texts ← (configPath :: paths).mapM readFile
  let password := (← IO.getEnv "PGPASSWORD").getD ""
  return ⟨fun path => (texts.lookup path).join, configPath, password⟩

/-- The path of the certificates that a configured server needs. -/
def certificatePath? (around : Surroundings) (invocation : Invocation) : Option String := do
  let config ←
    (around.loadConfig (invocation.config.getD around.configPath)).toOption
  (← config.postgres).neededCertificates?

def surroundingsOf (invocation : Invocation) : IO Surroundings := do
  let around ← surroundings invocation.paths
  match certificatePath? around invocation with
  | some path => surroundings (path :: invocation.paths)
  | none => return around

def Outcome.print (outcome : Outcome) : IO UInt32 := do
  unless outcome.output.isEmpty do IO.println outcome.output
  unless outcome.error.isEmpty do IO.eprintln outcome.error
  return outcome.exit.toUInt32

end CrossQuery.CommandLine

open CrossQuery.CommandLine in
/-- Do what the arguments ask for. -/
def main (arguments : List String) : IO UInt32 := do
  match Invocation.ofArguments arguments with
  | .ok invocation => (invocation.run (← surroundingsOf invocation)).print
  | .error error => error.outcome.print
