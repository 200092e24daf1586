import Dataflow.Command.Run

/-!
# The program

The command line over the files and variables of the machine. It has no network:
every call to a model is refused, which leaves the plans of the fixed rules.
-/

namespace Dataflow.Program

/-- The wording of what went wrong with a file. -/
def fileMessage : IO.Error → String
  | .noFileOrDirectory .. => FileError.missing.message
  | .inappropriateType _ 20 _ => FileError.notDirectory.message
  | .inappropriateType _ 21 _ => FileError.isDirectory.message
  | .invalidArgument _ 36 _ => FileError.nameTooLong.message
  | e => toString e

/-- The files of the machine. -/
def files : Files IO where
  read path := do
    match ← (IO.FS.readFile path).toBaseIO with
    | .ok text => return .ok text
    | .error e => return .error (fileMessage e)
  write path text := do
    match ← (IO.FS.writeFile path text).toBaseIO with
    | .ok _ => return .ok ()
    | .error e => return .error (fileMessage e)

/-- The variables that hold credentials. -/
def credentialVariables : List String :=
  ["OPENAI_API_KEY", "PERPLEXITY_API_KEY", "OPENAI_PROXY_URL", "PERPLEXITY_PROXY_URL",
    "NLPFLOW_MODEL"]

/-- Carries out a command on the machine; the exit status. -/
def run (i : Invocation) : IO UInt32 := do
  let values ← credentialVariables.filterMapM fun name => do
    return (← IO.getEnv name).map (name, ·)
  let ending ← i.run files (values.lookup ·) (fun _ world => (⟨0, .refused⟩, world)) ()
  for line in ending.console.stdout do IO.println line
  for line in ending.console.stderr do IO.eprintln line
  if let .error e := ending.result then IO.eprintln ("Error: " ++ e.message)
  return .ofNat ending.status

end Dataflow.Program

def main (arguments : List String) : IO UInt32 := do
  match Dataflow.Invocation.parse arguments with
  | .ok i => Dataflow.Program.run i
  | .error .version =>
    IO.println Dataflow.Program.version
    return 0
  | .error .help =>
    IO.println Dataflow.Program.usage
    return 0
  | .error .invalid =>
    IO.eprintln Dataflow.Program.usage
    return 2
