import Dataflow.Command.Options
import Dataflow.Provider.Basic
import Dataflow.Text.Basic

/-!
# Commands

What the command line can be asked to do.
-/

namespace Dataflow

namespace Program

/-- The name and the version. -/
def version : String := "nlpflow 0.5.0"

/-- How the program is called. -/
def usage : String := "Usage: nlpflow [OPTIONS] <COMMAND>"

end Program

/-- The wish for a plan. -/
structure GenerateOptions where
  intent : String
  current? : Option String := none
  preference : Preference := .default
  model? : Option String := none
  timeoutSecs : UInt64 := 60

/-- A command. Graphs are given by the paths of files. -/
inductive Command where
  /-- Report on a graph, perhaps after tidying it. -/
  | validate (graph : String) (fix : Bool)
  /-- Tidy a graph and write it. -/
  | fix (graph : String) (output? : Option String)
  /-- Say what changed from one graph to another. -/
  | diff (before after : String)
  /-- Describe a graph. -/
  | info (graph : String)
  /-- Print the summary of the manifest. -/
  | summarize
  /-- Make a plan. -/
  | generate (options : GenerateOptions)

/-- A command and the manifest to use instead of the built-in one. -/
structure Invocation where
  command : Command
  manifest? : Option String := none

namespace Command

/-- Whether a text can be the path of a file. -/
def isPath (text : String) : Bool := text != ""

/-- The preference of an option's value. -/
def preference? (text : String) : Option Preference := (Preference.parse text).toOption

/-- The options of every command. Logs are not written, verbose or not. -/
def sharedOptions : List OptionSpec := [
  { name := "manifest", letter? := some 'm', takes? := some isPath },
  { name := "verbose", letter? := some 'v' },
  { name := "help", letter? := some 'h' }]

/-- The options before a command. -/
def rootOptions : List OptionSpec :=
  { name := "version", letter? := some 'V' } :: sharedOptions

/-- Whether any text will do. -/
def isText (_ : String) : Bool := true

/-- What follows the name of a command, the shared options aside. -/
def ownArguments? : String → Option ArgumentSpec
  | "validate" => some { options := [{ name := "fix" }], places := [isPath] }
  | "fix" => some {
      options := [{ name := "output", letter? := some 'o', takes? := some isPath }]
      places := [isPath] }
  | "diff" => some { places := [isPath, isPath] }
  | "info" => some { places := [isPath] }
  | "summarize" => some {}
  | "generate" => some {
      options := [
        { name := "current", takes? := some isPath },
        { name := "provider", takes? := some fun text => (preference? text).isSome },
        { name := "model", takes? := some isText },
        { name := "timeout-secs", takes? := some fun text => (word? text.toList).isSome }]
      places := [isText] }
  | _ => none

/-- Whether there is help on a list of names: on none, on a command, on help itself. -/
def isHelpTopic : List String → Bool
  | [] => true
  | [name] => name == "help" || (ownArguments? name).isSome
  | _ => false

/-- The wish for a plan that arguments state. -/
def generateOptions (intent : String) (a : Arguments) : GenerateOptions where
  intent
  current? := a.value? "current"
  preference := ((a.value? "provider").bind preference?).getD .default
  model? := a.value? "model"
  timeoutSecs := ((a.value? "timeout-secs").bind fun text => word? text.toList).getD 60

/-- The command of a name and its arguments. -/
def ofArguments? (name : String) (a : Arguments) : Option Command :=
  match name, a.positionals with
  | "validate", [graph] => some (validate graph (a.flags.contains "fix"))
  | "fix", [graph] => some (fix graph (a.value? "output"))
  | "diff", [before, after] => some (diff before after)
  | "info", [graph] => some (info graph)
  | "summarize", [] => some summarize
  | "generate", [intent] => some (generate (generateOptions intent a))
  | _, _ => none

end Command

namespace Invocation

/-- Reads what follows the name of a command. An option there counts before one that
stands ahead of the name. -/
def ofCommand (root : Arguments) (name : String) (own : ArgumentSpec)
    (arguments : List String) : Except CommandStop Invocation := do
  let spec := { own with options := own.options ++ Command.sharedOptions }
  let (a, _) ← Arguments.read spec true {} arguments
  match Command.ofArguments? name a with
  | none => .error .invalid
  | some command =>
    .ok { command, manifest? := (a.value? "manifest").or (root.value? "manifest") }

def parse (arguments : List String) : Except CommandStop Invocation := do
  let (root, rest) ← Arguments.read { options := Command.rootOptions } false {} arguments
  match rest with
  | [] => .error .invalid
  | "help" :: topic => .error (if Command.isHelpTopic topic then .help else .invalid)
  | name :: rest =>
    match Command.ownArguments? name with
    | none => .error .invalid
    | some own => ofCommand root name own rest

end Invocation

end Dataflow
