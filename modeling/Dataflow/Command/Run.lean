import Dataflow.Command.Basic
import Dataflow.Files
import Dataflow.Generation.Generate
import Dataflow.Graph.Diff
import Dataflow.Graph.Tidy
import Dataflow.Graph.Traversal
import Dataflow.Json.Writer
import Dataflow.Manifest.Builtin
import Dataflow.Manifest.Json
import Dataflow.Validation.Report

/-!
# Running commands

What a command prints, writes and ends with, over any files and any network.
-/

namespace Dataflow

/-!
## Printed lines

How reports, repairs, differences and graphs are printed, line by line.
-/

/-- The lines of a report, errors first. -/
def Report.lines (r : Report) : List String :=
  (r.errors.map fun issue => "[ERROR] " ++ issue.line)
    ++ (r.placeholders.map fun p => "[PLACEHOLDER] " ++ p.id ++ " (" ++ p.type ++ ")")
    ++ (r.warnings.map fun issue => "[WARN] " ++ issue.line)
    ++ (if r.blockedSinks.isEmpty then []
      else ["[INFO] blocked sinks: " ++ String.intercalate ", " r.blockedSinks])

def Tidied.lines (t : Tidied) : List String := t.fixes.map fun fix => "[FIX] " ++ fix.line

def Diff.lines (d : Diff) : List String :=
  if d.isEmpty then ["No differences"]
  else
    (d.addedNodes.map ("+ node " ++ ·))
      ++ (d.removedNodes.map ("- node " ++ ·))
      ++ (d.addedEdges.map ("+ edge " ++ ·.text))
      ++ (d.removedEdges.map ("- edge " ++ ·.text))
      ++ (d.paramChanges.map fun c =>
        "~ params " ++ c.id ++ ": " ++ String.intercalate ", " c.keys)

/-- The line of a node, with the category of its type. -/
def Node.line (n : Node) (m : Manifest) : String :=
  let category := ((m.type? n.type).map (·.category)).getD "placeholder"
  "  " ++ n.id ++ " [" ++ n.type ++ "] " ++ category
    ++ (match n.label? with
      | some label => " \"" ++ label ++ "\""
      | none => "")

/-- The lines that describe a graph. -/
def Graph.lines (g : Graph) (m : Manifest) : List String :=
  let r := g.validate m
  [ "Nodes: " ++ g.nodes.length.repr,
    "Edges: " ++ g.edges.length.repr,
    "Status: " ++ (if r.ok then "valid" else "invalid")
      ++ " (" ++ r.errors.length.repr ++ " errors, " ++ r.warnings.length.repr
      ++ " warnings, " ++ r.placeholders.length.repr ++ " placeholders)",
    "Order: "
      ++ (if g.isAcyclic then String.intercalate " -> " g.order
        else "(graph contains a cycle)"),
    "",
    "Nodes:" ] ++ g.nodes.map (·.line m)

/-! ## Commands -/

/-- Why a command fails. -/
inductive CommandError where
  /-- A file cannot be read or written. -/
  | file (message : String)
  /-- The file of a graph is not JSON. -/
  | notJson
  /-- The file of a graph holds no graph. -/
  | notGraph (path : String) (cause : Graph.SchemaError)
  /-- An answer of a model reports more tokens than can be counted. -/
  | overflow
  /-- Another failure. -/
  | failed (failure : Failure)
  deriving DecidableEq

def CommandError.message : CommandError → String
  | .file message => message
  | .notJson => "invalid JSON"
  | .notGraph path cause => path ++ ": " ++ (Issue.schema cause).line
  | .overflow => "attempt to add with overflow"
  | .failed failure => failure.message

/-- What a command has printed so far, and the world of its calls. -/
structure Console (σ : Type) where
  stdout : List String := []
  stderr : List String := []
  world : σ

/-- The steps of a command. -/
abbrev Steps (σ : Type) (m : Type → Type) := ExceptT CommandError (StateT (Console σ) m)

/-- How a command ended: with an error, or saying whether it found all well. -/
structure Ending (σ : Type) where
  console : Console σ
  result : Except CommandError Bool

/-- The exit status. A command that breaks off has one of its own. -/
def Ending.status {σ : Type} (e : Ending σ) : Nat :=
  match e.result with
  | .ok true => 0
  | .error .overflow => 101
  | .ok false | .error _ => 1

namespace Command

variable {σ : Type} {m : Type → Type} [Monad m]

def say (lines : List String) : Steps σ m Unit :=
  modify fun s => { s with stdout := s.stdout ++ lines }

/-- Prints lines beside the output. -/
def note (lines : List String) : Steps σ m Unit :=
  modify fun s => { s with stderr := s.stderr ++ lines }

/-- The document in a file. -/
def document (files : Files m) (path : String) : Steps σ m Json := do
  match ← (files.read path : m _) with
  | .error message => throw (.file message)
  | .ok text =>
    match Json.parse? text with
    | some v => return v
    | none => throw .notJson

/-- The graph in a file. -/
def graph (files : Files m) (path : String) : Steps σ m Graph := do
  match Graph.ofDocument (← document files path) with
  | .ok g => return g
  | .error cause => throw (.notGraph path cause)

/-- The manifest in a file, or the built-in one. -/
def manifest (files : Files m) : Option String → Steps σ m Manifest
  | none => return Manifest.builtin
  | some path => do
    match ← (files.read path : m _) with
    | .error message => throw (.failed (.file message))
    | .ok text =>
      match Manifest.parse text with
      | .ok manifest => return manifest
      | .error failure => throw (.failed failure)

/-- Writes a tidied graph to a file, or prints it. -/
def deliver (files : Files m) (text : String) : Option String → Steps σ m Unit
  | none => say [text]
  | some path => do
    match ← (files.write path (text ++ "\n") : m _) with
    | .ok _ => note ["Wrote " ++ path]
    | .error message => throw (.file message)

/-- The settings of a plan; the time limit in milliseconds is the greatest there is
where the seconds are too many. -/
def settings (options : GenerateOptions) : Settings where
  timeoutMs := .ofNat (min (options.timeoutSecs.toNat * 1000) (UInt64.size - 1))

/-- The credentials of a plan. -/
def credentials (options : GenerateOptions) (env : String → Option String) :
    Credentials :=
  let c := Credentials.ofVariables env
  { c with preferredModel? := options.model?.or c.preferredModel? }

/-- Makes a plan and prints it; beside it, what is wrong with it and where it came
from. -/
def plan (types : Manifest) (options : GenerateOptions) (current? : Option Graph)
    (env : String → Option String) (transport : Transport σ) : Steps σ m Unit := do
  let planner : Planner := { manifest := types, settings := settings options }
  let task : Task := { intent := options.intent, summary := types.summarize, current? }
  match planner.generateWith task (credentials options env) options.preference transport
      { world := { world := (← get).world } } with
  | .error world =>
    modify fun s => { s with world }
    throw .overflow
  | .ok (plan, progress) =>
    modify fun s => { s with world := progress.world.world }
    note (plan.graph.validate types).lines
    note (if plan.notes = "" then [] else ["Notes: " ++ plan.notes])
    note ["Model: " ++ plan.modelUsed]
    say [plan.toJson.pretty]

/-- Carries out a command; whether all is well. -/
def run (command : Command) (types : Manifest) (files : Files m)
    (env : String → Option String) (transport : Transport σ) : Steps σ m Bool := do
  match command with
  | .validate path false =>
    let report := Report.ofDocument (← document files path) types
    say (report.lines ++ if report.ok then ["Graph is valid"] else [])
    return report.ok
  | .validate path true =>
    let tidied := (← graph files path).tidy types
    let report := tidied.graph.validate types
    say (tidied.lines ++ report.lines ++ if report.ok then ["Graph is valid"] else [])
    return report.ok
  | .fix path output? =>
    let tidied := (← graph files path).tidy types
    note tidied.lines
    deliver files tidied.graph.toJson.pretty output?
    return true
  | .diff before after =>
    let before ← graph files before
    let after ← graph files after
    say (Diff.between before after).lines
    return true
  | .info path =>
    say ((← graph files path).lines types)
    return true
  | .summarize =>
    say [types.summarize.toJson.pretty]
    return true
  | .generate options =>
    let current? ← options.current?.mapM (graph files)
    plan types options current? env transport
    return true

end Command

/-- Carries out a command line. The manifest is read before anything else. -/
def Invocation.run {σ : Type} {m : Type → Type} [Monad m] (i : Invocation) (files : Files m)
    (env : String → Option String) (transport : Transport σ) (world : σ) :
    m (Ending σ) := do
  let steps : Steps σ m Bool := do
    let types ← Command.manifest files i.manifest?
    i.command.run types files env transport
  let (result, console) ← (steps.run).run { world }
  return { console, result }

end Dataflow
