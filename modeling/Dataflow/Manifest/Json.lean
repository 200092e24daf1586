import Dataflow.Failure
import Dataflow.Json.Reader
import Dataflow.Json.Value
import Dataflow.Manifest.Basic

/-!
# Manifests in JSON

Manifests are read strictly and written without what is absent.
-/

namespace Dataflow

/-!
## Reading

A manifest is an object of node types by name, alone or under the name `types`.
Node types are read strictly: a field of the wrong kind refuses the manifest.
-/

def InputMode.names : List (String × InputMode) :=
  [("single", .single), ("multi", .multi), ("variadic", .variadic)]

def InputType.ofJson? (v : Json) : Option InputType := do
  let r ← v.record? ["kind", "optional", "role"]
  let kind ← r.withDefault "kind" Json.string? ""
  let optional ← r.withDefault "optional" Json.bool? false
  let role? ← r.optional "role" Json.string?
  return { kind, optional, role? }

/-- Reads what a node type takes in and gives out. -/
def Ports.ofJson? (v : Json) : Option Ports := do
  let r ← v.record? ["inputTypes", "outputType", "inputMode", "minInputs"]
  let inputs ← r.withDefault "inputTypes" (Json.list? InputType.ofJson?) []
  let output ← r.withDefault "outputType" Json.string? ""
  let mode ← r.withDefault "inputMode" (Json.case? InputMode.names) .single
  let minInputs? ← r.optional "minInputs" Json.word?
  return { inputs, output, mode, minInputs? }

def Hints.ofJson? (v : Json) : Option Hints := do
  let r ← v.record?
    ["purpose", "whenToUse", "notFor", "preconditions", "postconditions", "requiresKeys",
      "proxyHint", "tags"]
  let purpose? ← r.optional "purpose" Json.string?
  let whenToUse? ← r.optional "whenToUse" Json.string?
  let notFor? ← r.optional "notFor" Json.string?
  let preconditions? ← r.optional "preconditions" Json.string?
  let postconditions? ← r.optional "postconditions" Json.string?
  let requiresKeys ← r.withDefault "requiresKeys" (Json.list? Json.string?) []
  let proxyHint? ← r.optional "proxyHint" Json.string?
  let tags ← r.withDefault "tags" (Json.list? Json.string?) []
  return {
    purpose?, whenToUse?, notFor?, preconditions?, postconditions?, requiresKeys, proxyHint?, tags }

def NodeType.ofJson? (v : Json) : Option NodeType := do
  let r ← v.record?
    ["name", "category", "description", "inputs", "outputs", "requiresInput", "defaults", "io",
      "aiHints"]
  let name? ← r.optional "name" Json.string?
  let category ← r.withDefault "category" Json.string? ""
  let description ← r.withDefault "description" Json.string? ""
  let inputs? ← r.optional "inputs" Json.word32?
  let outputs? ← r.optional "outputs" Json.word32?
  let requiresInput ← r.withDefault "requiresInput" Json.bool? false
  let defaults ← r.withDefault "defaults" Json.table? ∅
  let ports ← r.withDefault "io" Ports.ofJson? {}
  let hints? ← r.optional "aiHints" Hints.ofJson?
  return {
    name?, category, description, inputs?, outputs?, requiresInput, defaults, ports, hints? }

namespace Manifest

/-- Reads the fields of an object of node types. -/
def types? (fields : List (String × Json)) : Option (List (String × NodeType)) :=
  fields.mapM fun field => (NodeType.ofJson? field.2).map (field.1, ·)

/-- The value that holds the node types: the object under `types` where there is
one, else the whole. -/
def typesValue (v : Json) : Json :=
  match v.get? "types" with
  | some (.object fields) => .object fields
  | _ => v

def ofJson? (v : Json) : Option Manifest :=
  match typesValue v with
  | .object fields => (types? fields).map fun types => ⟨Table.ofList types⟩
  | _ => none

/-- Reads the text of a manifest. -/
def parse (text : String) : Except Failure Manifest :=
  match Json.parse? text with
  | none => .error (.manifest "invalid JSON")
  | some v =>
    match ofJson? v with
    | none => .error (.manifest "invalid node type descriptor")
    | some m => .ok m

end Manifest

/-!
## Writing

Optional parts that are absent, flags that are off and lists of hints that are
empty are not written.
-/

def InputMode.name : InputMode → String
  | .single => "single"
  | .multi => "multi"
  | .variadic => "variadic"

def InputType.toJson (t : InputType) : Json :=
  .object (
    [("kind", .string t.kind)]
      ++ (if t.optional then [("optional", .bool true)] else [])
      ++ Json.fieldOf "role" .string t.role?)

def Ports.toJson (p : Ports) : Json :=
  .object (
    [("inputTypes", .array (p.inputs.map InputType.toJson)),
      ("outputType", .string p.output),
      ("inputMode", .string p.mode.name)]
      ++ Json.fieldOf "minInputs" (fun n => .number (.natural n)) p.minInputs?)

def Hints.toJson (h : Hints) : Json :=
  .object (
    Json.fieldOf "purpose" .string h.purpose?
      ++ Json.fieldOf "whenToUse" .string h.whenToUse?
      ++ Json.fieldOf "notFor" .string h.notFor?
      ++ Json.fieldOf "preconditions" .string h.preconditions?
      ++ Json.fieldOf "postconditions" .string h.postconditions?
      ++ (if h.requiresKeys.isEmpty then []
        else [("requiresKeys", Json.ofStrings h.requiresKeys)])
      ++ Json.fieldOf "proxyHint" .string h.proxyHint?
      ++ (if h.tags.isEmpty then [] else [("tags", Json.ofStrings h.tags)]))

def NodeType.toJson (t : NodeType) : Json :=
  .object (
    Json.fieldOf "name" .string t.name?
      ++ [("category", .string t.category), ("description", .string t.description)]
      ++ Json.fieldOf "inputs" Json.ofWord32 t.inputs?
      ++ Json.fieldOf "outputs" Json.ofWord32 t.outputs?
      ++ [("requiresInput", .bool t.requiresInput),
        ("defaults", Json.ofTable t.defaults),
        ("io", t.ports.toJson)]
      ++ Json.fieldOf "aiHints" Hints.toJson t.hints?)

/-- The JSON form of a manifest: its node types under `types`. -/
def Manifest.toJson (m : Manifest) : Json :=
  .object [("types", Json.ofTable (m.types.map fun _ t => t.toJson))]

end Dataflow
