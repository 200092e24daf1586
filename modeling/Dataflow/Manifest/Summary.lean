import Dataflow.Manifest.Json
import Dataflow.Text.Basic

/-!
# Manifest summaries

The short form of a manifest that planners get to see: an entry a type, in
order of name, with the names and kinds of its parameters instead of their
values, and a description that is cut.
-/

namespace Dataflow

/-- What a summary says of a node type. -/
structure SummaryEntry where
  type : String
  name : String
  category : String
  description : String
  inputs : UInt32
  outputs : UInt32
  requiresInput : Bool
  defaultKeys : List String
  defaultKinds : Table String
  ports : Ports
  hints? : Option Hints

namespace SummaryEntry

def descriptionLimit : Nat := 200

def ofType (type : String) (t : NodeType) : SummaryEntry where
  type
  name := t.name?.getD type
  category := if t.category = "" then "Unknown" else t.category
  description := firstChars descriptionLimit t.description
  inputs := t.inputs?.getD 0
  outputs := t.outputs?.getD 0
  requiresInput := t.requiresInput
  defaultKeys := t.defaults.keys
  defaultKinds := t.defaults.map fun _ value => value.kind
  ports := t.ports
  hints? := t.hints?

def toJson (e : SummaryEntry) : Json :=
  .object (
    [("type", .string e.type),
      ("name", .string e.name),
      ("category", .string e.category),
      ("description", .string e.description),
      ("inputs", Json.ofWord32 e.inputs),
      ("outputs", Json.ofWord32 e.outputs),
      ("requiresInput", .bool e.requiresInput),
      ("defaultKeys", Json.ofStrings e.defaultKeys),
      ("defaultTypes", Json.ofTable (e.defaultKinds.map fun _ kind => .string kind)),
      ("io", e.ports.toJson)]
      ++ Json.fieldOf "aiHints" Hints.toJson e.hints?)

end SummaryEntry

/-- The short form of a manifest. -/
abbrev Summary := List SummaryEntry

namespace Summary

def toJson (s : Summary) : Json := .array (s.map SummaryEntry.toJson)

def types (s : Summary) : List String := s.map (·.type)

end Summary

def Manifest.summarize (m : Manifest) : Summary :=
  m.types.entries.map fun entry => .ofType entry.1 entry.2

end Dataflow
