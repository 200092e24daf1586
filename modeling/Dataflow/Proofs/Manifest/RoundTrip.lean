import Dataflow.Manifest.Builtin
import Dataflow.Manifest.Json
import Dataflow.Proofs.Json.Records
import Dataflow.Proofs.Json.Written

/-!
# Manifests read back

What is left out of a written manifest is what its reader puts in its place, record by record
(`InputType.ofJson?_toJson`, `Ports.ofJson?_toJson`, `Hints.ofJson?_toJson`,
`NodeType.ofJson?_toJson`). A written manifest holds its types under one name, which is taken off
once, so that a type may go by that name, too.
-/

namespace Dataflow

open Json

/-! ## Records -/

/-- An input mode is found under its own name. -/
theorem InputMode.lookup_name (mode : InputMode) :
    InputMode.names.lookup mode.name = some mode := by
  cases mode <;> decide

namespace InputType

/-- The parts of a written input. -/
def parts (t : InputType) : List (String × Option Json) := [
  ("kind", some (.string t.kind)),
  ("optional", if t.optional = false then none else some (.bool true)),
  ("role", t.role?.map .string)]

theorem toJson_eq_object (t : InputType) : t.toJson = object (presentFields t.parts) := by
  cases optional : t.optional <;> simp [toJson, parts, optional]

theorem ofJson?_toJson (t : InputType) : ofJson? t.toJson.sorted = some t := by
  have distinct : (t.parts.map (·.1)).Nodup := by simp [parts]
  have kind : (partsRecord t.parts).withDefault "kind" string? "" = some t.kind :=
    withDefault_of_some rfl rfl
  have optional : (partsRecord t.parts).withDefault "optional" bool? false = some t.optional :=
    withDefault_of_ite rfl Eq.symm fun on => congrArg some (eq_true_of_ne_false on).symm
  have role : (partsRecord t.parts).optional "role" string? = some t.role? := optional_text rfl
  simp [ofJson?, toJson_eq_object, record?_presentFields distinct, kind, optional, role]

end InputType

namespace Ports

/-- The parts of written ports. -/
def parts (p : Ports) : List (String × Option Json) := [
  ("inputTypes", some (.array (p.inputs.map InputType.toJson))),
  ("outputType", some (.string p.output)),
  ("inputMode", some (.string p.mode.name)),
  ("minInputs", p.minInputs?.map fun n => .number (.natural n))]

theorem toJson_eq_object (p : Ports) : p.toJson = object (presentFields p.parts) := by
  simp [toJson, parts]

theorem ofJson?_toJson (p : Ports) : ofJson? p.toJson.sorted = some p := by
  have distinct : (p.parts.map (·.1)).Nodup := by simp [parts]
  have inputs : (partsRecord p.parts).withDefault "inputTypes" (list? InputType.ofJson?) [] =
      some p.inputs :=
    withDefault_of_some rfl (list?_sorted fun t _ => t.ofJson?_toJson)
  have output : (partsRecord p.parts).withDefault "outputType" string? "" = some p.output :=
    withDefault_of_some rfl rfl
  have mode : (partsRecord p.parts).withDefault "inputMode" (case? InputMode.names) .single =
      some p.mode :=
    withDefault_of_some rfl p.mode.lookup_name
  have least : (partsRecord p.parts).optional "minInputs" Json.word? = some p.minInputs? :=
    optional_of_map rfl (fun _ _ => rfl) nofun
  simp [ofJson?, toJson_eq_object, record?_presentFields distinct, inputs, output, mode, least]

end Ports

namespace Hints

/-- The parts of written hints. -/
def parts (h : Hints) : List (String × Option Json) := [
  ("purpose", h.purpose?.map .string),
  ("whenToUse", h.whenToUse?.map .string),
  ("notFor", h.notFor?.map .string),
  ("preconditions", h.preconditions?.map .string),
  ("postconditions", h.postconditions?.map .string),
  ("requiresKeys", if h.requiresKeys.isEmpty then none else some (ofStrings h.requiresKeys)),
  ("proxyHint", h.proxyHint?.map .string),
  ("tags", if h.tags.isEmpty then none else some (ofStrings h.tags))]

theorem toJson_eq_object (h : Hints) : h.toJson = object (presentFields h.parts) := by
  simp only [toJson, parts, presentFields_cons_map, presentFields_cons_ite, presentFields_nil,
    List.append_assoc, List.append_nil]

theorem ofJson?_toJson (h : Hints) : ofJson? h.toJson.sorted = some h := by
  have distinct : (h.parts.map (·.1)).Nodup := by simp [parts]
  have purpose : (partsRecord h.parts).optional "purpose" string? = some h.purpose? :=
    optional_text rfl
  have whenToUse : (partsRecord h.parts).optional "whenToUse" string? = some h.whenToUse? :=
    optional_text rfl
  have notFor : (partsRecord h.parts).optional "notFor" string? = some h.notFor? :=
    optional_text rfl
  have before : (partsRecord h.parts).optional "preconditions" string? = some h.preconditions? :=
    optional_text rfl
  have after : (partsRecord h.parts).optional "postconditions" string? = some h.postconditions? :=
    optional_text rfl
  have keys : (partsRecord h.parts).withDefault "requiresKeys" (list? string?) [] =
      some h.requiresKeys := withDefault_texts rfl
  have proxyHint : (partsRecord h.parts).optional "proxyHint" string? = some h.proxyHint? :=
    optional_text rfl
  have tags : (partsRecord h.parts).withDefault "tags" (list? string?) [] = some h.tags :=
    withDefault_texts rfl
  simp [ofJson?, toJson_eq_object, record?_presentFields distinct, purpose, whenToUse, notFor,
    before, after, keys, proxyHint, tags]

end Hints

/-- A number of 32 bits is read back from its JSON form. -/
theorem word32?_sorted (n : UInt32) : word32? (ofWord32 n).sorted = some n := by
  have fits : n.toUInt64.toNat < UInt32.size := by
    rw [UInt32.toNat_toUInt64]
    exact n.toNat_lt
  show (if n.toUInt64.toNat < UInt32.size then some (UInt32.ofNat n.toUInt64.toNat) else none) = _
  rw [if_pos fits, UInt32.toNat_toUInt64, UInt32.ofNat_toNat]

namespace NodeType

/-- The values of the defaults are sorted. -/
def IsSorted (t : NodeType) : Prop := ∀ e ∈ t.defaults.entries, e.2.IsSorted

/-- The parts of a written node type. -/
def parts (t : NodeType) : List (String × Option Json) := [
  ("name", t.name?.map .string),
  ("category", some (.string t.category)),
  ("description", some (.string t.description)),
  ("inputs", t.inputs?.map ofWord32),
  ("outputs", t.outputs?.map ofWord32),
  ("requiresInput", some (.bool t.requiresInput)),
  ("defaults", some (ofTable t.defaults)),
  ("io", some t.ports.toJson),
  ("aiHints", t.hints?.map Hints.toJson)]

theorem toJson_eq_object (t : NodeType) : t.toJson = object (presentFields t.parts) := by
  simp [toJson, parts]

theorem ofJson?_toJson {t : NodeType} (sorted : t.IsSorted) :
    ofJson? t.toJson.sorted = some t := by
  have distinct : (t.parts.map (·.1)).Nodup := by simp [parts]
  have name : (partsRecord t.parts).optional "name" string? = some t.name? := optional_text rfl
  have category : (partsRecord t.parts).withDefault "category" string? "" = some t.category :=
    withDefault_of_some rfl rfl
  have description : (partsRecord t.parts).withDefault "description" string? "" =
      some t.description := withDefault_of_some rfl rfl
  have inputs : (partsRecord t.parts).optional "inputs" word32? = some t.inputs? :=
    optional_of_map rfl (fun n _ => word32?_sorted n) nofun
  have outputs : (partsRecord t.parts).optional "outputs" word32? = some t.outputs? :=
    optional_of_map rfl (fun n _ => word32?_sorted n) nofun
  have requiresInput : (partsRecord t.parts).withDefault "requiresInput" bool? false =
      some t.requiresInput := withDefault_of_some rfl rfl
  have defaults : (partsRecord t.parts).withDefault "defaults" table? ∅ = some t.defaults := by
    refine withDefault_of_some rfl ?_
    rw [isSorted_ofTable sorted]
    exact congrArg some t.defaults.ofList_entries
  have ports : (partsRecord t.parts).withDefault "io" Ports.ofJson? {} = some t.ports :=
    withDefault_of_some rfl t.ports.ofJson?_toJson
  have hints : (partsRecord t.parts).optional "aiHints" Hints.ofJson? = some t.hints? := by
    refine optional_of_map rfl (fun h _ => h.ofJson?_toJson) fun h null => ?_
    rw [Hints.toJson, sorted_object] at null
    cases null
  simp [ofJson?, toJson_eq_object, record?_presentFields distinct, name, category, description,
    inputs, outputs, requiresInput, defaults, ports, hints]

end NodeType

/-- What was read of a sorted value has sorted defaults. -/
theorem NodeType.isSorted_of_ofJson? {v : Json} {t : NodeType} (sorted : v.IsSorted)
    (read : ofJson? v = some t) : t.IsSorted := by
  simp only [ofJson?, Option.bind_eq_bind, Option.bind_eq_some_iff, Option.pure_def,
    Option.some.injEq] at read
  obtain ⟨r, record, _, -, _, -, _, -, _, -, _, -, _, -, defaults, table, _, -, _, -, rfl⟩ := read
  intro e member
  unfold Record.withDefault at table
  split at table
  · cases table
    cases member
  · rename_i w held
    exact (sorted.record? record held).table? table e member

/-! ## How deep written manifests nest -/

/-- An object is legible one level above its fields. -/
theorem legible_presentFields {parts : List (String × Option Json)} {depth : Nat}
    (each : ∀ part ∈ parts, ∀ v ∈ part.2, Legible depth v) :
    Legible (depth + 1) (.object (presentFields parts)) := by
  refine .object fun field member => ?_
  obtain ⟨part, there, same⟩ := List.mem_filterMap.mp member
  obtain ⟨v, held, rfl⟩ := Option.map_eq_some_iff.mp same
  exact each part there v held

theorem legible_ofStrings {depth : Nat} (texts : List String) :
    Legible (depth + 1) (ofStrings texts) := by
  refine .array fun v member => ?_
  obtain ⟨text, -, rfl⟩ := List.mem_map.mp member
  exact .string text

theorem InputType.legible_toJson (t : InputType) : Legible 1 t.toJson := by
  rw [toJson_eq_object]
  refine legible_presentFields ?_
  simp [parts, Legible.string, Legible.bool]

theorem Ports.legible_toJson (p : Ports) : Legible 3 p.toJson := by
  have inputs : Legible 2 (.array (p.inputs.map InputType.toJson)) := by
    refine .array fun v member => ?_
    obtain ⟨t, -, rfl⟩ := List.mem_map.mp member
    exact t.legible_toJson
  have least : ∀ n, Legible 2 (.number (.natural n)) :=
    fun n => .number (Number.readsBack_natural n)
  rw [toJson_eq_object]
  refine legible_presentFields ?_
  simp [parts, Legible.string, inputs, least]

theorem Hints.legible_toJson (h : Hints) : Legible 2 h.toJson := by
  rw [toJson_eq_object]
  refine legible_presentFields ?_
  simp [parts, Legible.string, legible_ofStrings]

/-- Of a type it is the defaults that may nest deep. -/
theorem NodeType.legible_toJson {t : NodeType} {depth : Nat} (deep : 2 ≤ depth)
    (each : ∀ e ∈ t.defaults.entries, Legible depth e.2) : Legible (depth + 2) t.toJson := by
  have word : ∀ n, Legible (depth + 1) (ofWord32 n) := fun n => .number (Number.readsBack_natural _)
  have defaults : Legible (depth + 1) (ofTable t.defaults) := .object each
  have ports := t.ports.legible_toJson.mono (Nat.succ_le_succ deep)
  have hints := fun h : Hints => h.legible_toJson.mono (Nat.le_succ_of_le deep)
  rw [toJson_eq_object]
  refine legible_presentFields ?_
  simp [parts, Legible.string, Legible.bool, word, defaults, ports, hints]

/-! ## Manifests -/

namespace Manifest

/-- The values of the defaults of every type are sorted. -/
def IsSorted (m : Manifest) : Prop := ∀ e ∈ m.types.entries, e.2.IsSorted

/-- The defaults of the built-in types are scalars, which is looked up before the types are put in
order. -/
theorem builtin_isSorted : builtin.IsSorted := by
  have scalars : ∀ e ∈ builtin.types.entries, ∀ d ∈ e.2.defaults.entries, d.2.isScalar = true := by
    intro e member
    have listed := Table.mem_of_mem_ofList member
    clear member
    revert e
    decide +kernel
  exact fun e member d inside => isSorted_of_isScalar (scalars e member d inside)

theorem isSorted_of_ofJson? {v : Json} {m : Manifest} (sorted : v.IsSorted)
    (read : ofJson? v = some m) : m.IsSorted := by
  have inside : (typesValue v).IsSorted := by
    unfold typesValue
    split
    · rename_i held
      exact sorted.get? held
    · exact sorted
  unfold ofJson? at read
  split at read
  · rename_i fields same
    rw [same] at inside
    obtain ⟨found, types, rfl⟩ := Option.map_eq_some_iff.mp read
    intro e member
    obtain ⟨field, there, type⟩ := exists_of_mem_mapM types e (Table.mem_of_mem_ofList member)
    obtain ⟨t, read, rfl⟩ := Option.map_eq_some_iff.mp type
    exact NodeType.isSorted_of_ofJson? (inside.of_object field there) read
  · cases read

/-- Every manifest that was loaded has sorted defaults. -/
theorem isSorted_of_parse {text : String} {m : Manifest} (read : parse text = .ok m) :
    m.IsSorted := by
  unfold parse at read
  split at read
  · cases read
  · rename_i v found
    split at read
    · cases read
    · rename_i manifest decoded
      cases read
      exact isSorted_of_ofJson? (parse?_isSorted found) decoded

theorem legible_toJson {m : Manifest} {depth : Nat} (deep : 2 ≤ depth)
    (each : ∀ e ∈ m.types.entries, ∀ d ∈ e.2.defaults.entries, Legible depth d.2) :
    Legible (depth + 4) m.toJson := by
  refine .object fun field member => ?_
  obtain rfl := List.mem_singleton.mp member
  refine .object fun type member => ?_
  obtain ⟨e, there, rfl⟩ := List.mem_map.mp member
  exact NodeType.legible_toJson deep (each e there)

/-- An object of types under the name `types`. -/
def wrapped (types : Table Json) : Json := .object [("types", ofTable types)]

theorem sorted_wrapped (types : Table Json) :
    (wrapped types).sorted = wrapped (types.map fun _ v => v.sorted) := by
  rw [wrapped, sorted_object, List.map_singleton, sorted_ofTable]
  rfl

/-- Under `types` the entries are read one by one. -/
theorem ofJson?_wrapped (types : Table Json) :
    ofJson? (wrapped types) = (types? types.entries).map fun found => ⟨Table.ofList found⟩ := rfl

/-- Without a type of that name the object of types may stand alone. -/
theorem ofJson?_ofTable {types : Table Json} (apart : types.get? "types" = none) :
    ofJson? (ofTable types) = ofJson? (wrapped types) := by
  have whole : typesValue (ofTable types) = ofTable types := by
    have none : (ofTable types).get? "types" = none := apart
    rw [typesValue, none]
  rw [ofJson?, whole, ofJson?_wrapped]
  rfl

theorem ofJson?_toJson {m : Manifest} (sorted : m.IsSorted) :
    ofJson? m.toJson.sorted = some m := by
  have found : types? ((m.types.map fun _ t => t.toJson).map fun _ v => v.sorted).entries =
      some m.types.entries := by
    show List.mapM _ ((m.types.entries.map _).map _) = _
    rw [List.map_map]
    refine mapM_map_some fun e member => ?_
    show (NodeType.ofJson? e.2.toJson.sorted).map (e.1, ·) = some e
    rw [NodeType.ofJson?_toJson (sorted e member), Option.map_some]
  show ofJson? (wrapped _).sorted = _
  rw [sorted_wrapped, ofJson?_wrapped, found, Option.map_some, Table.ofList_entries]

theorem parse_eq_ok {text : String} {v : Json} {m : Manifest} (read : Json.parse? text = some v)
    (found : ofJson? v = some m) : parse text = .ok m := by
  simp [parse, read, found]

/-- Texts of values that read as the same manifest are parsed alike. -/
theorem parse_congr {text text' : String} {v v' : Json} (read : Json.parse? text = some v)
    (read' : Json.parse? text' = some v') (same : ofJson? v = ofJson? v') :
    parse text = parse text' := by
  simp [parse, read, read', same]

/-- A manifest that is written and loaded is the same again, and an object of types loads alike
whether it stands alone or under the name `types`, as long as no type goes by that name. Defaults
have to be in order, which they are in whatever was loaded. -/
theorem parse_written :
    (∀ m : Manifest, m.IsSorted → Legible Reader.nestingLimit m.toJson →
      parse m.toJson.compact = .ok m ∧ parse m.toJson.pretty = .ok m) ∧
    (∀ (text : String) (m : Manifest), parse text = .ok m →
      Legible Reader.nestingLimit m.toJson →
      parse m.toJson.compact = .ok m ∧ parse m.toJson.pretty = .ok m) ∧
    ∀ types : Table Json, types.get? "types" = none →
      (∀ alone whole, Json.parse? alone = some (ofTable types) →
        Json.parse? whole = some (wrapped types) → parse alone = parse whole) ∧
      (Legible Reader.nestingLimit (wrapped types) →
        parse (ofTable types).compact = parse (wrapped types).compact ∧
          parse (ofTable types).pretty = parse (wrapped types).pretty) := by
  have written : ∀ m : Manifest, m.IsSorted → Legible Reader.nestingLimit m.toJson →
      parse m.toJson.compact = .ok m ∧ parse m.toJson.pretty = .ok m := by
    intro m sorted legible
    have back := ofJson?_toJson sorted
    exact ⟨parse_eq_ok legible.parse?_compact back, parse_eq_ok legible.parse?_pretty back⟩
  refine ⟨written, fun text m loaded => written m (isSorted_of_parse loaded), ?_⟩
  · intro types apart
    refine ⟨fun alone whole read read' => parse_congr read read' (ofJson?_ofTable apart), ?_⟩
    intro legible
    have inside : Legible Reader.nestingLimit (ofTable types) :=
      (legible_object_iff.mp legible _ List.mem_cons_self).mono (by decide)
    -- reading puts the fields in order, which neither adds a type nor takes one away
    have apart' : (types.map fun _ v => v.sorted).get? "types" = none := by
      rw [Table.get?_map, apart, Option.map_none]
    have same : ofJson? (ofTable types).sorted = ofJson? (wrapped types).sorted := by
      rw [sorted_ofTable, sorted_wrapped, ofJson?_ofTable apart']
    exact ⟨parse_congr inside.parse?_compact legible.parse?_compact same,
      parse_congr inside.parse?_pretty legible.parse?_pretty same⟩

/-! ## A type named `types` -/

namespace Nested

theorem half_finite : 1022 <<< 52 < 2047 <<< 52 := by decide

/-- A type with every optional part, an empty record among them, and a double for a default. -/
def full : NodeType where
  name? := some "Types"
  inputs? := some 2
  outputs? := some 0
  requiresInput := true
  defaults := .ofList [
    ("ratio", .number (.double ⟨false, 1022 <<< 52, half_finite⟩)),
    ("range", .array [.ofNat 0, .number (.negative 4)]),
    ("types", .object [("a", .null), ("b", .string "\"\n")])]
  ports := {
    inputs := [{ kind := "text", optional := true, role? := some "body" }, {}]
    mode := .variadic
    minInputs? := some 2 }
  hints? := some {}

def manifest : Manifest := (({} : Manifest).insert "types" full).insert "note" {}

/-- An object of types one of which is none. -/
def loose : Table Json := .ofList [("note", .object [("outputs", .ofNat 0)]), ("sale", .bool true)]

def alone : String := "\x7b\"sale\": true, \"note\": \x7b\"outputs\": 0\x7d\x7d"

def whole : String := "\x7b\"types\": " ++ alone ++ "\x7d"

theorem parse_written_nested :
    (manifest.IsSorted ∧ Legible Reader.nestingLimit manifest.toJson ∧
      parse manifest.toJson.compact = .ok manifest ∧
      parse manifest.toJson.pretty = .ok manifest) ∧
    (loose.get? "types" = none ∧ Json.parse? alone = some (ofTable loose) ∧
      Json.parse? whole = some (wrapped loose) ∧ parse alone = parse whole) ∧
    (Legible Reader.nestingLimit (wrapped loose) ∧
      parse (ofTable loose).compact = parse (wrapped loose).compact ∧
      parse (ofTable loose).pretty = parse (wrapped loose).pretty) := by
  have types : ∀ e ∈ manifest.types.entries, e.2 = full ∨ e.2 = {} := by
    intro e member
    rcases Table.mem_place member with rfl | member
    · exact Or.inr rfl
    · rcases Table.mem_place member with rfl | member
      · exact Or.inl rfl
      · cases member
  have defaults : ∀ e ∈ full.defaults.entries, e.2.IsSorted ∧ Legible 123 e.2 := by
    intro e member
    have listed := Table.mem_of_mem_ofList member
    simp only [List.mem_cons, List.not_mem_nil, or_false] at listed
    have half : Number.ReadsBack (.double ⟨false, 1022 <<< 52, half_finite⟩) := by decide +kernel
    rcases listed with rfl | rfl | rfl
    · exact ⟨rfl, .number half⟩
    · refine ⟨rfl, .array ?_⟩
      simp [ofNat, Legible.number, Number.readsBack_natural, Number.readsBack_negative]
    · refine ⟨rfl, .object ?_⟩
      simp [Legible.null, Legible.string]
  have sorted : manifest.IsSorted := by
    intro e member
    rcases types e member with same | same
    · exact same ▸ fun d inside => (defaults d inside).1
    · exact same ▸ nofun
  have legible : Legible (123 + 4) manifest.toJson := by
    refine legible_toJson (by decide) fun e member => ?_
    rcases types e member with same | same
    · exact same ▸ fun d inside => (defaults d inside).2
    · exact same ▸ nofun
  have apart : loose.get? "types" = none := by decide
  have readAlone : Json.parse? alone = some (ofTable loose) := rfl
  have readWhole : Json.parse? whole = some (wrapped loose) := rfl
  have wrapping : Legible Reader.nestingLimit (wrapped loose) := by
    refine legible_object_iff.mpr fun field member => ?_
    obtain rfl := List.mem_singleton.mp member
    refine legible_object_iff.mpr fun e member => ?_
    have listed := Table.mem_of_mem_ofList member
    simp only [List.mem_cons, List.not_mem_nil, or_false] at listed
    rcases listed with rfl | rfl
    · refine .object ?_
      simp [ofNat, Legible.number, Number.readsBack_natural]
    · exact .bool true
  obtain ⟨texts, forms⟩ := parse_written.2.2 loose apart
  exact ⟨⟨sorted, legible, parse_written.1 manifest sorted legible⟩,
    ⟨apart, readAlone, readWhole, texts alone whole readAlone readWhole⟩, wrapping, forms wrapping⟩

end Nested

end Manifest

end Dataflow
