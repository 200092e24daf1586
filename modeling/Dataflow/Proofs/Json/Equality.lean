import Dataflow.Graph.Basic
import Dataflow.Proofs.Table

/-!
# Equality of values

Equality of values is not `=`, since the two zeros among doubles are equal; but every value
equals itself, either side may stand first, and tables are equal when they have equal values
under every name (`Table.beq_iff`).
-/

namespace Dataflow

theorem Double.equal_refl (d : Double) : d.equal d = true := by simp [equal]

theorem Number.equal_refl (n : Number) : n.equal n = true := by
  cases n with
  | natural value => exact beq_self_eq_true value
  | negative distance => exact beq_self_eq_true distance
  | double value => exact value.equal_refl

theorem Double.equal_comm (a b : Double) : a.equal b = b.equal a := by
  unfold equal
  by_cases same : a.rank = b.rank
  · rw [same, Bool.beq_comm (a := a.negative)]
  · rw [beq_false_of_ne same, beq_false_of_ne (Ne.symm same), Bool.false_and, Bool.false_and]

theorem Number.equal_comm (a b : Number) : a.equal b = b.equal a := by
  cases a <;> cases b <;> try rfl
  · exact Bool.beq_comm
  · exact Bool.beq_comm
  · exact Double.equal_comm _ _

namespace Json

mutual

theorem equal_refl : ∀ v : Json, equal v v = true
  | .null => rfl
  | .bool value => beq_self_eq_true value
  | .number value => value.equal_refl
  | .string value => beq_self_eq_true value
  | .array items => equalItems_refl items
  | .object fields => equalFields_refl fields

theorem equalItems_refl : ∀ items : List Json, equalItems items items = true
  | [] => rfl
  | v :: rest => by rw [equalItems, equal_refl v, equalItems_refl rest, Bool.and_self]

theorem equalFields_refl : ∀ fields : List (String × Json), equalFields fields fields = true
  | [] => rfl
  | (name, v) :: rest => by
    rw [equalFields, beq_self_eq_true, equal_refl v, equalFields_refl rest, Bool.and_self,
      Bool.and_self]

end

instance : ReflBEq Json := ⟨fun {v} => equal_refl v⟩

mutual

theorem equal_comm : ∀ v w : Json, equal v w = equal w v
  | .null, w => by cases w <;> rfl
  | .bool a, w => by
    cases w with
    | bool b => exact Bool.beq_comm
    | _ => rfl
  | .number a, w => by
    cases w with
    | number b => exact a.equal_comm b
    | _ => rfl
  | .string a, w => by
    cases w with
    | string b => exact Bool.beq_comm
    | _ => rfl
  | .array a, w => by
    cases w with
    | array b => exact equalItems_comm a b
    | _ => rfl
  | .object a, w => by
    cases w with
    | object b => exact equalFields_comm a b
    | _ => rfl

theorem equalItems_comm : ∀ a b : List Json, equalItems a b = equalItems b a
  | [], b => by cases b <;> rfl
  | v :: a, [] => rfl
  | v :: a, w :: b => by rw [equalItems, equalItems, equal_comm v w, equalItems_comm a b]

theorem equalFields_comm : ∀ a b : List (String × Json), equalFields a b = equalFields b a
  | [], b => by cases b <;> rfl
  | (name, v) :: a, [] => rfl
  | (name, v) :: a, (name', w) :: b => by
    rw [equalFields, equalFields, Bool.beq_comm (a := name), equal_comm v w,
      equalFields_comm a b]

end

theorem beq_comm_option (v? w? : Option Json) : (v? == w?) = (w? == v?) := by
  cases v? with
  | none => cases w? <;> rfl
  | some v =>
      cases w? with
      | none => rfl
      | some w => exact equal_comm v w

/-- Lists of fields that are equal have the same names in the same order. -/
theorem names_eq_of_equalFields {fields fields' : List (String × Json)}
    (same : equalFields fields fields' = true) : fields.map (·.1) = fields'.map (·.1) := by
  induction fields generalizing fields' with
  | nil =>
      cases fields' with
      | nil => rfl
      | cons _ _ => cases same
  | cons field rest ih =>
      cases fields' with
      | nil => cases same
      | cons field' rest' =>
          simp only [equalFields, Bool.and_eq_true, beq_iff_eq] at same
          rw [List.map_cons, List.map_cons, same.1.1, ih same.2]

theorem lookup_of_equalFields {fields fields' : List (String × Json)}
    (same : equalFields fields fields' = true) (name : String) :
    (fields.lookup name == fields'.lookup name) = true := by
  induction fields generalizing fields' with
  | nil =>
      cases fields' with
      | nil => rfl
      | cons _ _ => cases same
  | cons field rest ih =>
      cases fields' with
      | nil => cases same
      | cons field' rest' =>
          simp only [equalFields, Bool.and_eq_true, beq_iff_eq] at same
          rw [Table.lookup_cons_eq, Table.lookup_cons_eq, ← same.1.1]
          by_cases here : name = field.1
          · rw [if_pos here, if_pos here]
            exact same.1.2
          · rw [if_neg here, if_neg here]
            exact ih same.2

/-- Lists of fields with the same names, none of them twice, are equal when the values under
each name are. -/
theorem equalFields_of_lookup {fields fields' : List (String × Json)}
    (names : fields.map (·.1) = fields'.map (·.1)) (nodup : (fields.map (·.1)).Nodup)
    (same : ∀ name, (fields.lookup name == fields'.lookup name) = true) :
    equalFields fields fields' = true := by
  induction fields generalizing fields' with
  | nil =>
      cases fields' with
      | nil => rfl
      | cons _ _ => cases names
  | cons field rest ih =>
      cases fields' with
      | nil => cases names
      | cons field' rest' =>
          obtain ⟨(first : field.1 = field'.1), names⟩ := List.cons.inj names
          obtain ⟨fresh, nodup⟩ := List.nodup_cons.mp nodup
          simp only [Table.lookup_cons_eq, ← first] at same
          have head : field.2.equal field'.2 = true := by
            have held := same field.1
            rwa [if_pos rfl, if_pos rfl] at held
          have tail : equalFields rest rest' = true := by
            refine ih names nodup fun name => ?_
            by_cases here : name = field.1
            · -- the first name does not occur again
              rw [here, Table.lookup_eq_none_iff.mpr fresh,
                Table.lookup_eq_none_iff.mpr (names ▸ fresh)]
              rfl
            · have held := same name
              rwa [if_neg here, if_neg here] at held
          rw [equalFields, first, beq_self_eq_true, head, tail]
          rfl

end Json

namespace Table

instance : ReflBEq (Table Json) := ⟨fun {t} => Json.equalFields_refl t.entries⟩

theorem keys_eq_of_beq {s t : Table Json} (same : (s == t) = true) : s.keys = t.keys :=
  Json.names_eq_of_equalFields same

/-- Tables are equal when they have equal values, or none, under every name. -/
theorem beq_iff {s t : Table Json} :
    (s == t) = true ↔ ∀ name, (s.get? name == t.get? name) = true := by
  constructor
  · intro same name
    exact Json.lookup_of_equalFields same name
  · intro same
    have names : s.keys = t.keys := by
      rw [keys_eq_iff]
      intro name
      rw [← contains_iff_mem, ← contains_iff_mem, contains, contains]
      have held := same name
      cases here : s.get? name with
      | none =>
          cases there : t.get? name with
          | none => rfl
          | some w => rw [here, there] at held; cases held
      | some v =>
          cases there : t.get? name with
          | none => rw [here, there] at held; cases held
          | some w => rfl
    exact Json.equalFields_of_lookup names (nodup_of_ascending s.keys_ascending) same

end Table

end Dataflow
