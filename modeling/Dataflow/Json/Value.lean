import Dataflow.Double.Shortest
import Dataflow.Table

/-!
# JSON values

Values of the JSON data format. Whole numbers of 64 bits stay whole numbers;
every other number is a finite double. The fields of an object are kept in the
order in which they are written.
-/

namespace Dataflow

/-- A JSON number: a natural number of 64 bits, a negative one of 64 bits given
by its distance from minus one, or a finite double. -/
inductive Number where
  | natural (value : UInt64)
  | negative (distance : Fin (1 <<< 63))
  | double (value : Double)
  deriving DecidableEq

namespace Number

/-- Equality of values. A whole number never equals a double. -/
def equal : Number → Number → Bool
  | .natural a, .natural b => a == b
  | .negative a, .negative b => a == b
  | .double a, .double b => a.equal b
  | _, _ => false

/-- The value as a natural number of 64 bits, if it is written as one. -/
def word? : Number → Option UInt64
  | .natural value => some value
  | _ => none

/-- The double nearest to the value. -/
def toDouble : Number → Double
  | .natural value => Double.ofWord value
  | .negative distance => { Double.ofWord (.ofNat (distance + 1)) with negative := true }
  | .double value => value

def text : Number → String
  | .natural value => value.toNat.repr
  | .negative distance => "-" ++ (distance.val + 1).repr
  | .double value => value.text

end Number

inductive Json where
  | null
  | bool (value : Bool)
  | number (value : Number)
  | string (value : String)
  | array (items : List Json)
  | object (fields : List (String × Json))

namespace Json

instance : Inhabited Json := ⟨.null⟩

mutual

/-- Equality of values: like `=`, except that the two zeros among doubles are
equal. -/
def equal : Json → Json → Bool
  | .null, .null => true
  | .bool a, .bool b => a == b
  | .number a, .number b => a.equal b
  | .string a, .string b => a == b
  | .array a, .array b => equalItems a b
  | .object a, .object b => equalFields a b
  | _, _ => false

/-- Equality of two lists of values, item by item. -/
def equalItems : List Json → List Json → Bool
  | [], [] => true
  | a :: as, b :: bs => equal a b && equalItems as bs
  | _, _ => false

/-- Equality of two lists of fields, field by field. -/
def equalFields : List (String × Json) → List (String × Json) → Bool
  | [], [] => true
  | (name, a) :: as, (name', b) :: bs => name == name' && equal a b && equalFields as bs
  | _, _ => false

end

instance : BEq Json := ⟨equal⟩

/-- The field of an object under a name; nothing when there is none or the value
is no object. -/
def get? (name : String) : Json → Option Json
  | .object fields => fields.lookup name
  | _ => none

/-- The item of an array at a place; nothing when there is none or the value is no
array. -/
def item? (index : Nat) : Json → Option Json
  | .array items => items[index]?
  | _ => none

def isNull : Json → Bool
  | .null => true
  | _ => false

def string? : Json → Option String
  | .string value => some value
  | _ => none

def bool? : Json → Option Bool
  | .bool value => some value
  | _ => none

/-- The natural number of 64 bits that a number is written as. -/
def word? : Json → Option UInt64
  | .number value => value.word?
  | _ => none

/-- The double nearest to a number. -/
def double? : Json → Option Double
  | .number value => some value.toDouble
  | _ => none

def items? : Json → Option (List Json)
  | .array items => some items
  | _ => none

/-- The fields of an object as a table. -/
def table? : Json → Option (Table Json)
  | .object fields => some (Table.ofList fields)
  | _ => none

def isObject : Json → Bool
  | .object _ => true
  | _ => false

/-- The object whose fields are the entries of a table. -/
def ofTable (t : Table Json) : Json := .object t.entries

/-- The number of a count. Counts from 2^64 on do not occur. -/
def ofNat (n : Nat) : Json := .number (.natural (.ofNat n))

/-- The array of a list of strings. -/
def ofStrings (texts : List String) : Json := .array (texts.map .string)

/-- The JSON form of a 32-bit number. -/
def ofWord32 (n : UInt32) : Json := .number (.natural n.toUInt64)

/-- A field that is written where there is a value. -/
def fieldOf {α : Type} (name : String) (write : α → Json) (value? : Option α) :
    List (String × Json) :=
  (value?.map fun value => (name, write value)).toList

/-- The kind of a value, as JSON Schema names it. -/
def kind : Json → String
  | .null => "null"
  | .bool _ => "boolean"
  | .number _ => "number"
  | .string _ => "string"
  | .array _ => "array"
  | .object _ => "object"

end Json

namespace Table

/-- Whether two tables of values have equal values under the same names. -/
def equal (s t : Table Json) : Bool := Json.equalFields s.entries t.entries

instance : BEq (Table Json) := ⟨equal⟩

end Table

/-!
## Typed records

A record is written as an object, or as an array that gives the fields in their
declared order. Unknown fields of an object are ignored; an array may stop early
but not go on too long. How a field is read says what happens when it is absent.
-/

/-- The fields of a record by name. -/
abbrev Record := String → Option Json

namespace Json

/-- The fields of a value that stands for a record with the given field names. -/
def record? (names : List String) : Json → Option Record
  | .object fields => some fun name => fields.lookup name
  | .array items =>
    if items.length ≤ names.length then some fun name => (names.zip items).lookup name else none
  | _ => none

/-- The fields of a value that stands for a record without defaults: an array has to
give all of them. -/
def wholeRecord? (names : List String) (v : Json) : Option Record :=
  match v with
  | .array items => if items.length = names.length then v.record? names else none
  | _ => v.record? names

/-- The values of an array's items; nothing when one of them does not fit. -/
def list? {α : Type} (read : Json → Option α) (v : Json) : Option (List α) :=
  v.items?.bind (List.mapM read)

/-- A natural number of 32 bits. -/
def word32? (v : Json) : Option UInt32 :=
  v.word?.bind fun n => if n.toNat < UInt32.size then some (.ofNat n.toNat) else none

/-- One of a list of named cases: its name, or an object whose only field has the
name and holds `null`. -/
def case? {α : Type} (cases : List (String × α)) : Json → Option α
  | .string name => cases.lookup name
  | .object [(name, .null)] => cases.lookup name
  | _ => none

end Json

namespace Record

variable {α : Type}

/-- A field that has to be there. -/
def required (r : Record) (name : String) (read : Json → Option α) : Option α :=
  (r name).bind read

/-- A field with a value for when it is absent. -/
def withDefault (r : Record) (name : String) (read : Json → Option α) (default : α) : Option α :=
  match r name with
  | none => some default
  | some v => read v

/-- A field that may be absent or `null`. -/
def optional (r : Record) (name : String) (read : Json → Option α) : Option (Option α) :=
  match r name with
  | none | some .null => some none
  | some v => (read v).map some

end Record

end Dataflow
