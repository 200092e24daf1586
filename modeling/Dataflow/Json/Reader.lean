import Dataflow.Double.Basic
import Dataflow.Json.Value

/-!
# Reading JSON text

The grammar is that of RFC 8259. A string may not hold raw control characters,
and an escaped surrogate needs its partner. Arrays and objects nest at most
`nestingLimit` deep; a number too large for a double is refused; of fields with
one name the last counts.

Every reader takes the characters at hand and gives what it read together with
the rest, or nothing. `parse?` reads a whole text.
-/

namespace Dataflow.Json

namespace Reader

/-- How deep arrays and objects may nest. -/
def nestingLimit : Nat := 127

/-- The characters that may stand between tokens. -/
def isSpace (c : Char) : Bool := c == ' ' || c == '\t' || c == '\n' || c == '\r'

/-- The characters from the first on that is no space. -/
def skipSpace (s : List Char) : List Char := s.dropWhile isSpace

/-! ## Numbers -/

def digitValue (c : Char) : Nat := c.toNat - '0'.toNat

/-- Takes digits into a significand while it stays below `2 ^ 64`; gives the
significand, the number of digits taken and the digits left. -/
def absorb (significand : Nat) : List Char → Nat × Nat × List Char
  | [] => (significand, 0, [])
  | c :: rest =>
    let next := significand * 10 + digitValue c
    if next < UInt64.size then
      let (final, taken, left) := absorb next rest
      (final, taken + 1, left)
    else (significand, 0, c :: rest)

/-- A number as it is written: the digits before the point, those after it and
the power of ten, where there are any. -/
structure Numeral where
  negative : Bool
  whole : List Char
  fraction : Option (List Char)
  exponent : Option Int

namespace Numeral

/-- The double of a numeral. Digits beyond 64 bits are dropped; before the point
each still counts as a power of ten. -/
def double? (n : Numeral) : Option Number :=
  let (start, _, dropped) := absorb 0 n.whole
  let (significand, taken, _) := absorb start (n.fraction.getD [])
  let power := n.exponent.getD 0 + dropped.length - taken
  (Double.ofDecimal? n.negative significand power).map .double

/-- The number of a numeral: whole where it has neither point nor exponent and 64
bits hold it, else a double. Minus zero is a double. -/
def number? (n : Numeral) : Option Number :=
  match n.fraction, n.exponent, absorb 0 n.whole with
  | none, none, (value, _, []) =>
    if n.negative then
      if h : 0 < value ∧ value ≤ 1 <<< 63 then some (.negative ⟨value - 1, by omega⟩)
      else n.double?
    else some (.natural (.ofNat value))
  | _, _, _ => n.double?

end Numeral

/-- Reads one digit or more. -/
def digits? (s : List Char) : Option (List Char × List Char) :=
  match s.takeWhile Char.isDigit with
  | [] => none
  | found => some (found, s.dropWhile Char.isDigit)

/-- Reads the digits before the point: one zero, or digits that do not begin with
zero. -/
def wholeDigits? (s : List Char) : Option (List Char × List Char) :=
  match digits? s with
  | some ('0' :: _ :: _, _) => none
  | found => found

/-- Reads a point and digits, where a point follows. -/
def fraction? : List Char → Option (Option (List Char) × List Char)
  | '.' :: rest => (digits? rest).map fun (found, rest) => (some found, rest)
  | s => some (none, s)

/-- The value of a list of digits. -/
def digitsValue (digits : List Char) : Nat := digits.foldl (fun n c => n * 10 + digitValue c) 0

/-- Reads a power of ten with or without a sign. -/
def power? : List Char → Option (Int × List Char)
  | '-' :: rest => (digits? rest).map fun (found, rest) => (-(digitsValue found : Int), rest)
  | '+' :: rest => (digits? rest).map fun (found, rest) => ((digitsValue found : Int), rest)
  | s => (digits? s).map fun (found, rest) => ((digitsValue found : Int), rest)

/-- Reads an exponent mark and a power of ten, where a mark follows. -/
def exponent? : List Char → Option (Option Int × List Char)
  | 'e' :: rest => (power? rest).map fun (power, rest) => (some power, rest)
  | 'E' :: rest => (power? rest).map fun (power, rest) => (some power, rest)
  | s => some (none, s)

/-- Reads a number after its sign. -/
def unsigned? (negative : Bool) (s : List Char) : Option (Number × List Char) := do
  let (whole, rest) ← wholeDigits? s
  let (fraction, rest) ← fraction? rest
  let (exponent, rest) ← exponent? rest
  let value ← Numeral.number? { negative, whole, fraction, exponent }
  return (value, rest)

def number? : List Char → Option (Number × List Char)
  | '-' :: rest => unsigned? true rest
  | s => unsigned? false s

/-! ## Strings -/

def hexValue? (c : Char) : Option Nat :=
  if c.isDigit then some (digitValue c)
  else if 'a' ≤ c ∧ c ≤ 'f' then some (c.toNat - 'a'.toNat + 10)
  else if 'A' ≤ c ∧ c ≤ 'F' then some (c.toNat - 'A'.toNat + 10)
  else none

/-- Reads four hexadecimal digits. -/
def unit? : List Char → Option (Nat × List Char)
  | a :: b :: c :: d :: rest => do
    let a ← hexValue? a
    let b ← hexValue? b
    let c ← hexValue? c
    let d ← hexValue? d
    return (((a * 16 + b) * 16 + c) * 16 + d, rest)
  | _ => none

/-- Reads an escaped code point after `\u`: one unit, or two that form a surrogate
pair. -/
def codePoint? (s : List Char) : Option (Char × List Char) := do
  let (high, rest) ← unit? s
  if 0xD800 ≤ high ∧ high < 0xDC00 then
    match rest with
    | '\\' :: 'u' :: rest =>
      let (low, rest) ← unit? rest
      if 0xDC00 ≤ low ∧ low < 0xE000 then
        return (Char.ofNat (0x10000 + (high - 0xD800) * 0x400 + (low - 0xDC00)), rest)
      else none
    | _ => none
  else if 0xDC00 ≤ high ∧ high < 0xE000 then none
  else return (Char.ofNat high, rest)

/-- The character of a one-letter escape. -/
def escaped? : Char → Option Char
  | '"' => some '"'
  | '\\' => some '\\'
  | '/' => some '/'
  | 'b' => some '\x08'
  | 'f' => some '\x0c'
  | 'n' => some '\n'
  | 'r' => some '\r'
  | 't' => some '\t'
  | _ => none

/-- Reads one character of a string's text. -/
def character? : List Char → Option (Char × List Char)
  | '\\' :: 'u' :: rest => codePoint? rest
  | '\\' :: c :: rest => (escaped? c).map (·, rest)
  | c :: rest => if c = '\\' ∨ c.toNat < 0x20 then none else some (c, rest)
  | [] => none

/-- Reads the text of a string up to and with its closing quote. At most as many
characters are read as the first list has. -/
def text? : List Char → List Char → Option (List Char × List Char)
  | _, '"' :: rest => some ([], rest)
  | [], _ => none
  | _ :: bound, s => do
    let (c, rest) ← character? s
    let (text, rest) ← text? bound rest
    return (c :: text, rest)

def quoted? : List Char → Option (String × List Char)
  | '"' :: rest => (text? rest rest).map fun (text, rest) => (String.ofList text, rest)
  | _ => none

/-! ## Values -/

/-- Reads the rest of an array after an item: closing bracket, or comma and more
items. At most as many items are read as the bound has characters. -/
def moreItems? (value? : List Char → Option (Json × List Char)) :
    List Char → List Char → Option (List Json × List Char)
  | [], _ => none
  | _ :: bound, s =>
    match skipSpace s with
    | ']' :: rest => some ([], rest)
    | ',' :: rest => do
      let (item, rest) ← value? (skipSpace rest)
      let (items, rest) ← moreItems? value? bound rest
      return (item :: items, rest)
    | _ => none

/-- Reads the items of an array after its opening bracket. -/
def items? (value? : List Char → Option (Json × List Char)) (s : List Char) :
    Option (List Json × List Char) :=
  match skipSpace s with
  | ']' :: rest => some ([], rest)
  | s => do
    let (item, rest) ← value? s
    let (items, rest) ← moreItems? value? s rest
    return (item :: items, rest)

/-- Reads a field: name, colon and value. -/
def field? (value? : List Char → Option (Json × List Char)) (s : List Char) :
    Option ((String × Json) × List Char) := do
  let (name, rest) ← quoted? s
  match skipSpace rest with
  | ':' :: rest =>
    let (value, rest) ← value? (skipSpace rest)
    return ((name, value), rest)
  | _ => none

/-- Reads the rest of an object after a field: closing brace, or comma and more
fields. At most as many fields are read as the bound has characters. -/
def moreFields? (value? : List Char → Option (Json × List Char)) :
    List Char → List Char → Option (List (String × Json) × List Char)
  | [], _ => none
  | _ :: bound, s =>
    match skipSpace s with
    | '}' :: rest => some ([], rest)
    | ',' :: rest => do
      let (field, rest) ← field? value? (skipSpace rest)
      let (fields, rest) ← moreFields? value? bound rest
      return (field :: fields, rest)
    | _ => none

/-- Reads the fields of an object after its opening brace. -/
def fields? (value? : List Char → Option (Json × List Char)) (s : List Char) :
    Option (List (String × Json) × List Char) :=
  match skipSpace s with
  | '}' :: rest => some ([], rest)
  | s => do
    let (field, rest) ← field? value? s
    let (fields, rest) ← moreFields? value? s rest
    return (field :: fields, rest)

/-- Reads a value that is neither array nor object. -/
def scalar? : List Char → Option (Json × List Char)
  | 'n' :: 'u' :: 'l' :: 'l' :: rest => some (.null, rest)
  | 't' :: 'r' :: 'u' :: 'e' :: rest => some (.bool true, rest)
  | 'f' :: 'a' :: 'l' :: 's' :: 'e' :: rest => some (.bool false, rest)
  | '"' :: rest => (quoted? ('"' :: rest)).map fun (text, rest) => (.string text, rest)
  | s => (number? s).map fun (value, rest) => (.number value, rest)

/-- Reads a value that starts at the first character, with arrays and objects
nested at most `depth` deep. -/
def value? : (depth : Nat) → List Char → Option (Json × List Char)
  | depth, '[' :: rest =>
    match depth with
    | 0 => none
    | depth + 1 => (items? (value? depth) rest).map fun (items, rest) => (.array items, rest)
  | depth, '{' :: rest =>
    match depth with
    | 0 => none
    | depth + 1 =>
      (fields? (value? depth) rest).map fun (fields, rest) =>
        (.object (Table.ofList fields).entries, rest)
  | _, s => scalar? s

end Reader

/-- The value of a list of characters, if they are one JSON value with nothing but
space around it. -/
def ofChars? (s : List Char) : Option Json := do
  let (value, rest) ← Reader.value? Reader.nestingLimit (Reader.skipSpace s)
  if (Reader.skipSpace rest).isEmpty then return value else none

/-- The value of a text, if the text is one JSON value. -/
def parse? (text : String) : Option Json := ofChars? text.toList

end Dataflow.Json
