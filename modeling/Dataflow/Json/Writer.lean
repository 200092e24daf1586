import Dataflow.Json.Value

/-!
# Writing JSON text

Values are written compactly or with two-space indentation. Quote, backslash and
control characters are escaped, the latter by letter where there is one; every
other character stands for itself. Fields are written in the order in which the
object holds them.
-/

namespace Dataflow.Json

/-- The lower-case hexadecimal digit of a number below sixteen. -/
def hexDigit (n : Nat) : Char := if n < 10 then Char.ofNat (n + 48) else Char.ofNat (n + 87)

/-- The text of a character inside a string. -/
def escape (c : Char) : String :=
  if c = '"' then "\\\""
  else if c = '\\' then "\\\\"
  else if c = '\x08' then "\\b"
  else if c = '\t' then "\\t"
  else if c = '\n' then "\\n"
  else if c = '\x0c' then "\\f"
  else if c = '\r' then "\\r"
  else if c.toNat < 0x20 then
    "\\u00" ++ String.ofList [hexDigit (c.toNat / 16), hexDigit (c.toNat % 16)]
  else String.ofList [c]

/-- The text of a string, in quotes. -/
def quote (s : String) : String :=
  s.toList.foldl (fun text c => text ++ escape c) "\"" ++ "\""

mutual

/-- The text of a value without any spaces. -/
def compact : Json → String
  | .null => "null"
  | .bool true => "true"
  | .bool false => "false"
  | .number value => value.text
  | .string value => quote value
  | .array items => "[" ++ String.intercalate "," (compactItems items) ++ "]"
  | .object fields => "\x7b" ++ String.intercalate "," (compactFields fields) ++ "\x7d"

/-- The texts of a list of items. -/
def compactItems : List Json → List String
  | [] => []
  | item :: rest => compact item :: compactItems rest

/-- The texts of a list of fields. -/
def compactFields : List (String × Json) → List String
  | [] => []
  | (name, value) :: rest => (quote name ++ ":" ++ compact value) :: compactFields rest

end

/-- A line break and the indentation of a level. -/
def newline (level : Nat) : String := "\n" ++ String.ofList (List.replicate (2 * level) ' ')

/-- A bracketed list of texts, one a line, one level in; empty brackets for none. -/
def block (level : Nat) (opening closing : String) (texts : List String) : String :=
  if texts.isEmpty then opening ++ closing
  else
    opening ++ newline (level + 1) ++ String.intercalate ("," ++ newline (level + 1)) texts
      ++ newline level ++ closing

mutual

/-- The text of a value with one item or field a line, at a level of indentation. -/
def indented (level : Nat) : Json → String
  | .array items => block level "[" "]" (indentedItems (level + 1) items)
  | .object fields => block level "\x7b" "\x7d" (indentedFields (level + 1) fields)
  | .null => "null"
  | .bool true => "true"
  | .bool false => "false"
  | .number value => value.text
  | .string value => quote value

/-- The indented texts of a list of items. -/
def indentedItems (level : Nat) : List Json → List String
  | [] => []
  | item :: rest => indented level item :: indentedItems level rest

/-- The indented texts of a list of fields. -/
def indentedFields (level : Nat) : List (String × Json) → List String
  | [] => []
  | (name, value) :: rest =>
    (quote name ++ ": " ++ indented level value) :: indentedFields level rest

end

/-- The text of a value with one item or field a line. -/
def pretty (value : Json) : String := indented 0 value

end Dataflow.Json
