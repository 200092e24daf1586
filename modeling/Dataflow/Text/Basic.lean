/-!
# Text

Blank characters and trimming, cutting by code points, searching for words, the numerals of
64-bit words, and the text of bytes.
-/

namespace Dataflow

/-- Whether a character has the property White_Space. -/
def isBlank (c : Char) : Bool :=
  let n := c.toNat
  (0x9 ≤ n && n ≤ 0xD) || n == 0x20 || n == 0x85 || n == 0xA0 || n == 0x1680
    || (0x2000 ≤ n && n ≤ 0x200A) || n == 0x2028 || n == 0x2029 || n == 0x202F
    || n == 0x205F || n == 0x3000

/-- A text without the blanks at its two ends. -/
def trimChars (s : List Char) : List Char :=
  ((s.dropWhile isBlank).reverse.dropWhile isBlank).reverse

def trim (s : String) : String := String.ofList (trimChars s.toList)

/-- Whether a string has blank characters only. -/
def isBlankText (s : String) : Bool := s.toList.all isBlank

/-- The first characters of a string, at most as many as the limit. -/
def firstChars (limit : Nat) (s : String) : String := String.ofList (s.toList.take limit)

/-!
## Searching

Whether a text holds a word, the case of letters aside.
-/

/-- A character folded for comparison with lower-case ASCII letters. By simple case
folding these stand for their upper case and, two of them, for the long s and the
Kelvin sign. -/
def foldCase (c : Char) : Char :=
  if c = 'ſ' then 's' else if c = '\u212A' then 'k' else c.toLower

/-- Whether a list of characters holds a word in one piece. -/
def holds (word : List Char) : List Char → Bool
  | [] => word.isEmpty
  | c :: rest => word.isPrefixOf (c :: rest) || holds word rest

/-- Whether a text mentions one of some lower-case words. -/
def mentions (words : List String) (text : String) : Bool :=
  words.any fun word => holds word.toList (text.toList.map foldCase)

/-! ## Numerals -/

/-- The number that decimal digits stand for; nothing without a digit or with a
character that is none. -/
def decimal? (digits : List Char) : Option Nat :=
  if digits.isEmpty || digits.any (!·.isDigit) then none
  else some (digits.foldl (fun n c => n * 10 + (c.toNat - '0'.toNat)) 0)

/-- The 64-bit word of a numeral: decimal digits, after a plus sign if there is
one. -/
def word? (text : List Char) : Option UInt64 := do
  let n ← decimal? (match text with | '+' :: digits => digits | digits => digits)
  if n < UInt64.size then some (.ofNat n) else none

/-!
## UTF-8

Bytes are read as UTF-8. Where they are none, the replacement character stands for
each longest start of a character, or else for a single byte, so reading never
fails.
-/

/-- The start of a character: how many bytes it still needs, the bounds of the next
one, and the bits so far. -/
structure Utf8Start where
  missing : Nat
  low : UInt8 := 0x80
  high : UInt8 := 0xBF
  bits : Nat
  deriving DecidableEq

namespace Utf8Start

/-- The character that stands for bytes that are none. -/
def replacement : Char := '\uFFFD'

/-- What a byte is when no character has started: characters that are complete, and
the character that it starts. -/
def ofByte (b : UInt8) : List Char × Option Utf8Start :=
  let n := b.toNat
  if n < 0x80 then ([Char.ofNat n], none)
  else if 0xC2 ≤ n && n ≤ 0xDF then ([], some { missing := 1, bits := n - 0xC0 })
  else if n = 0xE0 then ([], some { missing := 2, low := 0xA0, bits := 0 })
  else if n = 0xED then ([], some { missing := 2, high := 0x9F, bits := 0xD })
  else if 0xE1 ≤ n && n ≤ 0xEF then ([], some { missing := 2, bits := n - 0xE0 })
  else if n = 0xF0 then ([], some { missing := 3, low := 0x90, bits := 0 })
  else if 0xF1 ≤ n && n ≤ 0xF3 then ([], some { missing := 3, bits := n - 0xF0 })
  else if n = 0xF4 then ([], some { missing := 3, high := 0x8F, bits := 4 })
  else ([replacement], none)

/-- What a byte is after the start of a character. -/
def next (s : Utf8Start) (b : UInt8) : List Char × Option Utf8Start :=
  if s.low ≤ b && b ≤ s.high then
    let bits := s.bits * 64 + (b.toNat - 0x80)
    if s.missing ≤ 1 then ([Char.ofNat bits], none)
    else ([], some { missing := s.missing - 1, bits })
  else
    let (complete, started) := ofByte b
    (replacement :: complete, started)

/-- The characters of bytes that follow the start of a character, if there is one. -/
def read (started : Option Utf8Start) : List UInt8 → List Char
  | [] => if started.isSome then [replacement] else []
  | b :: rest =>
    let (complete, started) :=
      match started with
      | none => ofByte b
      | some s => s.next b
    complete ++ read started rest

end Utf8Start

def textOfBytes (bytes : List UInt8) : String := String.ofList (Utf8Start.read none bytes)

end Dataflow
