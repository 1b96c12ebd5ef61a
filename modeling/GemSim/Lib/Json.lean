import Mathlib.Data.List.Sort
import Mathlib.Data.String.Basic
import GemSim.Lib.Entries

/-!
# JSON texts

A value is written as text without blanks, with the entries of its mappings in the order of their
names and with escapes for all but the printable ASCII characters. A text is read with blanks
between its parts, and of the entries of one name in a mapping the last one stays. Numbers are
integers; a text with any other number is not read.

## Main definitions

* `Json`, `Json.Distinct` — values, and those whose mappings have one entry to a name
* `Json.text`, `Json.sorted`, `dumps` — how a value is written
* `scanValue`, `loads` — how a text is read
-/

namespace GemSim.Lib

inductive Json where
  | null
  | boolean (value : Bool)
  | integer (value : ℤ)
  | string (text : String)
  | array (items : List Json)
  | object (fields : List (String × Json))

section Writing

/-- A hexadecimal digit, in lower case. -/
def hexDigit (value : ℕ) : Char :=
  if value < 10 then Char.ofNat (48 + value) else Char.ofNat (87 + value)

/-- A unit of 16 bits as an escape. -/
def escapeUnit (unit : ℕ) : List Char :=
  ['\\', 'u', hexDigit (unit / 4096 % 16), hexDigit (unit / 256 % 16), hexDigit (unit / 16 % 16),
    hexDigit (unit % 16)]

/-- The escapes of one letter, each with the character that it stands for. -/
def shortEscapes : List (Char × Char) :=
  [('"', '"'), ('\\', '\\'), ('b', '\x08'), ('f', '\x0c'), ('n', '\n'), ('r', '\r'), ('t', '\t')]

/-- The letter of the escape that stands for a character. -/
def shortEscape (char : Char) : Option Char :=
  (shortEscapes.find? fun entry => entry.2 = char).map Prod.fst

def escapeChar (char : Char) : List Char :=
  match shortEscape char with
  | some letter => ['\\', letter]
  | none =>
    if 32 ≤ char.toNat ∧ char.toNat ≤ 126 then [char]
    else if char.toNat < 65536 then escapeUnit char.toNat
    else
      -- a pair of surrogates
      escapeUnit (55296 + (char.toNat - 65536) / 1024) ++
        escapeUnit (56320 + (char.toNat - 65536) % 1024)

def quoted (text : String) : List Char := '"' :: (text.toList.flatMap escapeChar ++ ['"'])

def integerText : ℤ → List Char
  | .ofNat value => Nat.toDigits 10 value
  | .negSucc value => '-' :: Nat.toDigits 10 (value + 1)

/-- Pieces with commas between them. -/
def commas : List (List Char) → List Char
  | [] => []
  | [piece] => piece
  | piece :: second :: rest => piece ++ ',' :: commas (second :: rest)

mutual

/-- A value as it stands in a text. -/
def Json.text : Json → List Char
  | .null => ['n', 'u', 'l', 'l']
  | .boolean true => ['t', 'r', 'u', 'e']
  | .boolean false => ['f', 'a', 'l', 's', 'e']
  | .integer value => integerText value
  | .string text => quoted text
  | .array items => '[' :: (commas (Json.textItems items) ++ [']'])
  | .object fields => '{' :: (commas (Json.textFields fields) ++ ['}'])

def Json.textItems : List Json → List (List Char)
  | [] => []
  | item :: rest => item.text :: Json.textItems rest

def Json.textFields : List (String × Json) → List (List Char)
  | [] => []
  | (name, value) :: rest => (quoted name ++ ':' :: value.text) :: Json.textFields rest

end

/-- The entries in the order of their names. -/
def sortFields (fields : List (String × Json)) : List (String × Json) :=
  fields.insertionSort fun first second => first.1 ≤ second.1

mutual

/-- The entries of all mappings in the order of their names. -/
def Json.sorted : Json → Json
  | .array items => .array (Json.sortedItems items)
  | .object fields => .object (sortFields (Json.sortedFields fields))
  | .null => .null
  | .boolean value => .boolean value
  | .integer value => .integer value
  | .string text => .string text

def Json.sortedItems : List Json → List Json
  | [] => []
  | item :: rest => item.sorted :: Json.sortedItems rest

def Json.sortedFields : List (String × Json) → List (String × Json)
  | [] => []
  | (name, value) :: rest => (name, value.sorted) :: Json.sortedFields rest

end

/-- The text of a value. -/
def dumps (value : Json) : List Char := value.sorted.text

mutual

/-- No mapping has two entries of one name. -/
def Json.Distinct : Json → Prop
  | .array items => Json.DistinctItems items
  | .object fields => (fields.map Prod.fst).Nodup ∧ Json.DistinctFields fields
  | .null | .boolean _ | .integer _ | .string _ => True

def Json.DistinctItems : List Json → Prop
  | [] => True
  | item :: rest => item.Distinct ∧ Json.DistinctItems rest

def Json.DistinctFields : List (String × Json) → Prop
  | [] => True
  | (_, value) :: rest => value.Distinct ∧ Json.DistinctFields rest

end

end Writing

section Reading

/-- Something is taken from the front of a text. -/
abbrev Scanner (α : Type) : Type := List Char → Option (α × List Char)

def isBlank (char : Char) : Bool := char = ' ' || char = '\t' || char = '\n' || char = '\r'

def skipBlanks (input : List Char) : List Char := input.dropWhile isBlank

def hexValue (char : Char) : Option ℕ :=
  if '0' ≤ char ∧ char ≤ '9' then some (char.toNat - 48)
  else if 'a' ≤ char ∧ char ≤ 'f' then some (char.toNat - 87)
  else if 'A' ≤ char ∧ char ≤ 'F' then some (char.toNat - 55)
  else none

/-- A unit of 16 bits by its four digits. -/
def scanUnit : Scanner ℕ
  | a :: b :: c :: d :: rest => do
    let first ← hexValue a
    let second ← hexValue b
    let third ← hexValue c
    let last ← hexValue d
    some (first * 4096 + second * 256 + third * 16 + last, rest)
  | _ => none

/-- The second unit of a pair of surrogates. -/
def scanLow (high : ℕ) : Scanner Char
  | '\\' :: 'u' :: rest => do
    let (low, rest) ← scanUnit rest
    if 56320 ≤ low ∧ low ≤ 57343 then
      some (Char.ofNat (65536 + (high - 55296) * 1024 + (low - 56320)), rest)
    else none
  | _ => none

/-- A character by its units. A surrogate stands in a pair. -/
def scanUnicode : Scanner Char := fun input => do
  let (unit, rest) ← scanUnit input
  if 55296 ≤ unit ∧ unit ≤ 56319 then scanLow unit rest
  else if 56320 ≤ unit ∧ unit ≤ 57343 then none
  else some (Char.ofNat unit, rest)

/-- The character of an escape of one letter. -/
def unescape (letter : Char) : Option Char :=
  if letter = '/' then some '/' else shortEscapes.lookup letter

/-- One character of a string. Control characters have to be escaped. -/
def scanChar : Scanner Char
  | '\\' :: 'u' :: rest => scanUnicode rest
  | '\\' :: letter :: rest => (unescape letter).map fun char => (char, rest)
  | char :: rest => if char.toNat < 32 ∨ char = '\\' then none else some (char, rest)
  | [] => none

/-- A string behind its first quote. -/
def scanChars : ℕ → Scanner (List Char)
  | 0, _ => none
  | fuel + 1, input =>
    match input with
    | '"' :: rest => some ([], rest)
    | input => do
      let (char, rest) ← scanChar input
      let (chars, rest) ← scanChars fuel rest
      some (char :: chars, rest)

/-- What makes a number more than an integer: a fraction or an exponent. -/
def isReal : List Char → Bool
  | '.' :: digit :: _ => digit.isDigit
  | mark :: sign :: rest =>
    (mark = 'e' || mark = 'E') &&
      (sign.isDigit || ((sign = '+' || sign = '-') && rest.head?.any Char.isDigit))
  | _ => false

def scanNatural : Scanner ℕ
  | '0' :: rest => if isReal rest then none else some (0, rest)
  | input =>
    let digits := input.takeWhile Char.isDigit
    let rest := input.dropWhile Char.isDigit
    if digits = [] ∨ isReal rest then none else some (Nat.ofDigitChars 10 digits 0, rest)

def scanInteger : Scanner ℤ
  | '-' :: rest => (scanNatural rest).map fun found => (-(found.1 : ℤ), found.2)
  | input => (scanNatural input).map fun found => ((found.1 : ℤ), found.2)

/-- The items of an array that has some. -/
def scanItems (scan : Scanner Json) : ℕ → Scanner (List Json)
  | 0, _ => none
  | fuel + 1, input => do
    let (item, rest) ← scan input
    match skipBlanks rest with
    | ']' :: rest => some ([item], rest)
    | ',' :: rest => do
      let (items, rest) ← scanItems scan fuel (skipBlanks rest)
      some (item :: items, rest)
    | _ => none

/-- The name of an entry, up to its value. -/
def scanName (fuel : ℕ) : Scanner String
  | '"' :: rest => do
    let (chars, rest) ← scanChars fuel rest
    match skipBlanks rest with
    | ':' :: rest => some (String.ofList chars, skipBlanks rest)
    | _ => none
  | _ => none

/-- The entries of a mapping that has some, put behind those that have been read. -/
def scanFields (scan : Scanner Json) (names : ℕ) :
    ℕ → List (String × Json) → Scanner (List (String × Json))
  | 0, _, _ => none
  | fuel + 1, fields, input => do
    let (name, rest) ← scanName names input
    let (value, rest) ← scan rest
    match skipBlanks rest with
    | '}' :: rest => some (putEntry name value fields, rest)
    | ',' :: rest => scanFields scan names fuel (putEntry name value fields) (skipBlanks rest)
    | _ => none

/-- A value. Each part of it takes a character, so a text does not need more fuel than it has
characters. -/
def scanValue : ℕ → Scanner Json
  | 0, _ => none
  | fuel + 1, input =>
    match input with
    | 'n' :: 'u' :: 'l' :: 'l' :: rest => some (.null, rest)
    | 't' :: 'r' :: 'u' :: 'e' :: rest => some (.boolean true, rest)
    | 'f' :: 'a' :: 'l' :: 's' :: 'e' :: rest => some (.boolean false, rest)
    | '"' :: rest =>
      (scanChars fuel rest).map fun found => (.string (String.ofList found.1), found.2)
    | '[' :: rest =>
      match skipBlanks rest with
      | ']' :: rest => some (.array [], rest)
      | rest => (scanItems (scanValue fuel) fuel rest).map fun found => (.array found.1, found.2)
    | '{' :: rest =>
      match skipBlanks rest with
      | '}' :: rest => some (.object [], rest)
      | rest =>
        (scanFields (scanValue fuel) fuel fuel [] rest).map fun found => (.object found.1, found.2)
    | input => (scanInteger input).map fun found => (.integer found.1, found.2)

/-- The value of a text. -/
def loads (text : List Char) : Option Json := do
  let (value, rest) ← scanValue (text.length + 1) (skipBlanks text)
  if skipBlanks rest = [] then some value else none

end Reading

end GemSim.Lib
