import GemSim.Registry.RankLaunch
import GemSim.Sysroot.Packages

/-!
# Commit messages

A commit of the root names its checkpoint and what it was checked against in a block of trailers
at its end. Each of them stands there once, after a blank line.

## Main definitions

* `strip`, `splitWords`, `splitLines`, `partition` — texts and their parts
* `parse_trailers`, `messageFailures` — the trailers of a message, and what is wrong with it
-/

namespace GemSim.Checkpoint

open GemSim.Registry (lowercaseHex)
open GemSim.Sysroot (isSpace isLowerOrDigit)

section Text

/-- A text without the white space at its ends. -/
def strip (text : List Char) : List Char :=
  ((text.dropWhile isSpace).reverse.dropWhile isSpace).reverse

/-- The words of a text. -/
def splitWords (text : List Char) : List (List Char) := (text.splitOnP isSpace).filter (· ≠ [])

def isLineBreak (char : Char) : Bool :=
  let code := char.toNat
  (0x0a ≤ code && code ≤ 0x0d) || (0x1c ≤ code && code ≤ 0x1e) || code = 0x85 || code = 0x2028 ||
    code = 0x2029

/-- The lines of a text, where the given characters stand before it in reverse. -/
def splitLinesAfter (line : List Char) : List Char → List (List Char)
  | [] => if line = [] then [] else [line.reverse]
  | '\r' :: '\n' :: rest => line.reverse :: splitLinesAfter [] rest
  | char :: rest =>
    if isLineBreak char then line.reverse :: splitLinesAfter [] rest
    else splitLinesAfter (char :: line) rest

def splitLines (text : String) : List String :=
  (splitLinesAfter [] text.toList).map String.ofList

/-- What stands before a separator, whether there is one, and what stands behind it. -/
def partition (separator : Char) (text : List Char) : List Char × Bool × List Char :=
  match text.dropWhile (· ≠ separator) with
  | [] => (text, false, [])
  | _ :: behind => (text.takeWhile (· ≠ separator), true, behind)

end Text

section Message

def isDigit (char : Char) : Bool := '0' ≤ char && char ≤ '9'

def isUpper (char : Char) : Bool := 'A' ≤ char && char ≤ 'Z'

def isLower (char : Char) : Bool := 'a' ≤ char && char ≤ 'z'

def isTrailerChar (char : Char) : Bool :=
  isUpper char || isLower char || isDigit char || char = '-'

/-- The name and the value of a trailer. -/
def trailer (line : String) : Option (String × String) :=
  let text := line.toList
  match text.takeWhile isTrailerChar, text.dropWhile isTrailerChar with
  | first :: name, ':' :: ' ' :: char :: value =>
    if (char :: value).all (· ≠ '\n') then
      some (String.ofList (first :: name), String.ofList (char :: value))
    else none
  | _, _ => none

/-- One character of a kind, and then characters of another. -/
def startsWith (first later : Char → Bool) : List Char → Bool
  | [] => false
  | char :: rest => first char && rest.all later

def hexOf (count : ℕ) (text : List Char) : Bool := text.length = count && text.all lowercaseHex

def checkpointPattern : List Char → Bool
  | 'C' :: 'P' :: '-' :: digits => digits.length = 4 && digits.all isDigit
  | _ => false

/-- The trailers that a message must have, with what their values look like. -/
def PATTERNS : List (String × (List Char → Bool)) :=
  [("Checkpoint-ID", checkpointPattern),
    ("Goal-ID", startsWith isUpper fun char => isUpper char || isDigit char || char = '-'),
    ("Plan-Revision", startsWith (fun char => isDigit char && char ≠ '0') isDigit),
    ("Source-Lock-SHA256", hexOf 64),
    ("Evidence-Manifest-SHA256", hexOf 64),
    ("Change-Kind", startsWith isLower fun char => isLowerOrDigit char || char = '-'),
    ("Baseline-Commit", fun text => hexOf 40 text || text = "N/A".toList)]

def REQUIRED : List String := PATTERNS.map Prod.fst

/-- The values of a trailer, in order. -/
def parse_trailers (message name : String) : List String :=
  ((splitLines message).filterMap trailer).filterMap fun found =>
    if found.1 = name then some found.2 else none

def rstrip (text : List Char) : List Char := (text.reverse.dropWhile isSpace).reverse

def isBlank (line : String) : Bool := line.toList.all isSpace

/-- What is wrong with the trailers of a message. -/
def messageFailures (message : String) : List String :=
  let lines := splitLines (String.ofList (rstrip message.toList))
  let values := PATTERNS.filterMap fun pattern =>
    match parse_trailers message pattern.1 with
    | [value] =>
      if pattern.2 value.toList then none
      else some (pattern.1 ++ " has an invalid value: '" ++ value ++ "'")
    | _ => some (pattern.1 ++ " must appear exactly once")
  let isPolicy (line : String) : Bool :=
    match trailer line with
    | some found => found.1 ∈ REQUIRED
    | none => false
  let before := lines.takeWhile fun line => !isPolicy line
  let block := lines.dropWhile fun line => !isPolicy line
  if block = [] then values
  else
    values ++
      (if before.getLast?.all fun line => !isBlank line then
        ["audit trailers must follow a blank separator"] else []) ++
      (if before.all isBlank then
        ["commit message has no subject before its audit trailers"] else []) ++
      (if block.any fun line => !isBlank line && (trailer line).isNone then
        ["non-trailer text appears after the audit trailer block"] else [])

end Message

end GemSim.Checkpoint
