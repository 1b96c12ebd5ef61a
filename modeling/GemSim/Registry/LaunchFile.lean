import GemSim.Lib.Json
import GemSim.Registry.RankLaunch

/-!
# Documents in files

A document is kept in a file as one line of ASCII text, with the entries of its mappings in the
order of their names. A launch descriptor is checked before it is written. When it is read again it
is checked once more, and its file must hold the very bytes that would be written for it.

## Main definitions

* `documentOf` — a value as a document whose fields can be checked
* `canonicalJson`, `decodeJson`, `readRegular` — the bytes of a document
* `write_rank_launch`, `load_rank_launch` — a descriptor is written, and read again
-/

namespace GemSim.Registry

open GemSim.Lib

section Documents

def scalarOfJson : Json → Scalar
  | .boolean value => .boolean value
  | .integer value => .integer value
  | .string text => .string text
  | .null | .array _ | .object _ => .other

def fieldOfJson : Json → Field
  | .object fields => .mapping (fields.map fun entry => (entry.1, scalarOfJson entry.2))
  | value => .scalar (scalarOfJson value)

/-- A value as a document whose fields can be checked. -/
def documentOf : Json → Document
  | .object fields => some (fields.map fun entry => (entry.1, fieldOfJson entry.2))
  | _ => none

/-- Characters as bytes. All of them are ASCII where this is used. -/
def encodeAscii (text : List Char) : List UInt8 := text.map fun char => UInt8.ofNat char.toNat

def decodeAscii (data : List UInt8) : Option (List Char) :=
  if data.all fun byte => byte < 128 then some (data.map fun byte => Char.ofNat byte.toNat)
  else none

def canonicalJson (value : Json) : List UInt8 := encodeAscii (dumps value ++ ['\n'])

def decodeJson (data : List UInt8) (context : String) : Except RegistryError Json :=
  match (decodeAscii data).bind loads with
  | none => .error (context ++ " is not canonical ASCII JSON")
  | some (.object fields) => .ok (.object fields)
  | some _ => .error (context ++ " must be a JSON object")

def MAX_DOCUMENT_BYTES : ℕ := 4 * 1024 * 1024

/-- The bytes of a regular file. -/
def readRegular (data : List UInt8) (path : String) : Except RegistryError (List UInt8) :=
  if data.length > MAX_DOCUMENT_BYTES then .error ("document exceeds size limit: " ++ path)
  else .ok data

end Documents

section Files

/-- The bytes that are written for a descriptor. -/
def write_rank_launch (value : Json) : Except RegistryError (List UInt8) := do
  discard (validate_rank_launch (documentOf value))
  pure (canonicalJson value)

/-- The descriptor in a file with the given bytes. -/
def load_rank_launch (path : String) (bytes : List UInt8) : Except RegistryError Json := do
  let data ← readRegular bytes path
  let value ← decodeJson data path
  discard (validate_rank_launch (documentOf value))
  if data ≠ canonicalJson value then
    throw "rank launch descriptor is not canonical ASCII JSON"
  pure value

end Files

end GemSim.Registry
