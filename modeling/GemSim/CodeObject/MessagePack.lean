import GemSim.Lib.Parsers

/-!
# The metadata of the kernels

The description of a metadata note is one MessagePack map. It is read by one pass over its bytes:
the keys that are known have their values read, and the values of all others are skipped, up to
a depth and a number of elements.

## Main definitions

* `readMessage` — a tag and what belongs to it, without the elements of a container
* `skipMessage` — a whole message
* `parseKernel` — the map of one kernel
* `parseMetadata` — the map of a note
-/

namespace GemSim.CodeObject

open GemSim.Lib

section Messages

def MaximumMetadataKernels : ℕ := 16
def MaximumContainerElements : UInt64 := 65536
def MaximumMessageDepth : ℕ := 32

inductive MessageKind where
  | Other
  | Unsigned
  | Signed
  | String
  | Array
  | Map
  deriving DecidableEq

structure Message where
  kind : MessageKind := .Other
  value : UInt64 := 0
  signedValue : Int64 := 0
  string : List UInt8 := []
  deriving DecidableEq

/-- The cursor is what is left of the bytes. -/
abbrev ByteCursor := Parser UInt8

def takeByte : ByteCursor UInt8 := do
  let bytes ← take 1
  return bytes.headD 0

def readBigUnsigned (width : ℕ) : ByteCursor UInt64 :=
  if width = 0 ∨ width > 8 then failure
  else do
    let bytes ← take width
    return bytes.foldl (fun value byte => value <<< 8 ||| byte.toUInt64) 0

def takeString (length : UInt64) : ByteCursor Message := do
  let string ← take length.toNat
  return { kind := .String, string := string }

/-- A number of the width of a word, with the sign of a narrower one. -/
def signExtend (width : ℕ) (value : UInt64) : Int64 :=
  if width < 8 ∧ value &&& 1 <<< UInt64.ofNat (width * 8 - 1) ≠ 0 then
    (value ||| 0xffffffffffffffff <<< UInt64.ofNat (width * 8)).toInt64
  else value.toInt64

/-- Bytes that say nothing. -/
def ignore (count : ℕ) : ByteCursor Message := do
  let _ ← take count
  return {}

def readUnsigned (width : ℕ) : ByteCursor Message := do
  let value ← readBigUnsigned width
  return { kind := .Unsigned, value := value }

def readSigned (width : ℕ) : ByteCursor Message := do
  let value ← readBigUnsigned width
  return { kind := .Signed, signedValue := signExtend width value }

def readString (width : ℕ) : ByteCursor Message := do
  let length ← readBigUnsigned width
  takeString length

def readContainer (kind : MessageKind) (width : ℕ) : ByteCursor Message := do
  let value ← readBigUnsigned width
  return { kind := kind, value := value }

/-- As many bytes as a number in front of them says, and some more. -/
def readBlob (width extra : ℕ) : ByteCursor Message := do
  let length ← readBigUnsigned width
  ignore (extra + length.toNat)

def readTagged (tag : ℕ) : ByteCursor Message :=
  if tag ≤ 0x7f then return { kind := .Unsigned, value := UInt64.ofNat tag }
  else if tag ≥ 0xe0 then
    return { kind := .Signed, signedValue := (UInt8.ofNat tag).toInt8.toInt64 }
  else if tag ≥ 0x80 ∧ tag ≤ 0x8f then
    return { kind := .Map, value := UInt64.ofNat (tag &&& 0x0f) }
  else if tag ≥ 0x90 ∧ tag ≤ 0x9f then
    return { kind := .Array, value := UInt64.ofNat (tag &&& 0x0f) }
  else if tag ≥ 0xa0 ∧ tag ≤ 0xbf then takeString (UInt64.ofNat (tag &&& 0x1f))
  else if tag = 0xc0 then return {}
  else if tag = 0xc2 ∨ tag = 0xc3 then
    return { kind := .Unsigned, value := UInt64.ofNat (tag - 0xc2) }
  else if tag ≥ 0xcc ∧ tag ≤ 0xcf then readUnsigned (1 <<< (tag - 0xcc))
  else if tag ≥ 0xd0 ∧ tag ≤ 0xd3 then readSigned (1 <<< (tag - 0xd0))
  else if tag ≥ 0xd9 ∧ tag ≤ 0xdb then readString (1 <<< (tag - 0xd9))
  else if tag = 0xdc ∨ tag = 0xdd then readContainer .Array (if tag = 0xdc then 2 else 4)
  else if tag = 0xde ∨ tag = 0xdf then readContainer .Map (if tag = 0xde then 2 else 4)
  else if tag ≥ 0xc4 ∧ tag ≤ 0xc6 then readBlob (1 <<< (tag - 0xc4)) 0
  else if tag = 0xca ∨ tag = 0xcb then ignore (if tag = 0xca then 4 else 8)
  else if tag ≥ 0xd4 ∧ tag ≤ 0xd8 then ignore (1 <<< (tag - 0xd4) + 1)
  -- the type of an extension stands between its length and its bytes
  else if tag ≥ 0xc7 ∧ tag ≤ 0xc9 then readBlob (1 <<< (tag - 0xc7)) 1
  else failure

def readMessage : ByteCursor Message := do
  let tag ← takeByte
  readTagged tag.toNat

/-- The elements of a container, each skipped by the parser that is given. -/
def skipMessageBody (skip : ByteCursor Unit) (message : Message) : ByteCursor Unit :=
  if message.value > MaximumContainerElements then
    if message.kind = .Array ∨ message.kind = .Map then failure else return ()
  else if message.kind = .Array then foldTimes (fun _ _ => ()) skip message.value.toNat ()
  else if message.kind = .Map then foldTimes (fun _ _ => ()) skip (2 * message.value.toNat) ()
  else return ()

/-- A message with its elements, at so many levels above the greatest depth. -/
def skipMessage : ℕ → ByteCursor Unit
  | 0 => failure
  | levels + 1 => do
    let message ← readMessage
    skipMessageBody (skipMessage levels) message

/-- What is skipped behind a key, at the first level. Its elements are at the second. -/
def skipValue (message : Message) : ByteCursor Unit :=
  skipMessageBody (skipMessage (MaximumMessageDepth - 1)) message

def number (message : Message) : Option UInt32 :=
  if message.kind = .Unsigned then
    if message.value > 0xffffffff then none else some message.value.toUInt32
  else if message.kind = .Signed ∧ message.signedValue ≥ 0 then
    if message.signedValue.toUInt64 > 0xffffffff then none
    else some message.signedValue.toUInt64.toUInt32
  else none

end Messages

section Kernels

def asciiBytes (string : String) : List UInt8 :=
  string.toList.map fun character => UInt8.ofNat character.toNat

inductive TextKey where
  | name
  | symbol
  deriving DecidableEq

inductive NumberKey where
  | kernargSize
  | kernargAlign
  | groupSize
  | privateSize
  | maxWorkgroupSize
  | wavefrontSize
  | sgprCount
  | vgprCount
  | usesDynamicStack
  deriving DecidableEq

def TextKey.key : TextKey → String
  | .name => ".name"
  | .symbol => ".symbol"

def NumberKey.key : NumberKey → String
  | .kernargSize => ".kernarg_segment_size"
  | .kernargAlign => ".kernarg_segment_align"
  | .groupSize => ".group_segment_fixed_size"
  | .privateSize => ".private_segment_fixed_size"
  | .maxWorkgroupSize => ".max_flat_workgroup_size"
  | .wavefrontSize => ".wavefront_size"
  | .sgprCount => ".sgpr_count"
  | .vgprCount => ".vgpr_count"
  | .usesDynamicStack => ".uses_dynamic_stack"

def TextKey.all : List TextKey := [.name, .symbol]

/-- The numbers that every kernel has. -/
def NumberKey.required : List NumberKey :=
  [.kernargSize, .kernargAlign, .groupSize, .privateSize, .maxWorkgroupSize, .wavefrontSize,
    .sgprCount, .vgprCount]

def NumberKey.all : List NumberKey := NumberKey.required ++ [.usesDynamicStack]

structure KernelMetadata where
  name : List UInt8 := []
  symbol : List UInt8 := []
  kernargSize : UInt32 := 0
  kernargAlign : UInt32 := 0
  groupSize : UInt32 := 0
  privateSize : UInt32 := 0
  maxWorkgroupSize : UInt32 := 0
  wavefrontSize : UInt32 := 0
  sgprCount : UInt32 := 0
  vgprCount : UInt32 := 0
  usesDynamicStack : UInt32 := 0
  deriving DecidableEq

/-- What an entry in the map of a kernel says. -/
inductive KernelEntry where
  | text (key : TextKey) (value : List UInt8)
  | number (key : NumberKey) (value : UInt32)
  | other
  deriving DecidableEq

/-- What has been read of a kernel. -/
structure KernelFields where
  texts : TextKey → Option (List UInt8) := fun _ => none
  numbers : NumberKey → Option UInt32 := fun _ => none

/-- An entry is noted, in the place of an earlier one with its key. -/
def KernelFields.assign (fields : KernelFields) : KernelEntry → KernelFields
  | .text key value => { fields with texts := Function.update fields.texts key (some value) }
  | .number key value => { fields with numbers := Function.update fields.numbers key (some value) }
  | .other => fields

def KernelFields.complete (fields : KernelFields) : Bool :=
  TextKey.all.all (fun key => (fields.texts key).isSome) &&
    NumberKey.required.all fun key => (fields.numbers key).isSome

def KernelFields.kernel (fields : KernelFields) : KernelMetadata where
  name := (fields.texts .name).getD []
  symbol := (fields.texts .symbol).getD []
  kernargSize := (fields.numbers .kernargSize).getD 0
  kernargAlign := (fields.numbers .kernargAlign).getD 0
  groupSize := (fields.numbers .groupSize).getD 0
  privateSize := (fields.numbers .privateSize).getD 0
  maxWorkgroupSize := (fields.numbers .maxWorkgroupSize).getD 0
  wavefrontSize := (fields.numbers .wavefrontSize).getD 0
  sgprCount := (fields.numbers .sgprCount).getD 0
  vgprCount := (fields.numbers .vgprCount).getD 0
  usesDynamicStack := (fields.numbers .usesDynamicStack).getD 0

/-- A number of a kernel. The last of them is a truth value. -/
def kernelNumber (key : NumberKey) (message : Message) : Option UInt32 :=
  (number message).filter fun value => key ≠ .usesDynamicStack ∨ value ≤ 1

/-- The value behind a key of a kernel. -/
def kernelValue (key : List UInt8) (value : Message) : ByteCursor KernelEntry :=
  match TextKey.all.find? fun known => asciiBytes known.key = key with
  | some known => if value.kind ≠ .String then failure else return .text known value.string
  | none =>
    match NumberKey.all.find? fun known => asciiBytes known.key = key with
    | some known =>
      match kernelNumber known value with
      | none => failure
      | some read => return .number known read
    | none => do
      skipValue value
      return .other

/-- A key, which is a string, and the message behind it. -/
def readKeyed {Entry : Type} (parse : List UInt8 → Message → ByteCursor Entry) :
    ByteCursor Entry := do
  let key ← readMessage
  if key.kind ≠ .String then failure
  else
    let value ← readMessage
    parse key.string value

/-- The entries of a map, gathered in order. -/
def readMap {Entry Fields : Type} (gather : Fields → Entry → Fields) (start : Fields)
    (entry : ByteCursor Entry) : ByteCursor Fields := do
  let map ← readMessage
  if map.kind ≠ .Map ∨ map.value > MaximumContainerElements then failure
  else foldTimes gather entry map.value.toNat start

def parseKernel : ByteCursor KernelMetadata := do
  let fields ← readMap KernelFields.assign {} (readKeyed kernelValue)
  if !fields.complete then failure else return fields.kernel

end Kernels

section Notes

structure Metadata where
  target : List UInt8 := []
  major : UInt32 := 0
  minor : UInt32 := 0
  kernelCount : UInt32 := 0
  selected : KernelMetadata := {}
  deriving DecidableEq

/-- What an entry in the map of a note says. -/
inductive RootEntry where
  | target (value : List UInt8)
  | version (major minor : UInt32)
  | kernels (kernels : List KernelMetadata)
  | other

/-- What has been read of a note. -/
structure RootFields where
  target : Option (List UInt8) := none
  version : Option (UInt32 × UInt32) := none
  kernels : Option (List KernelMetadata) := none

def RootFields.assign (fields : RootFields) : RootEntry → RootFields
  | .target value => { fields with target := some value }
  | .version major minor => { fields with version := some (major, minor) }
  | .kernels kernels => { fields with kernels := some kernels }
  | .other => fields

def RootFields.complete (fields : RootFields) : Bool :=
  fields.target.isSome && fields.version.isSome && fields.kernels.isSome

def RootFields.metadata (fields : RootFields) (selectedIndex : UInt32) : Metadata where
  target := fields.target.getD []
  major := (fields.version.getD (0, 0)).1
  minor := (fields.version.getD (0, 0)).2
  kernelCount := UInt32.ofNat (fields.kernels.getD []).length
  selected := (fields.kernels.getD []).getD selectedIndex.toNat {}

def readNumber : ByteCursor UInt32 := do
  let message ← readMessage
  match number message with
  | none => failure
  | some value => return value

def readVersion (value : Message) : ByteCursor RootEntry :=
  if value.kind ≠ .Array ∨ value.value ≠ 2 then failure
  else do
    let major ← readNumber
    let minor ← readNumber
    return .version major minor

def readKernels (selectedIndex : UInt32) (value : Message) : ByteCursor RootEntry :=
  if value.kind ≠ .Array ∨ value.value = 0 ∨ value.value.toNat > MaximumMetadataKernels ∨
      selectedIndex.toUInt64 ≥ value.value then
    failure
  else do
    let kernels ← foldTimes (fun kernels kernel => kernels ++ [kernel]) parseKernel
      value.value.toNat []
    return .kernels kernels

/-- The value behind a key of a note. -/
def rootValue (selectedIndex : UInt32) (key : List UInt8) (value : Message) :
    ByteCursor RootEntry :=
  if key = asciiBytes "amdhsa.target" then
    if value.kind ≠ .String then failure else return .target value.string
  else if key = asciiBytes "amdhsa.version" then readVersion value
  else if key = asciiBytes "amdhsa.kernels" then readKernels selectedIndex value
  else do
    skipValue value
    return .other

def parseMetadata (data : List UInt8) (selectedIndex : UInt32) : Option Metadata :=
  match (readMap RootFields.assign {} (readKeyed (rootValue selectedIndex))).run data with
  | none => none
  | some (fields, rest) =>
    if fields.complete && rest.isEmpty then some (fields.metadata selectedIndex) else none

end Notes

end GemSim.CodeObject
