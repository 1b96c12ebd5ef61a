import GemSim.CodeObject.MessageGrammar
import Mathlib.Data.List.Nodup

/-!
# The law of the metadata

The parser accepts exactly the maps with string keys that are within the limits and in which every
known key has a value of its type, and the keys that are required stand somewhere. What it reports
are the last values of the known keys, so neither the order nor the other keys matter.

## Main definitions

* `Keyed`, `MapOf` — an entry with its key, and a map of entries
* `KernelValue`, `KernelMap` — what may stand in the map of a kernel
* `RootValue`, `RootMap` — what may stand in the map of a note
* `rootReport` — the last values of the known keys
* `MetadataLaw` — what holds of the parser

## Main results

* `parseMetadata_iff` — what the parser accepts, and what it reports
* `metadataLaw` — the law, for all data
-/

namespace GemSim.CodeObject

open GemSim.Lib

section Maps

variable {Entry Fields : Type}

/-- An entry: a string, and behind it the value of that key. -/
def Keyed (language : List UInt8 → Message → Entry → List UInt8 → Prop) (entry : Entry)
    (piece : List UInt8) : Prop :=
  ∃ key front message head body, Form (.text key) front ∧ Form message head ∧
    language key message entry body ∧ piece = front ++ (head ++ body)

/-- A map of entries, not too many of them. -/
def MapOf (language : Entry → List UInt8 → Prop) (entries : List Entry) (piece : List UInt8) :
    Prop :=
  ∃ head body, Form (.map entries.length) head ∧
    entries.length ≤ MaximumContainerElements.toNat ∧ Concat language entries body ∧
      piece = head ++ body

variable {message : Message} {piece head body : List UInt8} {entries : List Entry}
  {language : Entry → List UInt8 → Prop}

theorem Form.eq_text (form : Form message piece) (string : message.kind = .String) :
    message = .text message.string := by
  cases form <;> first | (cases string; done) | rfl

theorem Form.eq_map (form : Form message piece) (map : message.kind = .Map) :
    message = .map message.value.toNat := by
  cases form <;> first | (cases map; done) | simp only [Message.map, UInt64.ofNat_toNat]

theorem reads_readKeyed {parse : List UInt8 → Message → ByteCursor Entry}
    {values : List UInt8 → Message → Entry → List UInt8 → Prop}
    (reads : ∀ key message, Reads (parse key message) (values key message)) :
    Reads (readKeyed parse) (Keyed values) := by
  refine (reads_readMessage.bind fun key => Reads.unless fun _ =>
    reads_readMessage.bind fun message => reads key.string message).congr ?_
  intro entry piece
  constructor
  · rintro ⟨key, front, _, form, ⟨string, message, head, body, value, known, rfl⟩, rfl⟩
    rw [form.eq_text (not_not.mp string)] at form
    exact ⟨key.string, front, message, head, body, form, value, known, rfl⟩
  · rintro ⟨key, front, message, head, body, form, value, known, rfl⟩
    exact ⟨.text key, front, head ++ body, form,
      ⟨not_not.mpr rfl, message, head, body, value, known, rfl⟩, rfl⟩

theorem reads_readMap {gather : Fields → Entry → Fields} {start : Fields}
    {entry : ByteCursor Entry} (reads : Reads entry language) :
    Reads (readMap gather start entry) fun fields piece =>
      ∃ entries, MapOf language entries piece ∧ fields = entries.foldl gather start := by
  refine (reads_readMessage.bind fun map => Reads.unless fun _ =>
    reads.foldTimes map.value.toNat start).congr ?_
  intro fields piece
  constructor
  · rintro ⟨map, head, body, form, ⟨fits, entries, length, concat, rfl⟩, rfl⟩
    rw [not_or, not_not] at fits
    rw [form.eq_map fits.1, ← length] at form
    refine ⟨entries, ⟨head, body, form, ?_, concat, rfl⟩, rfl⟩
    rw [length]
    exact UInt64.le_iff_toNat_le.mp (UInt64.not_lt.mp fits.2)
  · rintro ⟨entries, ⟨head, body, form, few, concat, rfl⟩, rfl⟩
    have small : entries.length < 2 ^ 64 := few.trans_lt (by decide)
    have same : (Message.map entries.length).value.toNat = entries.length := toNat_ofNat_of_lt small
    refine ⟨.map entries.length, head, body, form, ⟨?_, entries, same.symm, concat, rfl⟩, rfl⟩
    rw [not_or, not_not]
    refine ⟨rfl, UInt64.not_lt.mpr (UInt64.le_iff_toNat_le.mpr ?_)⟩
    rw [same]
    exact few

end Maps

section Kernels

variable {message : Message} {piece head body key : List UInt8}

/-- The value of a key in the map of a kernel. -/
inductive KernelValue (key : List UInt8) (message : Message) : KernelEntry → List UInt8 → Prop
  | text {known : TextKey} (same : key = asciiBytes known.key) (string : message.kind = .String) :
      KernelValue key message (.text known message.string) []
  | number {known : NumberKey} (same : key = asciiBytes known.key) {value : UInt32}
      (read : kernelNumber known message = some value) :
      KernelValue key message (.number known value) []
  | other {piece : List UInt8} (notText : ∀ known : TextKey, key ≠ asciiBytes known.key)
      (notNumber : ∀ known : NumberKey, key ≠ asciiBytes known.key)
      (elements : Elements (Skippable (MaximumMessageDepth - 1)) message piece) :
      KernelValue key message .other piece

theorem find_key {Key : Type} {keys : List Key} {name : Key → List UInt8} {known : Key}
    (all : ∀ known, known ∈ keys) (distinct : (keys.map name).Nodup) :
    (keys.find? fun known => name known = key) = some known ↔ key = name known := by
  constructor
  · intro found
    have test : decide (name known = key) = true := by
      simpa using List.find?_some found
    exact (of_decide_eq_true test).symm
  · rintro rfl
    cases found : keys.find? fun other => name other = name known with
    | none => exact absurd (decide_eq_true rfl) (List.find?_eq_none.mp found known (all known))
    | some other =>
      have same : name other = name known := by
        simpa using List.find?_some found
      exact congrArg some (List.inj_on_of_nodup_map distinct (all other) (all known) same)

theorem find_no_key {Key : Type} {keys : List Key} {name : Key → List UInt8}
    (all : ∀ known, known ∈ keys) :
    (keys.find? fun known => name known = key) = none ↔ ∀ known, key ≠ name known := by
  rw [List.find?_eq_none]
  constructor
  · intro none known same
    exact none known (all known) (decide_eq_true same.symm)
  · intro none known _ same
    exact none known (of_decide_eq_true same).symm

theorem textKey_all (known : TextKey) : known ∈ TextKey.all := by
  cases known <;> decide

theorem numberKey_all (known : NumberKey) : known ∈ NumberKey.all := by
  cases known <;> decide

/-- No two of the known keys are the same. -/
theorem keys_distinct : (TextKey.all.map (fun known => asciiBytes known.key) ++
    NumberKey.all.map fun known => asciiBytes known.key).Nodup := by
  decide +kernel

theorem text_ne_number (text : TextKey) (number : NumberKey) :
    asciiBytes number.key ≠ asciiBytes text.key := by
  intro same
  have apart := (List.nodup_append.mp keys_distinct).2.2
  exact apart _ (List.mem_map_of_mem (textKey_all text)) _
    (List.mem_map_of_mem (numberKey_all number)) same.symm

theorem find_textKey {known : TextKey} :
    (TextKey.all.find? fun known => asciiBytes known.key = key) = some known ↔
      key = asciiBytes known.key :=
  find_key textKey_all (List.nodup_append.mp keys_distinct).1

theorem find_numberKey {known : NumberKey} :
    (NumberKey.all.find? fun known => asciiBytes known.key = key) = some known ↔
      key = asciiBytes known.key :=
  find_key numberKey_all (List.nodup_append.mp keys_distinct).2.1

theorem reads_kernelValue (key : List UInt8) (message : Message) :
    Reads (kernelValue key message) (KernelValue key message) := by
  unfold kernelValue
  cases text : TextKey.all.find? fun known => asciiBytes known.key = key with
  | some known =>
    have same := find_textKey.mp text
    refine (Reads.unless fun _ => Reads.pure).congr fun entry piece => ?_
    constructor
    · rintro ⟨string, rfl, rfl⟩
      exact .text same (not_not.mp string)
    · intro value
      cases value with
      | @text other equal string =>
        obtain rfl := Option.some.inj (text.symm.trans (find_textKey.mpr equal))
        exact ⟨not_not.mpr string, rfl, rfl⟩
      | @number other equal => exact absurd (equal.symm.trans same) (text_ne_number known other)
      | other notText => exact absurd same (notText known)
  | none =>
    have notText := (find_no_key textKey_all).mp text
    cases numeric : NumberKey.all.find? fun known => asciiBytes known.key = key with
    | some known =>
      have same := find_numberKey.mp numeric
      dsimp only
      cases read : kernelNumber known message with
      | none =>
        refine Reads.failure.congr fun entry piece => ?_
        refine iff_of_false id fun value => ?_
        cases value with
        | text equal => exact absurd equal (notText _)
        | @number other equal _ found =>
          obtain rfl := Option.some.inj (numeric.symm.trans (find_numberKey.mpr equal))
          exact absurd (read.symm.trans found) (Option.some_ne_none _).symm
        | other _ notNumber => exact absurd same (notNumber known)
      | some number =>
        refine Reads.pure.congr fun entry piece => ?_
        constructor
        · rintro ⟨rfl, rfl⟩
          exact .number same read
        · intro value
          cases value with
          | text equal => exact absurd equal (notText _)
          | @number other equal _ found =>
            obtain rfl := Option.some.inj (numeric.symm.trans (find_numberKey.mpr equal))
            obtain rfl := Option.some.inj (read.symm.trans found)
            exact ⟨rfl, rfl⟩
          | other _ notNumber => exact absurd same (notNumber known)
    | none =>
      have notNumber := (find_no_key numberKey_all).mp numeric
      dsimp only
      refine (reads_skipMessageBody (reads_skipMessage _) message).map.congr fun entry piece => ?_
      constructor
      · rintro ⟨_, elements, rfl⟩
        exact .other notText notNumber elements
      · intro value
        cases value with
        | text equal => exact absurd equal (notText _)
        | number equal => exact absurd equal (notNumber _)
        | other _ _ elements => exact ⟨(), elements, rfl⟩

/-- The text that an entry gives a key, and the number. -/
def KernelEntry.textOf (key : TextKey) : KernelEntry → Option (List UInt8)
  | .text known value => if known = key then some value else none
  | _ => none

def KernelEntry.numberOf (key : NumberKey) : KernelEntry → Option UInt32
  | .number known value => if known = key then some value else none
  | _ => none

/-- The last values of the known keys. -/
def kernelReport (entries : List KernelEntry) : KernelFields where
  texts key := lastOf (KernelEntry.textOf key) entries
  numbers key := lastOf (KernelEntry.numberOf key) entries

theorem assign_texts (key : TextKey) (fields : KernelFields) (entry : KernelEntry) :
    (fields.assign entry).texts key = (entry.textOf key).or (fields.texts key) := by
  cases entry with
  | text known value =>
    change Function.update fields.texts known (some value) key = _
    by_cases same : known = key
    · rw [same, Function.update_self, KernelEntry.textOf, if_pos rfl]
      rfl
    · rw [Function.update_of_ne (Ne.symm same), KernelEntry.textOf, if_neg same]
      rfl
  | number known value => rfl
  | other => rfl

theorem assign_numbers (key : NumberKey) (fields : KernelFields) (entry : KernelEntry) :
    (fields.assign entry).numbers key = (entry.numberOf key).or (fields.numbers key) := by
  cases entry with
  | text known value => rfl
  | number known value =>
    change Function.update fields.numbers known (some value) key = _
    by_cases same : known = key
    · rw [same, Function.update_self, KernelEntry.numberOf, if_pos rfl]
      rfl
    · rw [Function.update_of_ne (Ne.symm same), KernelEntry.numberOf, if_neg same]
      rfl
  | other => rfl

theorem foldl_kernel (entries : List KernelEntry) :
    entries.foldl KernelFields.assign {} = kernelReport entries := by
  have texts (key : TextKey) : (entries.foldl KernelFields.assign {}).texts key =
      lastOf (KernelEntry.textOf key) entries :=
    @foldl_lastOf _ _ _ KernelFields.assign (fun fields => fields.texts key) _ (assign_texts key)
      entries {} rfl
  have numbers (key : NumberKey) : (entries.foldl KernelFields.assign {}).numbers key =
      lastOf (KernelEntry.numberOf key) entries :=
    @foldl_lastOf _ _ _ KernelFields.assign (fun fields => fields.numbers key) _
      (assign_numbers key) entries {} rfl
  rw [kernelReport, ← funext texts, ← funext numbers]

/-- The map of a kernel, in which all that is required stands somewhere. -/
def KernelMap (kernel : KernelMetadata) (piece : List UInt8) : Prop :=
  ∃ entries, MapOf (Keyed KernelValue) entries piece ∧
    (kernelReport entries).complete = true ∧ kernel = (kernelReport entries).kernel

theorem reads_parseKernel : Reads parseKernel KernelMap := by
  refine ((reads_readMap (reads_readKeyed reads_kernelValue)).bind fun fields =>
    Reads.unless fun _ => Reads.pure).congr fun kernel piece => ?_
  constructor
  · rintro ⟨_, front, _, ⟨entries, map, rfl⟩, ⟨complete, rfl, rfl⟩, rfl⟩
    rw [foldl_kernel, Bool.not_eq_true', Bool.not_eq_false] at complete
    rw [List.append_nil, foldl_kernel]
    exact ⟨entries, map, complete, rfl⟩
  · rintro ⟨entries, map, complete, rfl⟩
    refine ⟨_, piece, [], ⟨entries, map, rfl⟩, ⟨?_, ?_, rfl⟩, (List.append_nil piece).symm⟩
    · rw [foldl_kernel, complete]
      decide
    · rw [foldl_kernel]

end Kernels

section Roots

variable {message : Message} {piece head body key : List UInt8} {selectedIndex : UInt32}

/-- A number, in any form. -/
def NumberForm (value : UInt32) (piece : List UInt8) : Prop :=
  ∃ message, Form message piece ∧ number message = some value

/-- The value of a key in the map of a note. -/
inductive RootValue (selectedIndex : UInt32) (key : List UInt8) (message : Message) :
    RootEntry → List UInt8 → Prop
  | target (same : key = asciiBytes "amdhsa.target") (string : message.kind = .String) :
      RootValue selectedIndex key message (.target message.string) []
  | version (same : key = asciiBytes "amdhsa.version") (array : message.kind = .Array)
      (pair : message.value = 2) {major minor : UInt32} {front back : List UInt8}
      (first : NumberForm major front) (second : NumberForm minor back) :
      RootValue selectedIndex key message (.version major minor) (front ++ back)
  | kernels (same : key = asciiBytes "amdhsa.kernels") (array : message.kind = .Array)
      {kernels : List KernelMetadata} (length : kernels.length = message.value.toNat)
      (few : kernels.length ≤ MaximumMetadataKernels)
      (selected : selectedIndex.toNat < kernels.length) {piece : List UInt8}
      (concat : Concat KernelMap kernels piece) :
      RootValue selectedIndex key message (.kernels kernels) piece
  | other {piece : List UInt8} (notTarget : key ≠ asciiBytes "amdhsa.target")
      (notVersion : key ≠ asciiBytes "amdhsa.version")
      (notKernels : key ≠ asciiBytes "amdhsa.kernels")
      (elements : Elements (Skippable (MaximumMessageDepth - 1)) message piece) :
      RootValue selectedIndex key message .other piece

theorem reads_readNumber : Reads readNumber NumberForm := by
  have reads : Reads readNumber (Then Form fun message value piece =>
      number message = some value ∧ piece = []) := by
    refine reads_readMessage.bind fun message => ?_
    cases found : number message with
    | none => exact Reads.failure.congr fun value piece => by simp
    | some value => exact Reads.pure.congr fun other piece => by simp [eq_comm]
  refine reads.congr fun value piece => ?_
  constructor
  · rintro ⟨message, front, _, form, ⟨found, rfl⟩, rfl⟩
    rw [List.append_nil]
    exact ⟨message, form, found⟩
  · rintro ⟨message, form, found⟩
    exact ⟨message, piece, [], form, ⟨found, rfl⟩, (List.append_nil piece).symm⟩

theorem reads_readVersion (message : Message) :
    Reads (readVersion message) fun entry piece =>
      ¬ (message.kind ≠ .Array ∨ message.value ≠ 2) ∧
        ∃ major minor front back, NumberForm major front ∧ NumberForm minor back ∧
          entry = .version major minor ∧ piece = front ++ back := by
  refine Reads.unless fun _ => (reads_readNumber.bind fun major =>
    reads_readNumber.map).congr fun entry piece => ?_
  constructor
  · rintro ⟨major, front, back, first, ⟨minor, second, rfl⟩, rfl⟩
    exact ⟨major, minor, front, back, first, second, rfl, rfl⟩
  · rintro ⟨major, minor, front, back, first, second, rfl, rfl⟩
    exact ⟨major, front, back, first, ⟨minor, second, rfl⟩, rfl⟩

theorem reads_readKernels (message : Message) :
    Reads (readKernels selectedIndex message) fun entry piece =>
      ¬ (message.kind ≠ .Array ∨ message.value = 0 ∨
        message.value.toNat > MaximumMetadataKernels ∨
          selectedIndex.toUInt64 ≥ message.value) ∧
        ∃ kernels, kernels.length = message.value.toNat ∧ Concat KernelMap kernels piece ∧
          entry = .kernels kernels := by
  refine Reads.unless fun _ => ((reads_parseKernel.foldTimes message.value.toNat []).map).congr
    fun entry piece => ?_
  have gathered (kernels : List KernelMetadata) :
      kernels.foldl (fun kernels kernel => kernels ++ [kernel]) [] = kernels := by
    induction kernels using List.reverseRecOn with
    | nil => rfl
    | append_singleton kernels kernel ih => rw [List.foldl_concat, ih]
  constructor
  · rintro ⟨_, ⟨kernels, length, concat, rfl⟩, rfl⟩
    rw [gathered]
    exact ⟨kernels, length, concat, rfl⟩
  · rintro ⟨kernels, length, concat, rfl⟩
    exact ⟨kernels, ⟨kernels, length, concat, (gathered kernels).symm⟩, rfl⟩

theorem rootKeys_distinct : asciiBytes "amdhsa.target" ≠ asciiBytes "amdhsa.version" ∧
    asciiBytes "amdhsa.target" ≠ asciiBytes "amdhsa.kernels" ∧
    asciiBytes "amdhsa.version" ≠ asciiBytes "amdhsa.kernels" := by
  decide +kernel

theorem reads_rootValue (key : List UInt8) (message : Message) :
    Reads (rootValue selectedIndex key message) (RootValue selectedIndex key message) := by
  obtain ⟨targetVersion, targetKernels, versionKernels⟩ := rootKeys_distinct
  unfold rootValue
  by_cases target : key = asciiBytes "amdhsa.target"
  · rw [if_pos target]
    refine (Reads.unless fun _ => Reads.pure).congr fun entry piece => ?_
    constructor
    · rintro ⟨string, rfl, rfl⟩
      exact .target target (not_not.mp string)
    · intro value
      cases value with
      | target _ string => exact ⟨not_not.mpr string, rfl, rfl⟩
      | version same => exact absurd (target.symm.trans same) targetVersion
      | kernels same => exact absurd (target.symm.trans same) targetKernels
      | other notTarget => exact absurd target notTarget
  rw [if_neg target]
  by_cases version : key = asciiBytes "amdhsa.version"
  · rw [if_pos version]
    refine (reads_readVersion message).congr fun entry piece => ?_
    constructor
    · rintro ⟨pair, major, minor, front, back, first, second, rfl, rfl⟩
      rw [not_or, not_not, not_not] at pair
      exact .version version pair.1 pair.2 first second
    · intro value
      cases value with
      | target same => exact absurd same target
      | version _ array pair first second =>
        refine ⟨?_, _, _, _, _, first, second, rfl, rfl⟩
        rw [not_or, not_not, not_not]
        exact ⟨array, pair⟩
      | kernels same => exact absurd (version.symm.trans same) versionKernels
      | other _ notVersion => exact absurd version notVersion
  rw [if_neg version]
  by_cases kernels : key = asciiBytes "amdhsa.kernels"
  · rw [if_pos kernels]
    refine (reads_readKernels message).congr fun entry piece => ?_
    rw [not_or, not_or, not_or, not_not, gt_iff_lt, Nat.not_lt, ge_iff_le, UInt64.not_le,
      UInt64.lt_iff_toNat_lt, UInt32.toNat_toUInt64]
    constructor
    · rintro ⟨⟨array, -, few, selected⟩, list, length, concat, rfl⟩
      rw [← length] at few selected
      exact .kernels kernels array length few selected concat
    · intro value
      cases value with
      | target same => exact absurd same target
      | version same => exact absurd same version
      | kernels _ array length few selected concat =>
        rw [length] at few selected
        refine ⟨⟨array, ?_, few, selected⟩, _, length, concat, rfl⟩
        rw [← UInt64.toNat_inj, UInt64.toNat_zero]
        omega
      | other _ _ notKernels => exact absurd kernels notKernels
  rw [if_neg kernels]
  refine (reads_skipMessageBody (reads_skipMessage _) message).map.congr fun entry piece => ?_
  constructor
  · rintro ⟨_, elements, rfl⟩
    exact .other target version kernels elements
  · intro value
    cases value with
    | target same => exact absurd same target
    | version same => exact absurd same version
    | kernels same => exact absurd same kernels
    | other _ _ _ elements => exact ⟨(), elements, rfl⟩

/-- What an entry says of the target, of the version and of the kernels. -/
def RootEntry.targetOf : RootEntry → Option (List UInt8)
  | .target value => some value
  | _ => none

def RootEntry.versionOf : RootEntry → Option (UInt32 × UInt32)
  | .version major minor => some (major, minor)
  | _ => none

def RootEntry.kernelsOf : RootEntry → Option (List KernelMetadata)
  | .kernels list => some list
  | _ => none

/-- The last values of the known keys. -/
def rootReport (entries : List RootEntry) : RootFields where
  target := lastOf RootEntry.targetOf entries
  version := lastOf RootEntry.versionOf entries
  kernels := lastOf RootEntry.kernelsOf entries

theorem foldl_root (entries : List RootEntry) :
    entries.foldl RootFields.assign {} = rootReport entries := by
  have target : (entries.foldl RootFields.assign {}).target = lastOf RootEntry.targetOf entries :=
    foldl_lastOf (fun fields entry => by cases entry <;> rfl) entries rfl
  have version : (entries.foldl RootFields.assign {}).version =
      lastOf RootEntry.versionOf entries :=
    foldl_lastOf (fun fields entry => by cases entry <;> rfl) entries rfl
  have kernels : (entries.foldl RootFields.assign {}).kernels =
      lastOf RootEntry.kernelsOf entries :=
    foldl_lastOf (fun fields entry => by cases entry <;> rfl) entries rfl
  rw [rootReport, ← target, ← version, ← kernels]

/-- The map of a note: known keys have values of their types, and everything is within limits. -/
def RootMap (selectedIndex : UInt32) (entries : List RootEntry) (data : List UInt8) : Prop :=
  MapOf (Keyed (RootValue selectedIndex)) entries data

/-- The map of a note is read as what its entries report. -/
theorem reads_root : Reads (readMap RootFields.assign {} (readKeyed (rootValue selectedIndex)))
    fun fields piece => ∃ entries, RootMap selectedIndex entries piece ∧
      fields = rootReport entries := by
  refine (reads_readMap (reads_readKeyed reads_rootValue)).congr fun fields piece => ?_
  exact exists_congr fun entries => and_congr_right fun _ => by rw [foldl_root]

/-- Some data are a map of entries in one way only, as far as is reported of them. -/
theorem rootReport_unique {data : List UInt8} {entries others : List RootEntry}
    (map : RootMap selectedIndex entries data) (also : RootMap selectedIndex others data) :
    rootReport entries = rootReport others :=
  (@Reads.unique _ _ _ _ data data reads_root _ _ [] []
    ⟨entries, map, rfl⟩ ⟨others, also, rfl⟩ rfl).1

/-- What the parser accepts, and what it reports. -/
theorem parseMetadata_iff {data : List UInt8} {metadata : Metadata} :
    parseMetadata data selectedIndex = some metadata ↔ ∃ entries,
      RootMap selectedIndex entries data ∧ (rootReport entries).complete = true ∧
        metadata = (rootReport entries).metadata selectedIndex := by
  have reads := @reads_root selectedIndex data
  unfold parseMetadata
  constructor
  · intro found
    split at found
    · cases found
    rename_i fields rest ran
    obtain ⟨piece, ⟨entries, map, rfl⟩, split⟩ := (reads fields rest).mp ran
    split at found
    · rename_i accepted
      rw [Bool.and_eq_true, List.isEmpty_iff] at accepted
      obtain ⟨complete, rfl⟩ := accepted
      rw [List.append_nil] at split
      rw [split]
      exact ⟨entries, map, complete, (Option.some.inj found).symm⟩
    · cases found
  · rintro ⟨entries, map, complete, rfl⟩
    have ran := (reads (rootReport entries) []).mpr
      ⟨data, ⟨entries, map, rfl⟩, (List.append_nil data).symm⟩
    rw [ran]
    dsimp only
    rw [complete]
    rfl

end Roots

section Items

variable {Entry : Type} {message : Message} {piece head body key : List UInt8}
  {selectedIndex : UInt32} {entries : List Entry} {language : Entry → List UInt8 → Prop}

theorem Form.item (form : Form message piece) (none : message.arity = 0) : Item piece := by
  have node := Item.node form [] (fun part member => absurd member List.not_mem_nil) none.symm
  rwa [List.flatten_nil, List.append_nil] at node

theorem Elements.item {levels : ℕ} (form : Form message head)
    (elements : Elements (Skippable levels) message body) : Item (head ++ body) := by
  obtain ⟨-, parts, arity, each, rfl⟩ := elements
  exact .node form parts (fun part member => (each part member).item) arity

/-- A map of entries that are two messages each is a message. -/
theorem MapOf.item (map : MapOf language entries piece)
    (pairs : ∀ entry piece, language entry piece →
      ∃ front back, Item front ∧ Item back ∧ piece = front ++ back) : Item piece := by
  obtain ⟨head, _, form, few, ⟨pieces, each, rfl⟩, rfl⟩ := map
  have split : ∃ parts : List (List UInt8), parts.length = 2 * entries.length ∧
      (∀ part ∈ parts, Item part) ∧ pieces.flatten = parts.flatten := by
    clear form few
    induction each with
    | nil => exact ⟨[], rfl, fun part member => absurd member List.not_mem_nil, rfl⟩
    | cons here rest ih =>
      obtain ⟨front, back, first, second, rfl⟩ := pairs _ _ here
      obtain ⟨parts, length, items, same⟩ := ih
      refine ⟨front :: back :: parts, ?_, ?_, ?_⟩
      · rw [List.length_cons, List.length_cons, List.length_cons, length]
        omega
      · rw [List.forall_mem_cons, List.forall_mem_cons]
        exact ⟨first, second, items⟩
      · rw [List.flatten_cons, List.flatten_cons, List.flatten_cons, same, List.append_assoc]
  obtain ⟨parts, length, items, same⟩ := split
  rw [same]
  refine .node form parts items ?_
  have small : entries.length < 2 ^ 64 := few.trans_lt (by decide)
  rw [length]
  exact congrArg (2 * ·) (toNat_ofNat_of_lt small).symm

/-- An entry is two messages if its value is one. -/
theorem Keyed.pair {values : List UInt8 → Message → Entry → List UInt8 → Prop} {entry : Entry}
    (keyed : Keyed values entry piece)
    (item : ∀ key message head body, Form message head → values key message entry body →
      Item (head ++ body)) :
    ∃ front back, Item front ∧ Item back ∧ piece = front ++ back := by
  obtain ⟨key, front, message, head, body, form, value, known, rfl⟩ := keyed
  exact ⟨front, head ++ body, form.item rfl, item key message head body value known, rfl⟩

theorem arity_of_number {value : UInt32} (read : number message = some value) :
    message.arity = 0 := by
  unfold number at read
  rw [Message.arity]
  split
  · rename_i array
    rw [array] at read
    cases read
  · rename_i map
    rw [map] at read
    cases read
  · rfl

theorem arity_of_string (string : message.kind = .String) : message.arity = 0 := by
  rw [Message.arity, string]

theorem KernelValue.item {entry : KernelEntry} (form : Form message head)
    (value : KernelValue key message entry body) : Item (head ++ body) := by
  cases value with
  | text _ string =>
    rw [List.append_nil]
    exact form.item (arity_of_string string)
  | number _ read =>
    rw [List.append_nil]
    obtain ⟨found, -⟩ := Option.filter_eq_some_iff.mp read
    exact form.item (arity_of_number found)
  | other _ _ elements => exact elements.item form

theorem KernelMap.item {kernel : KernelMetadata} (map : KernelMap kernel piece) : Item piece := by
  obtain ⟨entries, map, -, -⟩ := map
  exact map.item fun _ _ keyed => keyed.pair fun _ _ _ _ form value => value.item form

theorem NumberForm.item {value : UInt32} (form : NumberForm value piece) : Item piece := by
  obtain ⟨message, form, read⟩ := form
  exact form.item (arity_of_number read)

theorem RootValue.item {entry : RootEntry} (form : Form message head)
    (value : RootValue selectedIndex key message entry body) : Item (head ++ body) := by
  cases value with
  | target _ string =>
    rw [List.append_nil]
    exact form.item (arity_of_string string)
  | @version _ array pair major minor front back first second =>
    have node := Item.node form [front, back] (by simp [first.item, second.item])
      (by rw [Message.arity, array, pair]; rfl)
    simpa using node
  | kernels _ array length _ _ concat =>
    obtain ⟨pieces, each, rfl⟩ := concat
    have items : ∀ piece ∈ pieces, Item piece := by
      intro piece member
      obtain ⟨kernel, -, map⟩ := exists_of_forall₂ each member
      exact map.item
    refine .node form pieces items ?_
    rw [Message.arity, array, ← each.length_eq, length]
  | other _ _ _ elements => exact elements.item form

theorem RootMap.item {entries : List RootEntry} (map : RootMap selectedIndex entries piece) :
    Item piece :=
  MapOf.item map fun _ _ keyed => keyed.pair fun _ _ _ _ form value => value.item form

end Items

section Views

variable {Entry : Type} {message : Message} {piece head body key data : List UInt8}
  {selectedIndex : UInt32} {language : Entry → List UInt8 → Prop} {entries : List Entry}
  {entry : Entry}

theorem Form.string_within (form : Form message piece) : message.string <:+: piece := by
  cases form with
  | fixstr _ _ => exact (List.suffix_cons _ _).isInfix
  | str _ _ _ => exact ((List.suffix_append _ _).trans (List.suffix_cons _ _)).isInfix
  | _ => exact List.nil_infix

theorem MapOf.part (map : MapOf language entries data) (member : entry ∈ entries) :
    ∃ part, language entry part ∧ part <:+: data := by
  obtain ⟨head, body, -, -, concat, rfl⟩ := map
  obtain ⟨part, known, inside⟩ := concat.part member
  exact ⟨part, known, inside.trans (List.suffix_append _ _).isInfix⟩

/-- The value of an entry stands behind its key. -/
theorem MapOf.value {values : List UInt8 → Message → Entry → List UInt8 → Prop}
    (map : MapOf (Keyed values) entries data) (member : entry ∈ entries) :
    ∃ key message head body, Form message head ∧ values key message entry body ∧
      head <:+: data ∧ body <:+: data := by
  obtain ⟨_, ⟨key, front, message, head, body, -, value, known, rfl⟩, inside⟩ := map.part member
  have behind : head ++ body <:+: data := (List.suffix_append _ _).isInfix.trans inside
  exact ⟨key, message, head, body, value, known, (List.prefix_append _ _).isInfix.trans behind,
    (List.suffix_append _ _).isInfix.trans behind⟩

/-- The texts of a kernel stand in its map. -/
theorem KernelMap.text_within {kernel : KernelMetadata} (map : KernelMap kernel piece) :
    kernel.name <:+: piece ∧ kernel.symbol <:+: piece := by
  obtain ⟨entries, map, complete, rfl⟩ := map
  have text (key : TextKey) : ((kernelReport entries).texts key).getD [] <:+: piece := by
    cases found : (kernelReport entries).texts key with
    | none => exact List.nil_infix
    | some value =>
      obtain ⟨entry, member, given⟩ := lastOf_mem found
      obtain ⟨_, message, head, body, form, value, inside, -⟩ := map.value member
      cases value with
      | text same string =>
        rw [KernelEntry.textOf] at given
        split at given
        · rw [← Option.some.inj given]
          exact form.string_within.trans inside
        · cases given
      | number => cases given
      | other => cases given
  exact ⟨text .name, text .symbol⟩

/-- The texts that are reported stand in the data. -/
theorem RootMap.text_within {entries : List RootEntry} (map : RootMap selectedIndex entries data) :
    ((rootReport entries).metadata selectedIndex).target <:+: data ∧
      ((rootReport entries).metadata selectedIndex).selected.name <:+: data ∧
      ((rootReport entries).metadata selectedIndex).selected.symbol <:+: data := by
  have target : ((rootReport entries).target).getD [] <:+: data := by
    cases found : (rootReport entries).target with
    | none => exact List.nil_infix
    | some value =>
      obtain ⟨entry, member, given⟩ := lastOf_mem found
      obtain ⟨_, message, head, body, form, value, inside, -⟩ := MapOf.value map member
      cases value with
      | target same string =>
        rw [← Option.some.inj given]
        exact form.string_within.trans inside
      | version => cases given
      | kernels => cases given
      | other => cases given
  have kernel : (((rootReport entries).kernels.getD []).getD selectedIndex.toNat {}).name <:+: data ∧
      (((rootReport entries).kernels.getD []).getD selectedIndex.toNat {}).symbol <:+: data := by
    cases found : (rootReport entries).kernels with
    | none => exact ⟨List.nil_infix, List.nil_infix⟩
    | some list =>
      obtain ⟨entry, member, given⟩ := lastOf_mem found
      obtain ⟨_, message, head, body, form, value, -, inside⟩ := MapOf.value map member
      cases value with
      | kernels _ _ _ _ selected concat =>
        rw [← Option.some.inj given, Option.getD_some, List.getD_eq_getElem _ _ selected]
        obtain ⟨part, kernelMap, within⟩ := concat.part (List.getElem_mem selected)
        obtain ⟨name, symbol⟩ := kernelMap.text_within
        exact ⟨name.trans (within.trans inside), symbol.trans (within.trans inside)⟩
      | target => cases given
      | version => cases given
      | other => cases given
  exact ⟨target, kernel⟩

end Views

section Laws

variable (data : List UInt8) (selectedIndex : UInt32)

/-- What holds of the parser. What it reports are the last values of the known keys. -/
structure MetadataLaw : Prop where
  sound : ∀ metadata, parseMetadata data selectedIndex = some metadata → ∃ entries,
    RootMap selectedIndex entries data ∧ (rootReport entries).complete = true ∧
      metadata = (rootReport entries).metadata selectedIndex
  wellFormed : (parseMetadata data selectedIndex).isSome = true → Item data
  within : ∀ metadata, parseMetadata data selectedIndex = some metadata →
    metadata.target <:+: data ∧ metadata.selected.name <:+: data ∧
      metadata.selected.symbol <:+: data
  complete : ∀ entries, RootMap selectedIndex entries data →
    (rootReport entries).complete = true →
      parseMetadata data selectedIndex = some ((rootReport entries).metadata selectedIndex)
  /-- Neither the order of the keys nor the others matter: only the last values do. -/
  determined : ∀ entries others entries', RootMap selectedIndex entries data →
    RootMap selectedIndex entries' others → rootReport entries = rootReport entries' →
      parseMetadata others selectedIndex = parseMetadata data selectedIndex

/-- The law of the parser, for all data. -/
theorem metadataLaw : MetadataLaw data selectedIndex := by
  have accepts : ∀ data entries, RootMap selectedIndex entries data → ∀ metadata,
      parseMetadata data selectedIndex = some metadata ↔ (rootReport entries).complete = true ∧
        metadata = (rootReport entries).metadata selectedIndex := by
    intro data entries map metadata
    rw [parseMetadata_iff]
    constructor
    · rintro ⟨others, also, complete, rfl⟩
      rw [rootReport_unique map also]
      exact ⟨complete, rfl⟩
    · rintro ⟨complete, rfl⟩
      exact ⟨entries, map, complete, rfl⟩
  refine ⟨fun metadata found => parseMetadata_iff.mp found, ?_, ?_, ?_, ?_⟩
  · intro found
    obtain ⟨metadata, found⟩ := Option.isSome_iff_exists.mp found
    obtain ⟨entries, map, -⟩ := parseMetadata_iff.mp found
    exact map.item
  · intro metadata found
    obtain ⟨entries, map, -, rfl⟩ := parseMetadata_iff.mp found
    exact map.text_within
  · intro entries map complete
    exact (accepts data entries map _).mpr ⟨complete, rfl⟩
  · intro entries others entries' map also same
    ext metadata
    rw [accepts data entries map, accepts others entries' also, same]

section Example

/-- A short string and its tag. -/
def fixstr (string : String) : List UInt8 :=
  UInt8.ofNat (0xa0 + (asciiBytes string).length) :: asciiBytes string

/-- A kernel with the name and the numbers that every kernel has. -/
def shortKernel : List UInt8 :=
  0x8a :: (fixstr ".name" ++ fixstr "k" ++ fixstr ".symbol" ++ fixstr "k.kd" ++
    NumberKey.required.flatMap fun key => fixstr key.key ++ [0x08])

/-- A note with one kernel, without the tag of its map. -/
def shortEntries : List UInt8 :=
  fixstr "amdhsa.target" ++ fixstr "gfx950" ++ fixstr "amdhsa.version" ++ [0x92, 0x01, 0x02] ++
    fixstr "amdhsa.kernels" ++ [0x91] ++ shortKernel

example : (parseMetadata (0x83 :: shortEntries) 0).isSome = true := by decide +kernel

-- A key that is no string is refused, although the map is one message.
example : (skipMessage 5).run (0x84 :: 0x00 :: 0xc0 :: shortEntries) = some ((), []) ∧
    parseMetadata (0x84 :: 0x00 :: 0xc0 :: shortEntries) 0 = none :=
  ⟨by decide +kernel, by decide +kernel⟩

end Example

end Laws

end GemSim.CodeObject
