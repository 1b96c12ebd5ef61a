import GemSim.CodeObject.MessagePack
import GemSim.Lib.Records
import GemSim.Lib.Words
import Mathlib.Tactic.IntervalCases

/-!
# The grammar of MessagePack

A message is a tag, what the tag says of itself, and the elements if it is a container. The forms
of a tag are listed here as the format defines them, and the reader of one message reads exactly
these forms.

## Main definitions

* `Form` — the forms of a message without its elements
* `Item` — a whole message, `Skippable` one within the limits

## Main results

* `reads_readMessage` — the reader reads the forms
* `reads_skipMessage` — the skipping of a message reads what is within the limits
* `Skippable.item` — what is skipped is a message
-/

namespace GemSim.CodeObject

open GemSim.Lib

section Forms

namespace Message

def unsigned (value : ℕ) : Message := { kind := .Unsigned, value := UInt64.ofNat value }

def signed (value : ℤ) : Message := { kind := .Signed, signedValue := Int64.ofInt value }

def text (string : List UInt8) : Message := { kind := .String, string := string }

def array (count : ℕ) : Message := { kind := .Array, value := UInt64.ofNat count }

def map (count : ℕ) : Message := { kind := .Map, value := UInt64.ofNat count }

/-- The number of messages that belong to one. -/
def arity (message : Message) : ℕ :=
  match message.kind with
  | .Array => message.value.toNat
  | .Map => 2 * message.value.toNat
  | _ => 0

end Message

/-- A number of some bytes, the first bit of which is its sign. -/
def twosComplement (bytes : List UInt8) : ℤ :=
  if ofBigEndian bytes < 2 ^ (8 * bytes.length - 1) then ofBigEndian bytes
  else ofBigEndian bytes - 2 ^ (8 * bytes.length)

/-- The forms of a message, without the elements of a container. -/
inductive Form : Message → List UInt8 → Prop
  | positiveFixint {tag : UInt8} (range : tag.toNat < 0x80) : Form (.unsigned tag.toNat) [tag]
  | negativeFixint {tag : UInt8} (range : 0xe0 ≤ tag.toNat) : Form (.signed (tag.toNat - 256)) [tag]
  | fixmap {tag : UInt8} (range : 0x80 ≤ tag.toNat ∧ tag.toNat < 0x90) :
      Form (.map (tag.toNat - 0x80)) [tag]
  | fixarray {tag : UInt8} (range : 0x90 ≤ tag.toNat ∧ tag.toNat < 0xa0) :
      Form (.array (tag.toNat - 0x90)) [tag]
  | fixstr {tag : UInt8} (range : 0xa0 ≤ tag.toNat ∧ tag.toNat < 0xc0) {string : List UInt8}
      (length : string.length = tag.toNat - 0xa0) : Form (.text string) (tag :: string)
  | nil : Form {} [0xc0]
  | boolean (value : Bool) : Form (.unsigned value.toNat) [if value then 0xc3 else 0xc2]
  | bin {tag : UInt8} {width : ℕ} (row : (tag, width) ∈ [(0xc4, 1), (0xc5, 2), (0xc6, 4)])
      {count bytes : List UInt8} (counted : count.length = width)
      (length : bytes.length = ofBigEndian count) : Form {} (tag :: (count ++ bytes))
  | ext {tag : UInt8} {width : ℕ} (row : (tag, width) ∈ [(0xc7, 1), (0xc8, 2), (0xc9, 4)])
      {count bytes : List UInt8} (counted : count.length = width) (type : UInt8)
      (length : bytes.length = ofBigEndian count) : Form {} (tag :: (count ++ type :: bytes))
  | float {tag : UInt8} {width : ℕ} (row : (tag, width) ∈ [(0xca, 4), (0xcb, 8)])
      {bytes : List UInt8} (length : bytes.length = width) : Form {} (tag :: bytes)
  | uint {tag : UInt8} {width : ℕ}
      (row : (tag, width) ∈ [(0xcc, 1), (0xcd, 2), (0xce, 4), (0xcf, 8)])
      {bytes : List UInt8} (length : bytes.length = width) :
      Form (.unsigned (ofBigEndian bytes)) (tag :: bytes)
  | int {tag : UInt8} {width : ℕ}
      (row : (tag, width) ∈ [(0xd0, 1), (0xd1, 2), (0xd2, 4), (0xd3, 8)])
      {bytes : List UInt8} (length : bytes.length = width) :
      Form (.signed (twosComplement bytes)) (tag :: bytes)
  | fixext {tag : UInt8} {width : ℕ}
      (row : (tag, width) ∈ [(0xd4, 1), (0xd5, 2), (0xd6, 4), (0xd7, 8), (0xd8, 16)])
      (type : UInt8) {bytes : List UInt8} (length : bytes.length = width) :
      Form {} (tag :: type :: bytes)
  | str {tag : UInt8} {width : ℕ} (row : (tag, width) ∈ [(0xd9, 1), (0xda, 2), (0xdb, 4)])
      {count string : List UInt8} (counted : count.length = width)
      (length : string.length = ofBigEndian count) : Form (.text string) (tag :: (count ++ string))
  | array {tag : UInt8} {width : ℕ} (row : (tag, width) ∈ [(0xdc, 2), (0xdd, 4)])
      {count : List UInt8} (counted : count.length = width) :
      Form (.array (ofBigEndian count)) (tag :: count)
  | map {tag : UInt8} {width : ℕ} (row : (tag, width) ∈ [(0xde, 2), (0xdf, 4)])
      {count : List UInt8} (counted : count.length = width) :
      Form (.map (ofBigEndian count)) (tag :: count)

end Forms

section Numbers

variable {width : ℕ} {bytes : List UInt8}

theorem shift_or_byte (value : ℕ) (byte : UInt8) :
    UInt64.ofNat value <<< 8 ||| byte.toUInt64 = UInt64.ofNat (256 * value + byte.toNat) := by
  have small := byte.toNat_lt
  rw [← UInt64.toNat_inj, UInt64.toNat_or, UInt64.toNat_shiftLeft, UInt8.toNat_toUInt64,
    UInt64.toNat_ofNat', UInt64.toNat_ofNat']
  have shifted : (value % 2 ^ 64) <<< ((8 : UInt64).toNat % 64) % 2 ^ 64 =
      (value % 2 ^ 56) <<< 8 := by
    rw [show (8 : UInt64).toNat % 64 = 8 from rfl, Nat.shiftLeft_eq, Nat.shiftLeft_eq]
    omega
  rw [shifted, ← Nat.shiftLeft_add_eq_or_of_lt small, Nat.shiftLeft_eq]
  omega

/-- The shifts of a word gather the number of some bytes. -/
theorem foldl_shift_eq (start : ℕ) :
    bytes.foldl (fun (value : UInt64) byte => value <<< 8 ||| byte.toUInt64) (UInt64.ofNat start) =
      UInt64.ofNat (bytes.foldl (fun value byte => 256 * value + byte.toNat) start) := by
  induction bytes generalizing start with
  | nil => rfl
  | cons byte rest ih => rw [List.foldl_cons, List.foldl_cons, shift_or_byte, ih]

theorem reads_bigUnsigned (positive : 0 < width) (short : width ≤ 8) :
    Reads (readBigUnsigned width) fun value piece =>
      piece.length = width ∧ value = UInt64.ofNat (ofBigEndian piece) := by
  rw [readBigUnsigned, if_neg (by omega)]
  refine (reads_take width).map.congr fun value piece => ?_
  have gathered := @foldl_shift_eq piece 0
  constructor
  · rintro ⟨_, ⟨rfl, length⟩, rfl⟩
    exact ⟨length, gathered⟩
  · rintro ⟨length, rfl⟩
    exact ⟨piece, ⟨rfl, length⟩, gathered.symm⟩

theorem ofBigEndian_lt_word (short : bytes.length ≤ 8) : ofBigEndian bytes < 2 ^ 64 := by
  have below := ofBigEndian_lt bytes
  have power : 256 ^ bytes.length ≤ 256 ^ 8 := Nat.pow_le_pow_right (by decide) short
  exact below.trans_le (power.trans_eq (by decide))

theorem toInt64_ofNat {value : ℕ} {signed : ℤ} (same : signed % 2 ^ 64 = value % 2 ^ 64) :
    (UInt64.ofNat value).toInt64 = Int64.ofInt signed := by
  apply Int64.toBitVec.inj
  apply BitVec.eq_of_toNat_eq
  rw [Int64.toBitVec_ofInt, BitVec.toNat_ofInt]
  change value % 2 ^ 64 = _
  omega

/-- A word with the bits above a narrow number set. -/
theorem or_fill {value bits : ℕ} (narrow : bits ≤ 64) (below : value < 2 ^ bits) {fill : UInt64}
    (filled : fill.toNat = 2 ^ 64 - 2 ^ bits) :
    UInt64.ofNat value ||| fill = UInt64.ofNat (2 ^ 64 - 2 ^ bits + value) := by
  have power : 2 ^ bits ≤ 2 ^ 64 := Nat.pow_le_pow_right (by decide) narrow
  have split : 2 ^ 64 - 2 ^ bits = (2 ^ (64 - bits) - 1) <<< bits := by
    rw [Nat.shiftLeft_eq, Nat.sub_mul, ← Nat.pow_add, Nat.sub_add_cancel narrow, Nat.one_mul]
  rw [← UInt64.toNat_inj, UInt64.toNat_or, filled, toNat_ofNat_of_lt (below.trans_le power),
    toNat_ofNat_of_lt (by omega), Nat.or_comm, split, ← Nat.shiftLeft_add_eq_or_of_lt below]

/-- The first bit of a narrow number. -/
theorem and_top_ne_zero {value bits : ℕ} (narrow : bits < 64) (below : value < 2 ^ (bits + 1))
    {top : UInt64} (single : top.toNat = 2 ^ bits) :
    UInt64.ofNat value &&& top ≠ 0 ↔ 2 ^ bits ≤ value := by
  have power : 2 ^ (bits + 1) ≤ 2 ^ 64 := Nat.pow_le_pow_right (by decide) narrow
  rw [ne_eq, ← UInt64.toNat_inj, UInt64.toNat_and, single,
    toNat_ofNat_of_lt (below.trans_le power), Nat.and_two_pow, Nat.testBit_eq_decide_div_mod_eq,
    UInt64.toNat_zero]
  have half : value / 2 ^ bits < 2 := by
    rw [Nat.div_lt_iff_lt_mul (Nat.two_pow_pos bits), ← Nat.pow_succ']
    exact below
  have positive := Nat.two_pow_pos bits
  rw [← Nat.one_le_div_iff positive, Nat.mod_eq_of_lt half]
  have bit : value / 2 ^ bits = 0 ∨ value / 2 ^ bits = 1 := by
    generalize value / 2 ^ bits = quotient at half
    omega
  rcases bit with clear | set
  · simp [clear]
  · simp [set]

/-- A narrow number with its sign is its two's complement. -/
theorem signExtend_narrow {value bits : ℕ} (row : (width, bits) ∈ [(1, 7), (2, 15), (4, 31)])
    (below : value < 2 ^ (bits + 1)) :
    signExtend width (UInt64.ofNat value) =
      Int64.ofInt (if value < 2 ^ bits then (value : ℤ) else value - 2 ^ (bits + 1)) := by
  have shape : width < 8 ∧ bits < 63 ∧ (1 <<< UInt64.ofNat (width * 8 - 1) : UInt64).toNat = 2 ^ bits ∧
      (0xffffffffffffffff <<< UInt64.ofNat (width * 8) : UInt64).toNat = 2 ^ 64 - 2 ^ (bits + 1) := by
    simp only [List.mem_cons, Prod.mk.injEq, List.not_mem_nil, or_false] at row
    rcases row with ⟨rfl, rfl⟩ | ⟨rfl, rfl⟩ | ⟨rfl, rfl⟩
    · decide
    · decide
    · decide
  obtain ⟨narrow, few, top, fill⟩ := shape
  have set := and_top_ne_zero (by omega) below top
  have power : 2 ^ (bits + 1) < 2 ^ 64 := Nat.pow_lt_pow_right (by decide) (by omega)
  unfold signExtend
  by_cases high : 2 ^ bits ≤ value
  · rw [if_pos ⟨narrow, set.mpr high⟩, if_neg (Nat.not_lt.mpr high), or_fill (by omega) below fill]
    apply toInt64_ofNat
    have cast : (2 : ℤ) ^ (bits + 1) = ((2 ^ (bits + 1) : ℕ) : ℤ) := (Nat.cast_pow 2 (bits + 1)).symm
    rw [cast]
    generalize 2 ^ (bits + 1) = power' at power below
    omega
  · rw [if_neg (fun both => high (set.mp both.2)), if_pos (Nat.not_le.mp high)]
    exact toInt64_ofNat rfl

/-- The widths of numbers. -/
def Width (width : ℕ) : Prop := width = 1 ∨ width = 2 ∨ width = 4 ∨ width = 8

theorem Width.bounds (known : Width width) : 0 < width ∧ width ≤ 8 := by
  rcases known with rfl | rfl | rfl | rfl <;> decide

theorem signExtend_eq (known : Width width) (length : bytes.length = width) :
    signExtend width (UInt64.ofNat (ofBigEndian bytes)) = Int64.ofInt (twosComplement bytes) := by
  have below := ofBigEndian_lt bytes
  rw [twosComplement]
  rw [length] at below ⊢
  rcases known with rfl | rfl | rfl | rfl
  · exact signExtend_narrow (by decide) below
  · exact signExtend_narrow (by decide) below
  · exact signExtend_narrow (by decide) below
  · rw [signExtend, if_neg (fun both => absurd both.1 (by decide))]
    apply toInt64_ofNat
    split
    · rfl
    · omega

end Numbers

section Readers

variable {width : ℕ} {kind : MessageKind} {tag : UInt8} {message : Message} {piece rest : List UInt8}

theorem reads_unsigned (known : Width width) :
    Reads (readUnsigned width) fun message piece =>
      piece.length = width ∧ message = .unsigned (ofBigEndian piece) := by
  refine (reads_bigUnsigned known.bounds.1 known.bounds.2).map.congr fun message piece => ?_
  constructor
  · rintro ⟨_, ⟨length, rfl⟩, rfl⟩
    exact ⟨length, rfl⟩
  · rintro ⟨length, rfl⟩
    exact ⟨_, ⟨length, rfl⟩, rfl⟩

theorem reads_signed (known : Width width) :
    Reads (readSigned width) fun message piece =>
      piece.length = width ∧ message = .signed (twosComplement piece) := by
  refine (reads_bigUnsigned known.bounds.1 known.bounds.2).map.congr fun message piece => ?_
  constructor
  · rintro ⟨_, ⟨length, rfl⟩, rfl⟩
    exact ⟨length, by rw [signExtend_eq known length, Message.signed]⟩
  · rintro ⟨length, rfl⟩
    exact ⟨_, ⟨length, rfl⟩, by rw [signExtend_eq known length, Message.signed]⟩

theorem reads_container (known : Width width) :
    Reads (readContainer kind width) fun message piece =>
      piece.length = width ∧
        message = { kind := kind, value := UInt64.ofNat (ofBigEndian piece) } := by
  refine (reads_bigUnsigned known.bounds.1 known.bounds.2).map.congr fun message piece => ?_
  constructor
  · rintro ⟨_, ⟨length, rfl⟩, rfl⟩
    exact ⟨length, rfl⟩
  · rintro ⟨length, rfl⟩
    exact ⟨_, ⟨length, rfl⟩, rfl⟩

theorem reads_ignore (count : ℕ) :
    Reads (ignore count) fun message piece => piece.length = count ∧ message = {} := by
  refine (reads_take count).map.congr fun message piece => ?_
  constructor
  · rintro ⟨_, ⟨rfl, length⟩, rfl⟩
    exact ⟨length, rfl⟩
  · rintro ⟨length, rfl⟩
    exact ⟨_, ⟨rfl, length⟩, rfl⟩

theorem reads_takeString (length : UInt64) :
    Reads (takeString length) fun message piece =>
      piece.length = length.toNat ∧ message = .text piece := by
  refine (reads_take length.toNat).map.congr fun message piece => ?_
  constructor
  · rintro ⟨_, ⟨rfl, length⟩, rfl⟩
    exact ⟨length, rfl⟩
  · rintro ⟨length, rfl⟩
    exact ⟨_, ⟨rfl, length⟩, rfl⟩

theorem reads_string (known : Width width) :
    Reads (readString width) fun message piece => ∃ count string : List UInt8,
      count.length = width ∧ string.length = ofBigEndian count ∧ message = .text string ∧
        piece = count ++ string := by
  refine ((reads_bigUnsigned known.bounds.1 known.bounds.2).bind
    fun length => reads_takeString length).congr fun message piece => ?_
  constructor
  · rintro ⟨_, count, string, ⟨counted, rfl⟩, ⟨length, rfl⟩, rfl⟩
    rw [toNat_ofNat_of_lt (ofBigEndian_lt_word (counted.trans_le known.bounds.2))] at length
    exact ⟨count, string, counted, length, rfl, rfl⟩
  · rintro ⟨count, string, counted, length, rfl, rfl⟩
    refine ⟨_, count, string, ⟨counted, rfl⟩, ⟨?_, rfl⟩, rfl⟩
    rw [toNat_ofNat_of_lt (ofBigEndian_lt_word (counted.trans_le known.bounds.2)), length]

theorem reads_blob (known : Width width) (extra : ℕ) :
    Reads (readBlob width extra) fun message piece => ∃ count bytes : List UInt8,
      count.length = width ∧ bytes.length = extra + ofBigEndian count ∧ message = {} ∧
        piece = count ++ bytes := by
  refine ((reads_bigUnsigned known.bounds.1 known.bounds.2).bind
    fun length => reads_ignore (extra + length.toNat)).congr fun message piece => ?_
  constructor
  · rintro ⟨_, count, bytes, ⟨counted, rfl⟩, ⟨length, rfl⟩, rfl⟩
    rw [toNat_ofNat_of_lt (ofBigEndian_lt_word (counted.trans_le known.bounds.2))] at length
    exact ⟨count, bytes, counted, length, rfl, rfl⟩
  · rintro ⟨count, bytes, counted, length, rfl, rfl⟩
    refine ⟨_, count, bytes, ⟨counted, rfl⟩, ⟨?_, rfl⟩, rfl⟩
    rw [toNat_ofNat_of_lt (ofBigEndian_lt_word (counted.trans_le known.bounds.2)), length]

theorem run_readMessage (tag : UInt8) (input : List UInt8) :
    readMessage.run (tag :: input) = (readTagged tag.toNat).run input := rfl

theorem run_of_reads {parser : ByteCursor Message} {language : Message → List UInt8 → Prop}
    (reads : Reads parser language) (known : language message piece) (rest : List UInt8) :
    parser.run (piece ++ rest) = some (message, rest) :=
  (reads _ _ _).mpr ⟨piece, known, rfl⟩

theorem negative_value (range : 0xe0 ≤ tag.toNat) :
    (UInt8.ofNat tag.toNat).toInt8.toInt64 = Int64.ofInt (tag.toNat - 256) := by
  have below := tag.toNat_lt
  generalize tag.toNat = number at range below
  interval_cases number <;> decide

theorem low_four (base : ℕ) (aligned : base % 16 = 0)
    (range : base ≤ tag.toNat ∧ tag.toNat < base + 16) : tag.toNat &&& 0x0f = tag.toNat - base := by
  have bits : tag.toNat &&& 0x0f = tag.toNat % 16 := Nat.and_two_pow_sub_one_eq_mod _ 4
  omega

theorem low_five (range : 0xa0 ≤ tag.toNat ∧ tag.toNat < 0xc0) :
    tag.toNat &&& 0x1f = tag.toNat - 0xa0 := by
  have bits : tag.toNat &&& 0x1f = tag.toNat % 32 := Nat.and_two_pow_sub_one_eq_mod _ 5
  omega

/-- Every form is read. -/
theorem readMessage_complete (form : Form message piece) (rest : List UInt8) :
    readMessage.run (piece ++ rest) = some (message, rest) := by
  cases form with
  | positiveFixint range =>
    rw [List.cons_append, run_readMessage, readTagged, if_pos (by omega)]
    rfl
  | @negativeFixint tag range =>
    rw [List.cons_append, run_readMessage, readTagged, if_neg (by omega), if_pos range,
      negative_value range]
    rfl
  | @fixmap tag range =>
    rw [List.cons_append, run_readMessage, readTagged, if_neg (by omega), if_neg (by omega),
      if_pos (by omega), low_four 0x80 rfl range]
    rfl
  | @fixarray tag range =>
    rw [List.cons_append, run_readMessage, readTagged, if_neg (by omega), if_neg (by omega),
      if_neg (by omega), if_pos (by omega), low_four 0x90 rfl range]
    rfl
  | @fixstr tag range string length =>
    have bound : tag.toNat - 0xa0 < 2 ^ 64 := by omega
    rw [List.cons_append, run_readMessage, readTagged, if_neg (by omega), if_neg (by omega),
      if_neg (by omega), if_neg (by omega), if_pos (by omega), low_five range]
    exact run_of_reads (reads_takeString _) ⟨by rw [length, toNat_ofNat_of_lt bound], rfl⟩ rest
  | nil =>
    have branch : readTagged (0xc0 : UInt8).toNat = pure {} := by simp [readTagged]
    rw [List.cons_append, run_readMessage, branch]
    rfl
  | boolean value =>
    have branch : readTagged (if value then 0xc3 else 0xc2 : UInt8).toNat =
        pure (.unsigned value.toNat) := by
      cases value <;> simp [readTagged, Message.unsigned]
    rw [List.cons_append, run_readMessage, branch]
    rfl
  | @bin tag width row count bytes counted length =>
    have branch : Width width ∧ readTagged tag.toNat = readBlob width 0 := by
      simp only [List.mem_cons, Prod.mk.injEq, List.not_mem_nil, or_false] at row
      rcases row with ⟨rfl, rfl⟩ | ⟨rfl, rfl⟩ | ⟨rfl, rfl⟩ <;> simp [readTagged, Width]
    rw [List.cons_append, run_readMessage, branch.2]
    exact run_of_reads (reads_blob branch.1 0)
      ⟨count, bytes, counted, by rw [length, Nat.zero_add], rfl, rfl⟩ rest
  | @ext tag width row count bytes counted type length =>
    have branch : Width width ∧ readTagged tag.toNat = readBlob width 1 := by
      simp only [List.mem_cons, Prod.mk.injEq, List.not_mem_nil, or_false] at row
      rcases row with ⟨rfl, rfl⟩ | ⟨rfl, rfl⟩ | ⟨rfl, rfl⟩ <;> simp [readTagged, Width]
    rw [List.cons_append, run_readMessage, branch.2]
    exact run_of_reads (reads_blob branch.1 1)
      ⟨count, type :: bytes, counted, by rw [List.length_cons, length, Nat.add_comm], rfl, rfl⟩ rest
  | @float tag width row bytes length =>
    have branch : readTagged tag.toNat = ignore width := by
      simp only [List.mem_cons, Prod.mk.injEq, List.not_mem_nil, or_false] at row
      rcases row with ⟨rfl, rfl⟩ | ⟨rfl, rfl⟩ <;> simp [readTagged]
    rw [List.cons_append, run_readMessage, branch]
    exact run_of_reads (reads_ignore width) ⟨length, rfl⟩ rest
  | @uint tag width row bytes length =>
    have branch : Width width ∧ readTagged tag.toNat = readUnsigned width := by
      simp only [List.mem_cons, Prod.mk.injEq, List.not_mem_nil, or_false] at row
      rcases row with ⟨rfl, rfl⟩ | ⟨rfl, rfl⟩ | ⟨rfl, rfl⟩ | ⟨rfl, rfl⟩ <;> simp [readTagged, Width]
    rw [List.cons_append, run_readMessage, branch.2]
    exact run_of_reads (reads_unsigned branch.1) ⟨length, rfl⟩ rest
  | @int tag width row bytes length =>
    have branch : Width width ∧ readTagged tag.toNat = readSigned width := by
      simp only [List.mem_cons, Prod.mk.injEq, List.not_mem_nil, or_false] at row
      rcases row with ⟨rfl, rfl⟩ | ⟨rfl, rfl⟩ | ⟨rfl, rfl⟩ | ⟨rfl, rfl⟩ <;> simp [readTagged, Width]
    rw [List.cons_append, run_readMessage, branch.2]
    exact run_of_reads (reads_signed branch.1) ⟨length, rfl⟩ rest
  | @fixext tag width row type bytes length =>
    have branch : readTagged tag.toNat = ignore (width + 1) := by
      simp only [List.mem_cons, Prod.mk.injEq, List.not_mem_nil, or_false] at row
      rcases row with ⟨rfl, rfl⟩ | ⟨rfl, rfl⟩ | ⟨rfl, rfl⟩ | ⟨rfl, rfl⟩ | ⟨rfl, rfl⟩ <;>
        simp [readTagged]
    rw [List.cons_append, run_readMessage, branch]
    exact run_of_reads (reads_ignore (width + 1)) ⟨by rw [List.length_cons, length], rfl⟩ rest
  | @str tag width row count string counted length =>
    have branch : Width width ∧ readTagged tag.toNat = readString width := by
      simp only [List.mem_cons, Prod.mk.injEq, List.not_mem_nil, or_false] at row
      rcases row with ⟨rfl, rfl⟩ | ⟨rfl, rfl⟩ | ⟨rfl, rfl⟩ <;> simp [readTagged, Width]
    rw [List.cons_append, run_readMessage, branch.2]
    exact run_of_reads (reads_string branch.1) ⟨count, string, counted, length, rfl, rfl⟩ rest
  | @array tag width row count counted =>
    have branch : Width width ∧ readTagged tag.toNat = readContainer .Array width := by
      simp only [List.mem_cons, Prod.mk.injEq, List.not_mem_nil, or_false] at row
      rcases row with ⟨rfl, rfl⟩ | ⟨rfl, rfl⟩ <;> simp [readTagged, Width]
    rw [List.cons_append, run_readMessage, branch.2]
    exact run_of_reads (reads_container branch.1) ⟨counted, rfl⟩ rest
  | @map tag width row count counted =>
    have branch : Width width ∧ readTagged tag.toNat = readContainer .Map width := by
      simp only [List.mem_cons, Prod.mk.injEq, List.not_mem_nil, or_false] at row
      rcases row with ⟨rfl, rfl⟩ | ⟨rfl, rfl⟩ <;> simp [readTagged, Width]
    rw [List.cons_append, run_readMessage, branch.2]
    exact run_of_reads (reads_container branch.1) ⟨counted, rfl⟩ rest

/-- The tags of a range and their widths are rows of a table. -/
theorem row_of_range (base count : ℕ) (range : base ≤ tag.toNat ∧ tag.toNat < base + count) :
    (tag, 1 <<< (tag.toNat - base)) ∈
      (List.range count).map fun place => (UInt8.ofNat (base + place), 1 <<< place) := by
  refine List.mem_map.mpr ⟨tag.toNat - base, List.mem_range.mpr (by omega), ?_⟩
  rw [Nat.add_sub_cancel' range.1, UInt8.ofNat_toNat]

theorem width_of_place {place : ℕ} (few : place < 4) : Width (1 <<< place) := by
  have known : place = 0 ∨ place = 1 ∨ place = 2 ∨ place = 3 := by omega
  rcases known with rfl | rfl | rfl | rfl <;> simp [Width]

/-- What is read behind a tag has a form. -/
theorem readTagged_sound {input : List UInt8}
    (found : (readTagged tag.toNat).run input = some (message, rest)) :
    ∃ piece, Form message (tag :: piece) ∧ input = piece ++ rest := by
  have below := tag.toNat_lt
  have known (value : UInt8) (same : tag.toNat = value.toNat) : tag = value :=
    UInt8.toNat_inj.mp same
  unfold readTagged at found
  by_cases positive : tag.toNat ≤ 0x7f
  · rw [if_pos positive] at found
    cases found
    exact ⟨[], .positiveFixint (by omega), rfl⟩
  rw [if_neg positive] at found
  by_cases negative : tag.toNat ≥ 0xe0
  · rw [if_pos negative] at found
    cases found
    refine ⟨[], ?_, rfl⟩
    rw [negative_value negative]
    exact .negativeFixint negative
  rw [if_neg negative] at found
  by_cases fixmap : tag.toNat ≥ 0x80 ∧ tag.toNat ≤ 0x8f
  · rw [if_pos fixmap] at found
    cases found
    refine ⟨[], ?_, rfl⟩
    rw [low_four 0x80 rfl (by omega)]
    exact .fixmap (by omega)
  rw [if_neg fixmap] at found
  by_cases fixarray : tag.toNat ≥ 0x90 ∧ tag.toNat ≤ 0x9f
  · rw [if_pos fixarray] at found
    cases found
    refine ⟨[], ?_, rfl⟩
    rw [low_four 0x90 rfl (by omega)]
    exact .fixarray (by omega)
  rw [if_neg fixarray] at found
  by_cases fixstr : tag.toNat ≥ 0xa0 ∧ tag.toNat ≤ 0xbf
  · rw [if_pos fixstr, low_five (by omega)] at found
    obtain ⟨string, ⟨length, rfl⟩, rfl⟩ := (reads_takeString _ _ _ _).mp found
    have bound : tag.toNat - 0xa0 < 2 ^ 64 := by omega
    rw [toNat_ofNat_of_lt bound] at length
    exact ⟨string, .fixstr (by omega) length, rfl⟩
  rw [if_neg fixstr] at found
  by_cases nil : tag.toNat = 0xc0
  · rw [if_pos nil] at found
    obtain rfl := known 0xc0 nil
    cases found
    exact ⟨[], .nil, rfl⟩
  rw [if_neg nil] at found
  by_cases boolean : tag.toNat = 0xc2 ∨ tag.toNat = 0xc3
  · rw [if_pos boolean] at found
    rcases boolean with same | same
    · obtain rfl := known 0xc2 same
      cases found
      exact ⟨[], .boolean false, rfl⟩
    · obtain rfl := known 0xc3 same
      cases found
      exact ⟨[], .boolean true, rfl⟩
  rw [if_neg boolean] at found
  by_cases uint : tag.toNat ≥ 0xcc ∧ tag.toNat ≤ 0xcf
  · rw [if_pos uint] at found
    obtain ⟨piece, ⟨length, rfl⟩, rfl⟩ :=
      (reads_unsigned (width_of_place (by omega)) _ _ _).mp found
    exact ⟨piece, .uint (row_of_range 0xcc 4 (by omega)) length, rfl⟩
  rw [if_neg uint] at found
  by_cases int : tag.toNat ≥ 0xd0 ∧ tag.toNat ≤ 0xd3
  · rw [if_pos int] at found
    obtain ⟨piece, ⟨length, rfl⟩, rfl⟩ :=
      (reads_signed (width_of_place (by omega)) _ _ _).mp found
    exact ⟨piece, .int (row_of_range 0xd0 4 (by omega)) length, rfl⟩
  rw [if_neg int] at found
  by_cases str : tag.toNat ≥ 0xd9 ∧ tag.toNat ≤ 0xdb
  · rw [if_pos str] at found
    obtain ⟨_, ⟨count, string, counted, length, rfl, rfl⟩, rfl⟩ :=
      (reads_string (width_of_place (by omega)) _ _ _).mp found
    exact ⟨_, .str (row_of_range 0xd9 3 (by omega)) counted length, rfl⟩
  rw [if_neg str] at found
  by_cases array : tag.toNat = 0xdc ∨ tag.toNat = 0xdd
  · rw [if_pos array] at found
    rcases array with same | same
    · obtain rfl := known 0xdc same
      obtain ⟨piece, ⟨length, rfl⟩, rfl⟩ := (reads_container (Or.inr (Or.inl rfl)) _ _ _).mp found
      exact ⟨piece, .array (by decide) length, rfl⟩
    · obtain rfl := known 0xdd same
      obtain ⟨piece, ⟨length, rfl⟩, rfl⟩ :=
        (reads_container (Or.inr (Or.inr (Or.inl rfl))) _ _ _).mp found
      exact ⟨piece, .array (by decide) length, rfl⟩
  rw [if_neg array] at found
  by_cases map : tag.toNat = 0xde ∨ tag.toNat = 0xdf
  · rw [if_pos map] at found
    rcases map with same | same
    · obtain rfl := known 0xde same
      obtain ⟨piece, ⟨length, rfl⟩, rfl⟩ := (reads_container (Or.inr (Or.inl rfl)) _ _ _).mp found
      exact ⟨piece, .map (by decide) length, rfl⟩
    · obtain rfl := known 0xdf same
      obtain ⟨piece, ⟨length, rfl⟩, rfl⟩ :=
        (reads_container (Or.inr (Or.inr (Or.inl rfl))) _ _ _).mp found
      exact ⟨piece, .map (by decide) length, rfl⟩
  rw [if_neg map] at found
  by_cases bin : tag.toNat ≥ 0xc4 ∧ tag.toNat ≤ 0xc6
  · rw [if_pos bin] at found
    obtain ⟨_, ⟨count, bytes, counted, length, rfl, rfl⟩, rfl⟩ :=
      (reads_blob (width_of_place (by omega)) 0 _ _ _).mp found
    rw [Nat.zero_add] at length
    exact ⟨_, .bin (row_of_range 0xc4 3 (by omega)) counted length, rfl⟩
  rw [if_neg bin] at found
  by_cases float : tag.toNat = 0xca ∨ tag.toNat = 0xcb
  · rw [if_pos float] at found
    obtain ⟨bytes, ⟨length, rfl⟩, rfl⟩ := (reads_ignore _ _ _ _).mp found
    rcases float with same | same
    · obtain rfl := known 0xca same
      exact ⟨bytes, .float (by decide) length, rfl⟩
    · obtain rfl := known 0xcb same
      exact ⟨bytes, .float (by decide) length, rfl⟩
  rw [if_neg float] at found
  by_cases fixext : tag.toNat ≥ 0xd4 ∧ tag.toNat ≤ 0xd8
  · rw [if_pos fixext] at found
    obtain ⟨bytes, ⟨length, rfl⟩, rfl⟩ := (reads_ignore _ _ _ _).mp found
    cases bytes with
    | nil => cases length
    | cons type bytes =>
      exact ⟨_, .fixext (row_of_range 0xd4 5 (by omega)) type (Nat.succ.inj length), rfl⟩
  rw [if_neg fixext] at found
  by_cases ext : tag.toNat ≥ 0xc7 ∧ tag.toNat ≤ 0xc9
  · rw [if_pos ext] at found
    obtain ⟨_, ⟨count, bytes, counted, length, rfl, rfl⟩, rfl⟩ :=
      (reads_blob (width_of_place (by omega)) 1 _ _ _).mp found
    cases bytes with
    | nil =>
      rw [List.length_nil] at length
      omega
    | cons type bytes =>
      rw [List.length_cons, Nat.add_comm] at length
      exact ⟨_, .ext (row_of_range 0xc7 3 (by omega)) counted type (Nat.add_left_cancel length), rfl⟩
  rw [if_neg ext] at found
  cases found

/-- The reader of a message reads the forms. -/
theorem reads_readMessage : Reads readMessage Form := by
  intro input message rest
  constructor
  · intro found
    cases input with
    | nil => cases found
    | cons tag input =>
      obtain ⟨piece, form, rfl⟩ := readTagged_sound found
      exact ⟨tag :: piece, form, rfl⟩
  · rintro ⟨piece, form, rfl⟩
    exact readMessage_complete form rest

end Readers

section Items

variable {message : Message} {piece head : List UInt8} {levels : ℕ}

/-- A whole message: one of the forms, and behind it the messages that belong to it. -/
inductive Item : List UInt8 → Prop
  | node {message : Message} {head : List UInt8} (form : Form message head)
      (parts : List (List UInt8)) (each : ∀ part ∈ parts, Item part)
      (arity : parts.length = message.arity) : Item (head ++ parts.flatten)

/-- What is skipped behind a form: no container has too many elements, and every element can be
skipped. -/
def Elements (skippable : List UInt8 → Prop) (message : Message) (piece : List UInt8) : Prop :=
  (message.kind = .Array ∨ message.kind = .Map → message.value ≤ MaximumContainerElements) ∧
    ∃ parts : List (List UInt8), parts.length = message.arity ∧ (∀ part ∈ parts, skippable part) ∧
      piece = parts.flatten

/-- A message within the limits, so many levels above the greatest depth. -/
def Skippable : ℕ → List UInt8 → Prop
  | 0, _ => False
  | levels + 1, piece => ∃ message head body, Form message head ∧
      Elements (Skippable levels) message body ∧ piece = head ++ body

/-- What can be skipped is a message. -/
theorem Skippable.item (skippable : Skippable levels piece) : Item piece := by
  induction levels generalizing piece with
  | zero => exact skippable.elim
  | succ levels ih =>
    obtain ⟨message, head, _, form, ⟨-, parts, arity, each, rfl⟩, rfl⟩ := skippable
    exact .node form parts (fun part member => ih (each part member)) arity

theorem forall₂_unit {language : List UInt8 → Prop} {units : List Unit}
    {parts : List (List UInt8)} :
    List.Forall₂ (fun _ part => language part) units parts ↔
      parts.length = units.length ∧ ∀ part ∈ parts, language part := by
  induction units generalizing parts with
  | nil =>
    rw [List.forall₂_nil_left_iff, List.length_nil, List.length_eq_zero_iff]
    constructor
    · rintro rfl
      exact ⟨rfl, fun part none => absurd none List.not_mem_nil⟩
    · exact And.left
  | cons one units ih =>
    cases parts with
    | nil => simp
    | cons part parts =>
      rw [List.forall₂_cons, ih, List.forall_mem_cons, List.length_cons, List.length_cons,
        Nat.succ_inj]
      exact and_left_comm

/-- A counted loop of skips reads as many parts. -/
theorem reads_skips {skip : ByteCursor Unit} {language : List UInt8 → Prop}
    (reads : Reads skip fun _ part => language part) (count : ℕ) :
    Reads (foldTimes (fun _ _ => ()) skip count ()) fun _ piece =>
      ∃ parts : List (List UInt8), parts.length = count ∧ (∀ part ∈ parts, language part) ∧
        piece = parts.flatten := by
  refine (reads.foldTimes count ()).congr fun _ piece => ?_
  constructor
  · rintro ⟨units, length, ⟨parts, each, rfl⟩, -⟩
    obtain ⟨same, every⟩ := forall₂_unit.mp each
    exact ⟨parts, same.trans length, every, rfl⟩
  · rintro ⟨parts, length, every, rfl⟩
    refine ⟨List.replicate count (), List.length_replicate, ⟨parts, ?_, rfl⟩, rfl⟩
    exact forall₂_unit.mpr ⟨length.trans List.length_replicate.symm, every⟩

theorem elements_of_arity_zero {language : List UInt8 → Prop} (none : message.arity = 0)
    (plain : ¬ (message.kind = .Array ∨ message.kind = .Map)) :
    Elements language message piece ↔ piece = [] := by
  constructor
  · rintro ⟨-, parts, length, -, rfl⟩
    rw [none, List.length_eq_zero_iff] at length
    rw [length, List.flatten_nil]
  · rintro rfl
    exact ⟨fun container => absurd container plain, [], none.symm,
      fun part member => absurd member List.not_mem_nil, rfl⟩

theorem reads_skipMessageBody {skip : ByteCursor Unit} {language : List UInt8 → Prop}
    (reads : Reads skip fun _ part => language part) (message : Message) :
    Reads (skipMessageBody skip message) fun _ piece => Elements language message piece := by
  have plain (other : ¬ (message.kind = .Array ∨ message.kind = .Map)) :
      Reads (pure () : ByteCursor Unit) fun _ piece => Elements language message piece := by
    have none : message.arity = 0 := by
      rw [not_or] at other
      rw [Message.arity]
      split
      · exact absurd ‹_› other.1
      · exact absurd ‹_› other.2
      · rfl
    refine Reads.pure.congr fun _ piece => ?_
    rw [elements_of_arity_zero none other]
    exact and_iff_right rfl
  unfold skipMessageBody
  by_cases many : message.value > MaximumContainerElements
  · rw [if_pos many]
    by_cases container : message.kind = .Array ∨ message.kind = .Map
    · rw [if_pos container]
      refine Reads.failure.congr fun _ piece => ?_
      exact iff_of_false id fun elements => absurd (elements.1 container) (UInt64.not_le.mpr many)
    · rw [if_neg container]
      exact plain container
  rw [if_neg many]
  have few := UInt64.not_lt.mp many
  by_cases array : message.kind = .Array
  · rw [if_pos array]
    have arity : message.arity = message.value.toNat := by rw [Message.arity, array]
    refine (reads_skips reads message.value.toNat).congr fun _ piece => ?_
    rw [Elements, arity]
    exact (and_iff_right fun _ => few).symm
  rw [if_neg array]
  by_cases map : message.kind = .Map
  · rw [if_pos map]
    have arity : message.arity = 2 * message.value.toNat := by rw [Message.arity, map]
    refine (reads_skips reads (2 * message.value.toNat)).congr fun _ piece => ?_
    rw [Elements, arity]
    exact (and_iff_right fun _ => few).symm
  rw [if_neg map]
  exact plain (not_or.mpr ⟨array, map⟩)

/-- The skipping of a message reads what is within the limits. -/
theorem reads_skipMessage (levels : ℕ) :
    Reads (skipMessage levels) fun _ piece => Skippable levels piece := by
  induction levels with
  | zero => exact Reads.failure
  | succ levels ih =>
    refine (reads_readMessage.bind fun message => reads_skipMessageBody ih message).congr ?_
    intro _ piece
    exact Iff.rfl

end Items

end GemSim.CodeObject
