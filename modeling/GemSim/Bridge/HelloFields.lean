import GemSim.Bridge.FrameFields
import GemSim.Bridge.Hello
import GemSim.Lib.Tiling

/-!
# The fields of variable length

Behind its fixed part a HELLO is a row of fields, and each says its own type, flags and length. The
walk of the decoder accepts exactly the rows that fill the rest of the record, that are padded with
zeros, and in which no type stands twice. What it takes from a row is what the fields say, one
after the other.

## Main definitions

* `Tlv.bytes`, `Field` — a field in the record, and the fields that the decoder takes
* `Hello.noteField` — what a field says

## Main results

* `readTlv_eq_ok_iff` — one field
* `walkTlvs_iff` — the row
-/

namespace GemSim.Bridge

open GemSim.Lib

section Pieces

variable {record front bytes back : List UInt8} {offset place count : ℕ}

theorem bytesAt_drop (record : List UInt8) (offset place count : ℕ) :
    bytesAt (record.drop offset) place count = bytesAt record (offset + place) count := by
  rw [bytesAt, bytesAt, List.drop_drop]

theorem bytesAt_append_left (inside : place + count ≤ front.length) :
    bytesAt (front ++ back) place count = bytesAt front place count := by
  rw [bytesAt, bytesAt, List.drop_append_of_le_length (by omega), List.take_append_of_le_length]
  rw [List.length_drop]
  omega

/-- The field behind what stands in front of it. -/
theorem bytesAt_append_right (front back : List UInt8) (place count : ℕ) :
    bytesAt (front ++ back) (front.length + place) count = bytesAt back place count := by
  rw [bytesAt, bytesAt, List.drop_append, Nat.add_sub_cancel_left,
    List.drop_of_length_le (Nat.le_add_right _ _), List.nil_append]

theorem drop_eq_bytesAt_append (record : List UInt8) (offset count : ℕ) :
    record.drop offset = bytesAt record offset count ++ record.drop (offset + count) := by
  rw [bytesAt, ← List.drop_drop, List.take_append_drop]

end Pieces

section Topologies

variable {value data : List UInt8} {topology : Topology}

/-- A topology in the bytes of a field. -/
structure HoldsTopology (topology : Topology) (value : List UInt8) : Prop where
  length : value.length = TopologyValueBytes
  jobUuid : bytesAt value 0 16 = topology.jobUuid.toList
  rank : bytesAt value 16 4 = bigEndian 4 topology.rank.toNat
  worldSize : bytesAt value 20 4 = bigEndian 4 topology.worldSize.toNat

/-- The bytes of a topology. -/
def Topology.encoded (topology : Topology) : List UInt8 :=
  let encoded := storeAt (List.replicate TopologyValueBytes 0) 0 topology.jobUuid.toList
  let encoded := store32 encoded 16 topology.rank
  store32 encoded 20 topology.worldSize

theorem holdsTopology_encoded (topology : Topology) : HoldsTopology topology topology.encoded := by
  refine ⟨?_, ?_, ?_, ?_⟩
  case refine_1 =>
    simp only [Topology.encoded, length_storeAt, length_store32, List.length_replicate]
  all_goals
    simp (disch := first | omega | simp only [length_storeAt, List.length_replicate,
      length_bigEndian, Vector.length_toList, TopologyValueBytes, or_true, true_or, Nat.reduceAdd,
      Nat.reduceLeDiff, zero_add]) only
      [Topology.encoded, store32, bytesAt_storeAt_of_apart, bytesAt_storeAt_self]

theorem HoldsTopology.load (holds : HoldsTopology topology value) :
    loadTopology value 0 = topology := by
  have long : 0 + 16 ≤ value.length := by
    rw [holds.length]
    decide
  have uuid := @loadBytes_of_bytesAt _ 0 16 topology.jobUuid long holds.jobUuid
  rw [loadTopology, load32_of_bytesAt holds.rank, load32_of_bytesAt holds.worldSize]
  exact congrArg (fun uuid => { topology with jobUuid := uuid }) uuid

theorem holdsTopology_load (length : value.length = TopologyValueBytes) :
    HoldsTopology (loadTopology value 0) value := by
  rw [TopologyValueBytes] at length
  refine ⟨length, ?_, bytesAt_of_load32 (by omega), bytesAt_of_load32 (by omega)⟩
  exact (@toList_loadBytes value 0 16 (by omega)).symm

theorem HoldsTopology.unique {other : List UInt8} (holds : HoldsTopology topology value)
    (others : HoldsTopology topology other) : value = other := by
  have fields := bytesAt_eq_append (bytesAt_eq_append (holds.jobUuid.trans others.jobUuid.symm)
    (holds.rank.trans others.rank.symm)) (holds.worldSize.trans others.worldSize.symm)
  exact eq_of_bytesAt holds.length others.length fields

/-- A topology is read from the bytes of its field. -/
theorem loadTopology_of_bytesAt {offset : ℕ} (length : value.length = TopologyValueBytes)
    (field : bytesAt data offset TopologyValueBytes = value) :
    loadTopology data offset = loadTopology value 0 := by
  have part (place count : ℕ) (inside : place + count ≤ 24) :
      bytesAt value place count = bytesAt data (offset + place) count := by
    rw [← field, bytesAt, bytesAt, bytesAt, List.drop_take, List.drop_drop, List.take_take,
      min_eq_left (by rw [TopologyValueBytes]; omega)]
  have long : offset + 24 ≤ data.length := by
    have sized := congrArg List.length field
    rw [length, bytesAt, List.length_take, List.length_drop, TopologyValueBytes] at sized
    omega
  have holds := holdsTopology_load length
  have uuid := @loadBytes_of_bytesAt data offset 16 (loadTopology value 0).jobUuid (by omega)
    ((part 0 16 (by omega)).symm.trans holds.jobUuid)
  have rank := load32_of_bytesAt ((part 16 4 (by omega)).symm.trans holds.rank)
  have world := load32_of_bytesAt ((part 20 4 (by omega)).symm.trans holds.worldSize)
  rw [loadTopology, rank, world]
  exact congrArg (fun uuid => { loadTopology value 0 with jobUuid := uuid }) uuid

end Topologies

section Fields

variable {data rest : List UInt8} {offset : ℕ} {tlv : Tlv}

/-- How long a field is with its padding. -/
def Tlv.extent (tlv : Tlv) : ℕ := 8 + roundUp tlv.value.length 8

/-- The bytes of a field, with its padding. -/
def Tlv.bytes (tlv : Tlv) : List UInt8 :=
  bigEndian 2 tlv.type.toNat ++ (bigEndian 2 tlv.flags.toNat ++
    (bigEndian 4 (UInt32.ofNat tlv.value.length).toNat ++ (tlv.value ++
      List.replicate (roundUp tlv.value.length 8 - tlv.value.length) 0)))

theorem length_tlvBytes (tlv : Tlv) : tlv.bytes.length = tlv.extent := by
  have long : tlv.value.length ≤ roundUp tlv.value.length 8 := le_roundUp (by decide)
  simp only [Tlv.bytes, Tlv.extent, List.length_append, length_bigEndian, List.length_replicate]
  omega

/-- A field that stands at an offset. -/
structure TlvAt (data : List UInt8) (offset : ℕ) (tlv : Tlv) : Prop where
  inside : offset + tlv.extent ≤ data.length
  type : bytesAt data offset 2 = bigEndian 2 tlv.type.toNat
  flags : bytesAt data (offset + 2) 2 = bigEndian 2 tlv.flags.toNat
  size : bytesAt data (offset + 4) 4 = bigEndian 4 (UInt32.ofNat tlv.value.length).toNat
  value : bytesAt data (offset + 8) tlv.value.length = tlv.value
  padding : bytesAt data (offset + 8 + tlv.value.length)
    (roundUp tlv.value.length 8 - tlv.value.length) =
      List.replicate (roundUp tlv.value.length 8 - tlv.value.length) 0

/-- A piece of known length behind what stands in front of it. -/
theorem bytesAt_of_split {record front bytes back : List UInt8} {place count : ℕ}
    (split : record = front ++ (bytes ++ back)) (start : front.length = place)
    (length : bytes.length = count) : bytesAt record place count = bytes := by
  rw [split, ← start, ← length, bytesAt, List.drop_left, List.take_left]

theorem tlvAt_iff : TlvAt data offset tlv ↔ ∃ rest, data.drop offset = tlv.bytes ++ rest := by
  have long : tlv.value.length ≤ roundUp tlv.value.length 8 := le_roundUp (by decide)
  constructor
  · intro field
    refine ⟨data.drop (offset + 8 + tlv.value.length +
      (roundUp tlv.value.length 8 - tlv.value.length)), ?_⟩
    rw [drop_eq_bytesAt_append data offset 2, field.type,
      drop_eq_bytesAt_append data (offset + 2) 2, field.flags,
      drop_eq_bytesAt_append data (offset + 4) 4, field.size,
      drop_eq_bytesAt_append data (offset + 8) tlv.value.length, field.value,
      drop_eq_bytesAt_append data (offset + 8 + tlv.value.length)
        (roundUp tlv.value.length 8 - tlv.value.length), field.padding]
    simp only [Tlv.bytes, List.append_assoc]
  · rintro ⟨rest, split⟩
    have more := congrArg List.length split
    rw [List.length_drop, List.length_append, length_tlvBytes] at more
    have some : 0 < tlv.extent := Nat.add_pos_left (by decide) _
    have part (front bytes back : List UInt8) (place count : ℕ)
        (apart : tlv.bytes ++ rest = front ++ (bytes ++ back)) (start : front.length = place)
        (length : bytes.length = count) : bytesAt data (offset + place) count = bytes := by
      rw [← bytesAt_drop]
      exact bytesAt_of_split (split.trans apart) start length
    let type := bigEndian 2 tlv.type.toNat
    let flags := bigEndian 2 tlv.flags.toNat
    let size := bigEndian 4 (UInt32.ofNat tlv.value.length).toNat
    let padding := List.replicate (roundUp tlv.value.length 8 - tlv.value.length) (0 : UInt8)
    have pieces : tlv.bytes ++ rest =
        type ++ (flags ++ (size ++ (tlv.value ++ (padding ++ rest)))) := by
      simp only [Tlv.bytes, List.append_assoc, type, flags, size, padding]
    refine ⟨by omega, ?_, ?_, ?_, ?_, ?_⟩
    · exact part [] type _ 0 2 pieces rfl (length_bigEndian _ _)
    · exact part type flags _ 2 2 pieces (length_bigEndian _ _) (length_bigEndian _ _)
    · refine part (type ++ flags) size (tlv.value ++ (padding ++ rest)) 4 4 ?_ ?_
        (length_bigEndian _ _)
      · rw [pieces, List.append_assoc]
      · rw [List.length_append, length_bigEndian, length_bigEndian]
    · refine part (type ++ flags ++ size) tlv.value (padding ++ rest) 8 _ ?_ ?_ rfl
      · rw [pieces, List.append_assoc, List.append_assoc]
      · rw [List.length_append, List.length_append, length_bigEndian, length_bigEndian,
          length_bigEndian]
    · rw [Nat.add_assoc]
      refine part (type ++ flags ++ size ++ tlv.value) padding rest _ _ ?_ ?_
        List.length_replicate
      · rw [pieces, List.append_assoc, List.append_assoc, List.append_assoc]
      · rw [List.length_append, List.length_append, List.length_append, length_bigEndian,
          length_bigEndian, length_bigEndian]

/-- A field whose flags and length the decoder takes. -/
structure Field extends Tlv where
  flagsKnown : flags &&& ~~~CriticalTlvFlag = 0
  sized : value.length < UInt32.size
  wellKnown : type = TopologyTlvType →
    flags = CriticalTlvFlag ∧ value.length = TopologyValueBytes

/-- Where the decoder finds a field. -/
def Tlv.span (tlv : Tlv) (offset : ℕ) : TlvSpan where
  type := tlv.type
  flags := tlv.flags
  valueOffset := offset + 8
  valueEnd := offset + 8 + tlv.value.length
  paddedEnd := offset + tlv.extent

theorem any_nonzero_eq_false_iff {bytes : List UInt8} {count : ℕ} (length : bytes.length = count) :
    (bytes.any fun byte => byte != 0) = false ↔ bytes = List.replicate count 0 := by
  rw [List.eq_replicate_iff, List.any_eq_false]
  constructor
  · intro zeros
    exact ⟨length, fun byte member => by simpa using zeros byte member⟩
  · rintro ⟨-, zeros⟩ byte member
    simpa using zeros byte member

/-- A field ends at a multiple of eight when it starts at one. -/
theorem roundUp_valueEnd (aligned : 8 ∣ offset) (tlv : Tlv) :
    roundUp (offset + 8 + tlv.value.length) 8 = offset + tlv.extent := by
  obtain ⟨count, rfl⟩ := aligned
  unfold Tlv.extent roundUp
  omega

/-- A field that is read stands there, and all of it inside the data. -/
theorem readTlv_eq_ok_iff {seen : List UInt16} {span : TlvSpan} (aligned : 8 ∣ offset)
    (addressable : data.length ≤ u64Max.toNat - 7) :
    readTlv data seen offset = .ok span ↔
      ∃ field : Field, field.type ∉ seen ∧ TlvAt data offset field.toTlv ∧
        span = field.span offset := by
  constructor
  · intro read
    unfold readTlv at read
    dsimp only at read
    split_ifs at read with header flags seen value overflow padded padding topology
    obtain rfl := Except.ok.inj read
    simp only [not_lt, not_not, ne_eq, gt_iff_lt] at header flags value padded
    rw [Bool.not_eq_true] at padding
    let tlv : Tlv :=
      { type := load16 data offset
        flags := load16 data (offset + 2)
        value := bytesAt data (offset + 8) (load32 data (offset + 4)).toNat }
    have size : tlv.value.length = (load32 data (offset + 4)).toNat :=
      length_bytesAt (by omega)
    have ends := roundUp_valueEnd aligned tlv
    rw [size] at ends
    have extent : tlv.extent = 8 + roundUp (load32 data (offset + 4)).toNat 8 := by
      rw [Tlv.extent, size]
    have long : (load32 data (offset + 4)).toNat ≤ roundUp (load32 data (offset + 4)).toNat 8 :=
      le_roundUp (by decide)
    have rest : roundUp (offset + 8 + (load32 data (offset + 4)).toNat) 8 -
        (offset + 8 + (load32 data (offset + 4)).toNat) =
          roundUp (load32 data (offset + 4)).toNat 8 - (load32 data (offset + 4)).toNat := by
      omega
    rw [rest, any_nonzero_eq_false_iff (length_bytesAt (by omega))] at padding
    have known : tlv.type = TopologyTlvType →
        tlv.flags = CriticalTlvFlag ∧ tlv.value.length = TopologyValueBytes := by
      intro same
      rw [size]
      have both := not_and.mp topology same
      rw [not_or, not_not, not_not] at both
      exact both
    have stands : TlvAt data offset tlv := by
      refine ⟨by omega, bytesAt_of_load16 (by omega), bytesAt_of_load16 (by omega), ?_, ?_, ?_⟩
      · rw [size, UInt32.ofNat_toNat]
        exact bytesAt_of_load32 (by omega)
      · rw [size]
      · rw [size]
        exact padding
    have span : tlv.span offset =
        { type := load16 data offset
          flags := load16 data (offset + 2)
          valueOffset := offset + 8
          valueEnd := offset + 8 + (load32 data (offset + 4)).toNat
          paddedEnd := roundUp (offset + 8 + (load32 data (offset + 4)).toNat) 8 } := by
      rw [Tlv.span, size, ← ends]
    exact ⟨⟨tlv, flags, by rw [size]; exact UInt32.toNat_lt _, known⟩, seen, stands, span.symm⟩
  · rintro ⟨field, fresh, stands, rfl⟩
    have inside := stands.inside
    have ends := roundUp_valueEnd aligned field.toTlv
    have long : field.value.length ≤ roundUp field.value.length 8 := le_roundUp (by decide)
    have extent : field.extent = 8 + roundUp field.value.length 8 := rfl
    have size : (load32 data (offset + 4)).toNat = field.value.length := by
      rw [load32_of_bytesAt stands.size, UInt32.toNat_ofNat_of_lt' field.sized]
    have padding := stands.padding
    have rest : roundUp field.value.length 8 - field.value.length =
        offset + field.extent - (offset + 8 + field.value.length) := by
      omega
    rw [rest, ← any_nonzero_eq_false_iff (length_bytesAt (by omega))] at padding
    unfold readTlv
    dsimp only
    rw [size, load16_of_bytesAt stands.type, load16_of_bytesAt stands.flags, ends, padding,
      if_neg (by omega), if_neg (not_not.mpr field.flagsKnown), if_neg fresh, if_neg (by omega),
      if_neg (by omega), if_neg (by omega), if_neg Bool.false_ne_true, if_neg]
    · rfl
    · rintro ⟨same, wrong⟩
      obtain ⟨critical, length⟩ := field.wellKnown same
      rw [critical, length] at wrong
      simp at wrong

end Fields

section Rows

variable {data rest : List UInt8} {offset : ℕ} {seen : List UInt16} {hello found : Hello}
  {fields : List Field}

def Field.bytes (field : Field) : List UInt8 := field.toTlv.bytes

/-- What a field says. -/
def Hello.noteField (hello : Hello) (field : Field) : Hello :=
  if field.type = TopologyTlvType then
    { hello with topology := loadTopology field.value 0, hasTopology := true }
  else if field.flags &&& CriticalTlvFlag ≠ 0 then { hello with unknownCriticalTlv := true }
  else { hello with optionalTlvs := hello.optionalTlvs ++ [field.toTlv] }

theorem noteTlv_eq {field : Field} (stands : TlvAt data offset field.toTlv) :
    noteTlv data hello (field.span offset) = hello.noteField field := by
  have value := stands.value
  rw [noteTlv, Hello.noteField]
  by_cases same : field.type = TopologyTlvType
  · have length := (field.wellKnown same).2
    rw [length] at value
    rw [if_pos (by exact same), if_pos same]
    exact congrArg (fun topology => { hello with topology := topology, hasTopology := true })
      (loadTopology_of_bytesAt length value)
  · rw [if_neg (by exact same), if_neg same]
    by_cases critical : field.flags &&& CriticalTlvFlag ≠ 0
    · rw [if_pos (by exact critical), if_pos critical]
    · rw [if_neg (by exact critical), if_neg critical]
      dsimp only [Tlv.span]
      rw [Nat.add_sub_cancel_left, value]

/-- Two fields that start the same data are the same. -/
theorem delimited_fields : Delimited Field.bytes := by
  constructor
  · intro field empty
    have length := congrArg List.length empty
    rw [Field.bytes, length_tlvBytes, Tlv.extent, List.length_nil] at length
    omega
  · intro first second rest others same
    have here : TlvAt (first.bytes ++ rest) 0 first.toTlv := tlvAt_iff.mpr ⟨rest, rfl⟩
    have there : TlvAt (first.bytes ++ rest) 0 second.toTlv := tlvAt_iff.mpr ⟨others, same⟩
    have type : first.type = second.type :=
      (load16_of_bytesAt here.type).symm.trans (load16_of_bytesAt there.type)
    have flags : first.flags = second.flags :=
      (load16_of_bytesAt here.flags).symm.trans (load16_of_bytesAt there.flags)
    have size : first.value.length = second.value.length := by
      have sizes := (load32_of_bytesAt here.size).symm.trans (load32_of_bytesAt there.size)
      rw [← UInt32.toNat_ofNat_of_lt' first.sized, sizes, UInt32.toNat_ofNat_of_lt' second.sized]
    have value : first.value = second.value := by
      have field := there.value
      rw [← size] at field
      exact here.value.symm.trans field
    obtain ⟨⟨_, _, _⟩, _, _, _⟩ := first
    obtain ⟨⟨_, _, _⟩, _, _, _⟩ := second
    cases type
    cases flags
    cases value
    rfl

/-- The walk accepts the rows of fields that fill the data and have a type of their own, and takes
from them what they say. -/
theorem walkTlvs_iff (aligned : 8 ∣ offset) (addressable : data.length ≤ u64Max.toNat - 7) :
    walkTlvs data seen offset hello = (found, none) ↔
      ∃ fields, Tiling Field.bytes (data.drop offset) fields ∧
        (fields.map fun field => field.type).Nodup ∧
        (∀ field ∈ fields, field.type ∉ seen) ∧ fields.foldl Hello.noteField hello = found := by
  fun_induction walkTlvs data seen offset hello with
  | case1 seen offset hello more reason failed =>
    -- a row that starts with a field would be read
    constructor
    · intro same
      cases same
    · rintro ⟨fields, tiling, -, fresh, -⟩
      cases fields with
      | nil =>
        have empty : data.drop offset = [] := tiling.symm
        rw [List.drop_eq_nil_iff] at empty
        omega
      | cons field others =>
        have stands : TlvAt data offset field.toTlv := tlvAt_iff.mpr ⟨_, tiling.symm⟩
        have read := (readTlv_eq_ok_iff aligned addressable).mpr
          ⟨field, fresh field (List.mem_cons_self ..), stands, rfl⟩
        rw [read] at failed
        cases failed
  | case2 seen offset hello more span read ih =>
    obtain ⟨field, new, stands, rfl⟩ := (readTlv_eq_ok_iff aligned addressable).mp read
    have onwards : 8 ∣ offset + field.extent :=
      roundUp_valueEnd aligned field.toTlv ▸ roundUp_dvd _ _
    obtain ⟨rest, split⟩ := tlvAt_iff.mp stands
    have left : data.drop (offset + field.extent) = rest := by
      rw [← List.drop_drop, split, ← length_tlvBytes, List.drop_left]
    have note : noteTlv data hello (field.span offset) = hello.noteField field := noteTlv_eq stands
    have next := ih onwards
    change _ ↔ ∃ fields, Tiling Field.bytes (data.drop (offset + field.extent)) fields ∧ _ at next
    rw [next, note, left, split]
    constructor
    · rintro ⟨others, tiling, distinct, fresh, same⟩
      refine ⟨field :: others,
        (tiling_append_iff delimited_fields).mpr ⟨others, rfl, tiling⟩, ?_, ?_, same⟩
      · rw [List.map_cons, List.nodup_cons]
        refine ⟨?_, distinct⟩
        intro member
        obtain ⟨other, among, equal⟩ := List.mem_map.mp member
        exact fresh other among (equal ▸ List.mem_cons_self ..)
      · intro other member
        rcases List.mem_cons.mp member with rfl | among
        · exact new
        · exact fun earlier => fresh other among (List.mem_cons_of_mem _ earlier)
    · rintro ⟨fields, tiling, distinct, fresh, same⟩
      obtain ⟨others, rfl, behind⟩ := (tiling_append_iff delimited_fields).mp tiling
      rw [List.map_cons, List.nodup_cons] at distinct
      refine ⟨others, behind, distinct.2, ?_, same⟩
      intro other among earlier
      rcases List.mem_cons.mp earlier with equal | before
      · exact distinct.1 (List.mem_map.mpr ⟨other, among, equal⟩)
      · exact fresh other (List.mem_cons_of_mem _ among) before
  | case3 seen offset hello done =>
    have empty : data.drop offset = [] := List.drop_of_length_le (by omega)
    rw [empty]
    simp only [tiling_nil_iff delimited_fields, Prod.mk.injEq, and_true]
    constructor
    · rintro rfl
      exact ⟨[], rfl, List.nodup_nil, by simp, rfl⟩
    · rintro ⟨fields, rfl, -, -, same⟩
      exact same

end Rows

end GemSim.Bridge
