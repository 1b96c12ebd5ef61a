import GemSim.Lib.Records
import GemSim.Lib.SparseBytes
import GemSim.Lib.Tiling

/-!
# Maintenance packets

A vendor packet may name an indirect buffer of commands in the memory of its owner. The buffer is
read as a whole, and its commands are walked: each says in its first dword what it is and how long
it is, and only commands that maintain caches, or do nothing, are admitted.

## Main definitions

* `load16`, `load32`, `load64` — the little-endian fields of a packet
* `maintenancePm4IbValid` — the check of a packet and of its buffer
* `MaintenanceCommand` — the commands that are admitted

## Main results

* `maintenancePm4IbValid_iff` — the check ends inside the buffer, and admits its tilings by commands
-/

namespace GemSim.Native

open GemSim.Lib

section Definitions

def load16 (packet : List UInt8) (offset : ℕ) : UInt16 :=
  UInt16.ofNat (ofLittleEndian (bytesAt packet offset 2))

def load32 (packet : List UInt8) (offset : ℕ) : UInt32 :=
  UInt32.ofNat (ofLittleEndian (bytesAt packet offset 4))

def load64 (packet : List UInt8) (offset : ℕ) : UInt64 :=
  UInt64.ofNat (ofLittleEndian (bytesAt packet offset 8))

/-- The bytes from one offset up to another are zero. -/
def allZero (packet : List UInt8) (first last : ℕ) : Bool :=
  (bytesAt packet first (last - first)).all fun byte => byte = 0

/-- Dwords that follow each other in memory. -/
def loadDwords (memory : SparseBytes) (address : UInt64) (count : ℕ) : List UInt32 :=
  (List.range count).map fun index =>
    UInt32.ofNat (ofLittleEndian (loadBytes memory (address + UInt64.ofNat (4 * index)) 4))

def AmdPm4Ib : UInt16 := 1
def MaximumPm4IbBytes : ℕ := 16 <<< 20
def Pm4Type3 : UInt8 := 3
def Pm4Nop : UInt8 := 0x10
def Pm4IndirectBuffer : UInt8 := 0x3f
def Pm4AcquireMemory : UInt8 := 0x58

def ibDwords (packet : List UInt8) : ℕ := (load32 packet 16 &&& 0xfffff).toNat

def ibAddress (packet : List UInt8) : UInt64 :=
  (load32 packet 8).toUInt64 ||| (load32 packet 12 &&& 0xffff).toUInt64 <<< 32

/-- The packet itself is well formed. -/
def indirectPacketValid (packet : List UInt8) : Bool :=
  let vendorHeader := load16 packet 2
  let indirectHeader := load32 packet 4
  let indirectBaseLow := load32 packet 8
  let indirectControl := load32 packet 16
  let remainingDwords := load32 packet 20
  let type := (indirectHeader >>> 30).toUInt8
  let opcode := (indirectHeader >>> 8).toUInt8
  let count := (indirectHeader >>> 16 &&& 0x3fff).toUInt16
  let valid : Bool := indirectControl &&& ((1 : UInt32) <<< 23) ≠ 0
  ! (vendorHeader ≠ AmdPm4Ib || type ≠ Pm4Type3 || opcode ≠ Pm4IndirectBuffer || count ≠ 2 ||
    indirectHeader &&& 0xff ≠ 0 || indirectBaseLow &&& 0x3 ≠ 0 || ibAddress packet = 0 ||
    ibDwords packet = 0 || ibDwords packet > MaximumPm4IbBytes / 4 || !valid ||
    indirectControl &&& ~~~((0xfffff : UInt32) ||| ((1 : UInt32) <<< 23)) ≠ 0 || remainingDwords ≠ 0xa ||
    !allZero packet 24 56)

/-- One command of the buffer. -/
def commandPass (commands : List UInt32) (cursor : ℕ) : Pass ℕ (Except String Unit) :=
  if cursor < commands.length then
    match commands[cursor]? with
    | none => .overrun
    | some header =>
      let commandType := (header >>> 30).toUInt8
      let commandOpcode := (header >>> 8).toUInt8
      let commandCount := (header >>> 16 &&& 0x3fff).toUInt16
      let commandDwords := commandCount.toNat + 2
      if commandType ≠ Pm4Type3 ∨ header &&& 0xff ≠ 0 ∨
          commandDwords > commands.length - cursor then
        .finish (.error "malformed AMD PM4 maintenance command")
      else if commandOpcode = Pm4AcquireMemory then
        if commandDwords ≠ 7 ∧ commandDwords ≠ 8 then
          .finish (.error "unsupported AMD ACQUIRE_MEM layout")
        else .next (cursor + commandDwords)
      else if commandOpcode ≠ Pm4Nop then
        .finish (.error "unsupported AMD PM4 maintenance opcode")
      else .next (cursor + commandDwords)
  else .finish (.ok ())

/-- Whether a packet and its buffer are admitted. The staging vector may not be allocated, and the
buffer may not be read. -/
def maintenancePm4IbValid (packet : List UInt8) (memory : SparseBytes) (allocates reads : Bool)
    (passes : ℕ) : Ending (Except String Unit) :=
  if !indirectPacketValid packet then .finished (.error "malformed AMD PM4 maintenance packet")
  else if !allocates then .finished (.error "AMD PM4 maintenance staging allocation")
  else if !reads then .finished (.error "AMD PM4 maintenance IB is outside owner memory")
  else loop (commandPass (loadDwords memory (ibAddress packet) (ibDwords packet))) passes 0

end Definitions

section Commands

/-- The header of a type-3 packet: the dwords behind it, less one, and its opcode. The other bits
are reserved, and zero. -/
def type3Header (opcode : UInt8) (count : ℕ) : UInt32 :=
  UInt32.ofNat (3 * 2 ^ 30 + count * 2 ^ 16 + opcode.toNat * 2 ^ 8)

/-- A command that does nothing, of any size, or one that acquires memory, of seven dwords or
eight. -/
inductive MaintenanceCommand where
  | nop (body : List UInt32) (size : 1 ≤ body.length ∧ body.length ≤ 2 ^ 14)
  | acquireMemory (body : List UInt32) (size : body.length + 1 = 7 ∨ body.length + 1 = 8)

def MaintenanceCommand.dwords : MaintenanceCommand → List UInt32
  | nop body _ => type3Header Pm4Nop (body.length - 1) :: body
  | acquireMemory body _ => type3Header Pm4AcquireMemory (body.length - 1) :: body

/-- The fields of a header as the walk reads them. -/
structure HeaderReads (header : UInt32) (opcode : UInt8) (count : ℕ) : Prop where
  type : (header >>> 30).toUInt8 = Pm4Type3
  reserved : header &&& 0xff = 0
  opcode : (header >>> 8).toUInt8 = opcode
  count : (header >>> 16 &&& 0x3fff).toUInt16.toNat = count

/-- The fields of a header, as numbers. -/
theorem headerReads_iff_toNat {header : UInt32} {opcode : UInt8} {count : ℕ} :
    HeaderReads header opcode count ↔ header.toNat / 2 ^ 30 = 3 ∧ header.toNat % 2 ^ 8 = 0 ∧
      header.toNat / 2 ^ 8 % 2 ^ 8 = opcode.toNat ∧ header.toNat / 2 ^ 16 % 2 ^ 14 = count := by
  have below := header.toNat_lt
  have type : (header >>> 30).toUInt8 = Pm4Type3 ↔ header.toNat / 2 ^ 30 = 3 := by
    rw [← UInt8.toNat_inj, UInt32.toNat_toUInt8, UInt32.toNat_shiftRight]
    change (header.toNat >>> 30) % 2 ^ 8 = 3 ↔ _
    rw [Nat.shiftRight_eq_div_pow]
    omega
  have reserved : header &&& 0xff = 0 ↔ header.toNat % 2 ^ 8 = 0 := by
    rw [← UInt32.toNat_inj, UInt32.toNat_and]
    change header.toNat &&& 2 ^ 8 - 1 = 0 ↔ _
    rw [Nat.and_two_pow_sub_one_eq_mod]
  have code : (header >>> 8).toUInt8 = opcode ↔ header.toNat / 2 ^ 8 % 2 ^ 8 = opcode.toNat := by
    rw [← UInt8.toNat_inj, UInt32.toNat_toUInt8, UInt32.toNat_shiftRight]
    change (header.toNat >>> 8) % 2 ^ 8 = _ ↔ _
    rw [Nat.shiftRight_eq_div_pow]
  have size : (header >>> 16 &&& 0x3fff).toUInt16.toNat = header.toNat / 2 ^ 16 % 2 ^ 14 := by
    rw [UInt32.toNat_toUInt16, UInt32.toNat_and, UInt32.toNat_shiftRight]
    change ((header.toNat >>> 16) &&& 2 ^ 14 - 1) % 2 ^ 16 = _
    rw [Nat.and_two_pow_sub_one_eq_mod, Nat.shiftRight_eq_div_pow]
    omega
  constructor
  · intro reads
    exact ⟨type.mp reads.type, reserved.mp reads.reserved, code.mp reads.opcode,
      size.symm.trans reads.count⟩
  · rintro ⟨typed, zero, coded, sized⟩
    exact ⟨type.mpr typed, reserved.mpr zero, code.mpr coded, size.trans sized⟩

theorem headerReads_iff {header : UInt32} {opcode : UInt8} {count : ℕ} :
    HeaderReads header opcode count ↔ count < 2 ^ 14 ∧ header = type3Header opcode count := by
  have below := header.toNat_lt
  have byte := opcode.toNat_lt
  rw [headerReads_iff_toNat, ← UInt32.toNat_inj, type3Header, UInt32.toNat_ofNat']
  omega

theorem MaintenanceCommand.exists_cons (command : MaintenanceCommand) :
    ∃ header body opcode, command.dwords = header :: body ∧
      HeaderReads header opcode (body.length - 1) ∧ 1 ≤ body.length ∧
      (opcode = Pm4Nop ∨ opcode = Pm4AcquireMemory ∧ (body.length + 1 = 7 ∨ body.length + 1 = 8)) := by
  cases command with
  | nop body size =>
    exact ⟨_, body, Pm4Nop, rfl, headerReads_iff.mpr ⟨by omega, rfl⟩, size.1, .inl rfl⟩
  | acquireMemory body size =>
    exact ⟨_, body, Pm4AcquireMemory, rfl, headerReads_iff.mpr ⟨by omega, rfl⟩, by omega,
      .inr ⟨rfl, size⟩⟩

/-- Headers of different opcodes differ. -/
theorem type3Header_opcode {first second : UInt8} {count other : ℕ} (fits : count < 2 ^ 14)
    (also : other < 2 ^ 14) (same : type3Header first count = type3Header second other) :
    first = second := by
  have left : HeaderReads _ first count := headerReads_iff.mpr ⟨fits, rfl⟩
  have right : HeaderReads _ second other := headerReads_iff.mpr ⟨also, same⟩
  exact left.opcode.symm.trans right.opcode

/-- The dwords of a command are its own. -/
theorem MaintenanceCommand.dwords_inj {command other : MaintenanceCommand}
    (same : command.dwords = other.dwords) : command = other := by
  cases command with
  | nop body size =>
    cases other with
    | nop tail also =>
      cases (List.cons.inj same).2
      rfl
    | acquireMemory tail also =>
      have opcode := type3Header_opcode (by omega) (by omega) (List.cons.inj same).1
      exact absurd opcode (by decide)
  | acquireMemory body size =>
    cases other with
    | nop tail also =>
      have opcode := type3Header_opcode (by omega) (by omega) (List.cons.inj same).1
      exact absurd opcode (by decide)
    | acquireMemory tail also =>
      cases (List.cons.inj same).2
      rfl

/-- A command says itself where it ends. -/
theorem delimited_dwords : Delimited MaintenanceCommand.dwords := by
  refine ⟨?_, ?_⟩
  · intro command
    cases command <;> exact List.cons_ne_nil _ _
  · intro command other rest others same
    obtain ⟨header, body, opcode, starts, reads, some, -⟩ := command.exists_cons
    obtain ⟨front, tail, code, also, readsAlso, more, -⟩ := other.exists_cons
    rw [starts, also, List.cons_append, List.cons_append] at same
    obtain ⟨rfl, behind⟩ := List.cons.inj same
    have length : body.length = tail.length := by
      have counts := reads.count.symm.trans readsAlso.count
      omega
    apply MaintenanceCommand.dwords_inj
    rw [starts, also, (List.append_inj behind length).1]

end Commands

section Law

variable {commands tail : List UInt32} {cursor count : ℕ} {header : UInt32} {opcode : UInt8}

/-- One pass at a header, by its fields. -/
theorem commandPass_eq (left : commands.drop cursor = header :: tail)
    (reads : HeaderReads header opcode count) :
    commandPass commands cursor =
      if tail.length < count + 1 then .finish (.error "malformed AMD PM4 maintenance command")
      else if opcode = Pm4AcquireMemory then
        if count + 2 ≠ 7 ∧ count + 2 ≠ 8 then
          .finish (.error "unsupported AMD ACQUIRE_MEM layout")
        else .next (cursor + (count + 2))
      else if opcode ≠ Pm4Nop then .finish (.error "unsupported AMD PM4 maintenance opcode")
      else .next (cursor + (count + 2)) := by
  have size := congrArg List.length left
  rw [List.length_drop, List.length_cons] at size
  have found : commands[cursor]? = some header := by
    rw [← List.head?_drop, left, List.head?_cons]
  rw [commandPass, if_pos (by omega), found]
  simp only [reads.type, reads.reserved, reads.opcode, reads.count, ne_eq, not_true_eq_false,
    false_or]
  congr 1
  exact propext (by omega)

/-- The walk of the buffer takes its commands one by one. -/
theorem walk_commandPass (commands : List UInt32) :
    Walk MaintenanceCommand.dwords (fun _ => True) (fun cursor => commands.drop cursor)
      (fun cursor command => .ok (cursor + command.dwords.length)) (fun _ => ())
      (commandPass commands) where
  delimited := delimited_dwords
  finish := by
    intro cursor _ empty
    rw [commandPass, if_neg (not_lt.mpr (List.drop_eq_nil_iff.mp empty))]
  refuse := by
    intro cursor command rest failure _ split refused
    cases refused
  reject := by
    intro cursor _ more none
    obtain ⟨header, tail, left⟩ := List.exists_cons_of_ne_nil more
    by_cases typed : (header >>> 30).toUInt8 = Pm4Type3 ∧ header &&& 0xff = 0
    · have reads : HeaderReads header (header >>> 8).toUInt8
          (header >>> 16 &&& 0x3fff).toUInt16.toNat := ⟨typed.1, typed.2, rfl, rfl⟩
      rw [commandPass_eq left reads]
      obtain ⟨bounded, same⟩ := headerReads_iff.mp reads
      generalize (header >>> 16 &&& 0x3fff).toUInt16.toNat = count at *
      generalize (header >>> 8).toUInt8 = opcode at *
      split_ifs with short acquire size other
      · exact ⟨_, rfl⟩
      · exact ⟨_, rfl⟩
      · -- a whole command would start here
        have body : (tail.take (count + 1)).length = count + 1 := by
          rw [List.length_take]
          omega
        refine absurd ?_ (none (.acquireMemory (tail.take (count + 1)) (by omega))
          (tail.drop (count + 1)))
        rw [left, MaintenanceCommand.dwords, body, Nat.add_sub_cancel, ← acquire, ← same,
          List.cons_append, List.take_append_drop]
      · exact ⟨_, rfl⟩
      · have body : (tail.take (count + 1)).length = count + 1 := by
          rw [List.length_take]
          omega
        refine absurd ?_ (none (.nop (tail.take (count + 1)) (by omega)) (tail.drop (count + 1)))
        rw [left, MaintenanceCommand.dwords, body, Nat.add_sub_cancel, ← not_not.mp other, ← same,
          List.cons_append, List.take_append_drop]
    · have size := congrArg List.length left
      rw [List.length_drop, List.length_cons] at size
      have found : commands[cursor]? = some header := by
        rw [← List.head?_drop, left, List.head?_cons]
      refine ⟨"malformed AMD PM4 maintenance command", ?_⟩
      rw [commandPass, if_pos (by omega), found]
      exact if_pos (by tauto)
  take := by
    intro cursor command rest after _ split taken
    obtain ⟨header, body, opcode, starts, reads, some, kind⟩ := command.exists_cons
    cases taken
    have left : commands.drop cursor = header :: (body ++ rest) := by
      rw [split, starts, List.cons_append]
    have length : body.length - 1 + 2 = command.dwords.length := by
      rw [starts, List.length_cons]
      omega
    refine ⟨?_, trivial, ?_⟩
    · rw [commandPass_eq left reads, if_neg (by rw [List.length_append]; omega), length]
      rcases kind with rfl | ⟨rfl, size⟩
      · rw [if_neg (by decide), if_neg (not_not.mpr rfl)]
      · rw [if_pos rfl, if_neg (by rw [starts, List.length_cons]; omega)]
    · rw [← List.drop_drop, split, List.drop_left]

theorem length_loadDwords (memory : SparseBytes) (address : UInt64) (count : ℕ) :
    (loadDwords memory address count).length = count := by
  rw [loadDwords, List.length_map, List.length_range]

/-- A walk that refuses nothing only asks for a tiling. -/
theorem exists_foldlM_ok (commands : List MaintenanceCommand) (cursor : ℕ) :
    ∃ after, commands.foldlM
      (fun cursor command => (.ok (cursor + command.dwords.length) : Except String ℕ)) cursor =
        .ok after := by
  induction commands generalizing cursor with
  | nil => exact ⟨cursor, rfl⟩
  | cons command commands ih => exact ih (cursor + command.dwords.length)

/-- The check of a packet ends after at most as many passes as the buffer has dwords, and never
reads behind the buffer. It admits the packets that are well formed and whose buffer is tiled by
commands that are admitted. -/
theorem maintenancePm4IbValid_iff (packet : List UInt8) (memory : SparseBytes)
    (allocates reads : Bool) :
    ∃ outcome,
      (∀ extra, maintenancePm4IbValid packet memory allocates reads (ibDwords packet + 1 + extra) =
        .finished outcome) ∧
      (outcome = .ok () ↔
        indirectPacketValid packet = true ∧ allocates = true ∧ reads = true ∧
          ∃ commands, Tiling MaintenanceCommand.dwords
            (loadDwords memory (ibAddress packet) (ibDwords packet)) commands) := by
  unfold maintenancePm4IbValid
  by_cases valid : indirectPacketValid packet = true
  · by_cases allocated : allocates = true
    · by_cases readable : reads = true
      · -- the buffer is there, and the walk decides
        simp only [valid, allocated, readable, Bool.not_true, Bool.false_eq_true, if_false,
          true_and]
        generalize same : loadDwords memory (ibAddress packet) (ibDwords packet) = buffer
        have size : buffer.length = ibDwords packet := by rw [← same, length_loadDwords]
        obtain ⟨outcome, ends, accepts⟩ := (walk_commandPass buffer).finished trivial
          (by rw [List.drop_zero]; omega : (buffer.drop 0).length < ibDwords packet + 1)
        refine ⟨outcome, loop_add ends (by simp), ?_⟩
        rw [accepts (), List.drop_zero]
        constructor
        · rintro ⟨commands, -, tiling, -⟩
          exact ⟨commands, tiling⟩
        · rintro ⟨commands, tiling⟩
          obtain ⟨after, folded⟩ := exists_foldlM_ok commands 0
          exact ⟨commands, after, tiling, folded, rfl⟩
      · refine ⟨.error "AMD PM4 maintenance IB is outside owner memory", ?_, ?_⟩
        · simp [valid, allocated, readable]
        · simp [readable]
    · refine ⟨.error "AMD PM4 maintenance staging allocation", ?_, ?_⟩
      · simp [valid, allocated]
      · simp [allocated]
  · refine ⟨.error "malformed AMD PM4 maintenance packet", ?_, ?_⟩
    · simp [valid]
    · simp [valid]

end Law

end GemSim.Native
