import Mathlib.Tactic.Ring
import GemSim.Vega.Buffers

/-!
# Loads into the local data share

A load may put what it returns into the chunk of local memory of the wave rather than into
registers. Narrow elements come back packed, and are widened to a dword a lane in place; the
dwords of the active lanes are then scattered, each lane at its own slot, and a dword that does
not lie in the chunk whole is dropped.

## Main definitions

* `widen`, `scatter` — the two steps on what a load returns
* `write` — a store to the chunk
* `LoadLds`, `completeAcc` — the forms of the load
* `Placed` — what is in the chunk afterwards

## Main results

* `loadU32_widen` — every active lane finds its own element, whatever the mask
* `spread_accepted` — no two dwords meet, also where addresses wrap
* `placed_completeAcc` — where every dword of every form goes
-/

namespace GemSim.Vega.FlatLds

open GemSim.Lib

section Model

inductive Narrow where
  | u8
  | i8
  | u16
  | i16

/-- An element of a packed array, promoted: an unsigned one is extended with zeros. -/
def Narrow.read (narrow : Narrow) (data : ℕ → Byte) (lane : ℕ) : Dword :=
  match narrow with
  | .u8 => (data lane).setWidth 32
  | .i8 => (data lane).signExtend 32
  | .u16 => (loadU16 data (lane * 2)).setWidth 32
  | .i16 => (loadU16 data (lane * 2)).signExtend 32

/-- The buffer with one of its dwords assigned. -/
def assign (data : ℕ → Byte) (lane : ℕ) (value : Dword) : ℕ → Byte := fun place =>
  if lane * 4 ≤ place ∧ place < lane * 4 + 4 then (value >>> ((place - lane * 4) * 8)).setWidth 8
  else data place

def widenLane (narrow : Narrow) (laneMask : BitVec 64) (data : ℕ → Byte) (lane : ℕ) :
    ℕ → Byte :=
  if laneMask.getLsbD lane then assign data lane (narrow.read data lane) else data

/-- From the last lane down to the first, since a lane's dword lies above its element. -/
def widen (narrow : Narrow) (data : ℕ → Byte) (numLanes : ℕ) (laneMask : BitVec 64) : ℕ → Byte :=
  (List.range numLanes).reverse.foldl (widenLane narrow laneMask) data

def laneAddr (base : Dword) (lane laneStrideBytes : ℕ) : Dword :=
  base + BitVec.ofNat 32 lane * BitVec.ofNat 32 laneStrideBytes

def signExtend (value : Dword) (signBit : ℕ) : Dword :=
  if signBit = 0 ∨ signBit ≥ 32 then value
  else
    let shift := 32 - signBit
    (value <<< shift).sshiftRight shift

def scatter {Sunk : Type*} (ldsBase : Dword) (payloadDwords laneStrideBytes signBit : ℕ)
    (dData : ℕ → Byte) (numLanes : ℕ) (laneMask : BitVec 64)
    (sink : Sunk → Dword → Dword → Sunk) (sunk : Sunk) : Sunk :=
  (List.range numLanes).foldl (fun sunk lane =>
    if !laneMask.getLsbD lane then sunk
    else
      let chunkAddr := laneAddr ldsBase lane laneStrideBytes
      (List.range payloadDwords).foldl (fun sunk i =>
        let val := loadU32 dData ((lane * payloadDwords + i) * 4)
        sink sunk (chunkAddr + BitVec.ofNat 32 i * 4) (signExtend val signBit)) sunk) sunk

/-- A store to the chunk, which must fit whole. -/
def write (chunk : List Byte) (index value : Dword) : List Byte :=
  if index.toNat + 4 > chunk.length then chunk else storeU32 chunk index.toNat value

def ldsComplete (payloadDwords laneStrideDwords signBit : ℕ) (ldsDestinationAddr : Dword)
    (dData : ℕ → Byte) (numLanes : ℕ) (execMask : BitVec 64) (chunk : List Byte) : List Byte :=
  scatter ldsDestinationAddr payloadDwords (laneStrideDwords * 4) signBit dData numLanes execMask
    write chunk

inductive LoadLds where
  | ubyte
  | sbyte
  | ushort
  | sshort
  | dword
  | dwordx3
  | dwordx4

/-- What a form does with the data that has come back. -/
def completeAcc (form : LoadLds) (ldsDestinationAddr : Dword) (dData : ℕ → Byte) (numLanes : ℕ)
    (execMask : BitVec 64) (chunk : List Byte) : List Byte :=
  match form with
  | .ubyte => ldsComplete 1 1 0 ldsDestinationAddr (widen .u8 dData numLanes execMask) numLanes
      execMask chunk
  | .sbyte => ldsComplete 1 1 0 ldsDestinationAddr (widen .i8 dData numLanes execMask) numLanes
      execMask chunk
  | .ushort => ldsComplete 1 1 0 ldsDestinationAddr (widen .u16 dData numLanes execMask) numLanes
      execMask chunk
  | .sshort => ldsComplete 1 1 0 ldsDestinationAddr (widen .i16 dData numLanes execMask) numLanes
      execMask chunk
  | .dword => ldsComplete 1 1 0 ldsDestinationAddr dData numLanes execMask chunk
  | .dwordx3 => ldsComplete 3 4 0 ldsDestinationAddr dData numLanes execMask chunk
  | .dwordx4 => ldsComplete 4 4 0 ldsDestinationAddr dData numLanes execMask chunk

end Model

section Widen

variable {narrow : Narrow} {laneMask : BitVec 64} {data : ℕ → Byte} {lane : ℕ}

theorem loadU32_assign (value : Dword) : loadU32 (assign data lane value) (lane * 4) = value := by
  rw [loadU32_eq_iff]
  intro bit inside
  have covered : lane * 4 ≤ (lane * 4 * 8 + bit) / 8 ∧ (lane * 4 * 8 + bit) / 8 < lane * 4 + 4 := by
    omega
  have place : ((lane * 4 * 8 + bit) / 8 - lane * 4) * 8 + (lane * 4 * 8 + bit) % 8 = bit := by
    omega
  have small : bit % 8 < 8 := by omega
  rw [bitOf, assign, if_pos covered, BitVec.getLsbD_setWidth, BitVec.getLsbD_ushiftRight, place]
  simp [small]

theorem assign_of_outside {value : Dword} {place : ℕ}
    (outside : ¬ (lane * 4 ≤ place ∧ place < lane * 4 + 4)) :
    assign data lane value place = data place := if_neg outside

theorem read_congr {other : ℕ → Byte}
    (agree : ∀ place < (lane + 1) * 2, data place = other place) :
    narrow.read data lane = narrow.read other lane := by
  cases narrow with
  | u8 => rw [Narrow.read, Narrow.read, agree lane (by omega)]
  | i8 => rw [Narrow.read, Narrow.read, agree lane (by omega)]
  | u16 =>
    rw [Narrow.read, Narrow.read, loadU16, loadU16, agree (lane * 2) (by omega),
      agree (lane * 2 + 1) (by omega)]
  | i16 =>
    rw [Narrow.read, Narrow.read, loadU16, loadU16, agree (lane * 2) (by omega),
      agree (lane * 2 + 1) (by omega)]

theorem loadU32_congr {other : ℕ → Byte} {offset : ℕ}
    (agree : ∀ place, offset ≤ place → place < offset + 4 → data place = other place) :
    loadU32 data offset = loadU32 other offset := by
  rw [loadU32, loadU32, agree offset (by omega) (by omega), agree (offset + 1) (by omega) (by omega),
    agree (offset + 2) (by omega) (by omega), agree (offset + 3) (by omega) (by omega)]

theorem widenLane_of_outside {place : ℕ} (outside : ¬ (lane * 4 ≤ place ∧ place < lane * 4 + 4)) :
    widenLane narrow laneMask data lane place = data place := by
  rw [widenLane]
  by_cases active : laneMask.getLsbD lane = true
  · rw [if_pos active, assign_of_outside outside]
  · rw [if_neg active]

theorem widen_succ (numLanes : ℕ) :
    widen narrow data (numLanes + 1) laneMask =
      widen narrow (widenLane narrow laneMask data numLanes) numLanes laneMask := by
  simp [widen, List.range_succ]

/-- Lanes that are left do not reach above their dwords. -/
theorem widen_of_beyond {numLanes place : ℕ} (beyond : numLanes * 4 ≤ place) :
    widen narrow data numLanes laneMask place = data place := by
  induction numLanes generalizing data with
  | zero => rfl
  | succ numLanes ih =>
    rw [widen_succ, ih (by omega), widenLane_of_outside (by omega)]

/-- Every active lane finds its own element, whatever the mask: the lanes that were widened
before it lie above all it reads. -/
theorem loadU32_widen {numLanes : ℕ} (inside : lane < numLanes)
    (active : laneMask.getLsbD lane = true) :
    loadU32 (widen narrow data numLanes laneMask) (lane * 4) = narrow.read data lane := by
  induction numLanes generalizing data with
  | zero => exact absurd inside (Nat.not_lt_zero lane)
  | succ numLanes ih =>
    rw [widen_succ]
    by_cases last : lane = numLanes
    · subst last
      rw [loadU32_congr fun place above _ => widen_of_beyond above, widenLane, if_pos active,
        loadU32_assign]
    · rw [ih (by omega)]
      apply read_congr
      intro place below
      exact widenLane_of_outside (by omega)

end Widen

section Addresses

variable {base : Dword}

/-- Where a dword of the chunk goes, counting dwords from the base. -/
def placeOf (base : Dword) (dword : ℕ) : ℕ := (base.toNat + 4 * dword) % 4294967296

theorem toNat_laneAddr (base : Dword) (lane laneStrideDwords i : ℕ) :
    (laneAddr base lane (laneStrideDwords * 4) + BitVec.ofNat 32 i * 4).toNat =
      placeOf base (laneStrideDwords * lane + i) := by
  have dword : laneAddr base lane (laneStrideDwords * 4) + BitVec.ofNat 32 i * 4 =
      base + BitVec.ofNat 32 (4 * (laneStrideDwords * lane + i)) := by
    have stride : lane * (laneStrideDwords * 4) + i * 4 = 4 * (laneStrideDwords * lane + i) := by
      ring
    rw [laneAddr, BitVec.add_assoc, ← stride, BitVec.ofNat_add,
      BitVec.ofNat_mul lane, BitVec.ofNat_mul i]
    rfl
  rw [dword, placeOf, BitVec.toNat_add, BitVec.toNat_ofNat, Nat.add_mod_mod]

/-- Dwords that lie less than an address space apart do not meet, also where addresses wrap. -/
theorem placeOf_apart {left right : ℕ} (less : left < right) (near : right < 1073741824) :
    placeOf base left + 4 ≤ placeOf base right ∨ placeOf base right + 4 ≤ placeOf base left := by
  rw [placeOf, placeOf]
  omega

end Addresses

section Scatter

variable {base : Dword} {payload stride numLanes : ℕ} {laneMask : BitVec 64} {dData : ℕ → Byte}
  {chunk : List Byte}

/-- The stores of a lane. -/
def storesOfLane (base : Dword) (payload stride : ℕ) (dData : ℕ → Byte) (laneMask : BitVec 64)
    (lane : ℕ) : List Store :=
  if laneMask.getLsbD lane then
    (List.range payload).map fun i =>
      (placeOf base (stride * lane + i), loadU32 dData ((lane * payload + i) * 4))
  else []

def storesOf (base : Dword) (payload stride : ℕ) (dData : ℕ → Byte) (numLanes : ℕ)
    (laneMask : BitVec 64) : List Store :=
  (List.range numLanes).flatMap (storesOfLane base payload stride dData laneMask)

/-- The stores that the chunk does not drop. -/
def accepted (chunk : List Byte) (stores : List Store) : List Store :=
  stores.filter fun store => decide (store.1 + 4 ≤ chunk.length)

theorem mem_storesOf {store : Store} :
    store ∈ storesOf base payload stride dData numLanes laneMask ↔
      ∃ lane < numLanes, laneMask.getLsbD lane = true ∧ ∃ i < payload,
        (placeOf base (stride * lane + i), loadU32 dData ((lane * payload + i) * 4)) = store := by
  rw [storesOf, List.mem_flatMap]
  constructor
  · rintro ⟨lane, inside, member⟩
    rw [storesOfLane] at member
    by_cases active : laneMask.getLsbD lane = true
    · rw [if_pos active, List.mem_map] at member
      obtain ⟨i, small, same⟩ := member
      exact ⟨lane, List.mem_range.mp inside, active, i, List.mem_range.mp small, same⟩
    · rw [if_neg active] at member
      cases member
  · rintro ⟨lane, inside, active, i, small, same⟩
    refine ⟨lane, List.mem_range.mpr inside, ?_⟩
    rw [storesOfLane, if_pos active]
    exact List.mem_map.mpr ⟨i, List.mem_range.mpr small, same⟩

theorem mem_accepted {store : Store} {stores : List Store} :
    store ∈ accepted chunk stores ↔ store ∈ stores ∧ store.1 + 4 ≤ chunk.length := by
  rw [accepted, List.mem_filter, decide_eq_true_eq]

/-- The chunk takes what it accepts. -/
theorem foldl_write {stores : List Store} {within : List Byte}
    (same : within.length = chunk.length) (addresses : List (Dword × Dword))
    (listed : addresses.map (fun store => (store.1.toNat, store.2)) = stores) :
    addresses.foldl (fun chunk store => write chunk store.1 store.2) within =
      storeAll (accepted chunk stores) within := by
  induction addresses generalizing stores within with
  | nil =>
    subst listed
    rfl
  | cons store rest ih =>
    subst listed
    rw [List.foldl_cons, List.map_cons, accepted, List.filter_cons, write]
    dsimp only
    by_cases fits : store.1.toNat + 4 ≤ chunk.length
    · rw [if_neg (by omega), if_pos (decide_eq_true fits), ih (by rw [length_storeU32, same]) rfl]
      rfl
    · rw [if_pos (by omega), if_neg (by rw [decide_eq_true_eq]; exact fits), ih same rfl]
      rfl

theorem ldsComplete_eq :
    ldsComplete payload stride 0 base dData numLanes laneMask chunk =
      storeAll (accepted chunk (storesOf base payload stride dData numLanes laneMask)) chunk := by
  -- the loop over the lanes, as one list of addresses and values
  have flat : ldsComplete payload stride 0 base dData numLanes laneMask chunk =
      ((List.range numLanes).flatMap fun lane =>
        if laneMask.getLsbD lane then (List.range payload).map fun i =>
          (laneAddr base lane (stride * 4) + BitVec.ofNat 32 i * 4,
            loadU32 dData ((lane * payload + i) * 4))
        else []).foldl (fun chunk store => write chunk store.1 store.2) chunk := by
    rw [ldsComplete, scatter, List.foldl_flatMap]
    congr 1
    funext chunk lane
    by_cases active : laneMask.getLsbD lane = true
    · simp [active, List.foldl_map, signExtend]
    · simp [active]
  rw [flat]
  apply foldl_write rfl
  rw [List.map_flatMap, storesOf]
  congr 1
  funext lane
  rw [storesOfLane]
  by_cases active : laneMask.getLsbD lane = true
  · simp only [active, if_true, List.map_map, Function.comp_def, toNat_laneAddr]
  · simp [active]

/-- Dwords of two lanes lie apart. -/
theorem lanes_apart {lane other i j : ℕ} (less : lane < other) (small : i < stride)
    (near : j < stride) (short : stride ≤ 4) (last : other < 64) :
    stride * lane + i < stride * other + j ∧ stride * other + j < 1073741824 := by
  have above : stride * lane + stride ≤ stride * other := by
    rw [← Nat.mul_succ]
    exact Nat.mul_le_mul_left stride less
  have below : stride * other ≤ 4 * 64 := Nat.mul_le_mul short (by omega)
  omega

/-- No two dwords meet, also where addresses wrap. -/
theorem spread_accepted (within : payload ≤ stride) (short : stride ≤ 4) :
    Spread chunk.length ((accepted chunk (storesOf base payload stride dData numLanes
      laneMask)).map Prod.fst) := by
  refine ⟨?_, ?_⟩
  · rw [List.all_eq_true]
    intro offset member
    obtain ⟨store, there, rfl⟩ := List.mem_map.mp member
    exact decide_eq_true (mem_accepted.mp there).2
  rw [List.pairwise_map]
  apply List.Pairwise.filter
  rw [storesOf, List.pairwise_flatMap]
  constructor
  · intro lane _
    rw [storesOfLane]
    by_cases active : laneMask.getLsbD lane = true
    · have last := BitVec.lt_of_getLsbD active
      rw [if_pos active, List.pairwise_map]
      refine List.Pairwise.imp_of_mem ?_ (@List.pairwise_lt_range payload)
      intro i j _ small less
      have near := List.mem_range.mp small
      have below : stride * lane ≤ 4 * 64 := Nat.mul_le_mul short (by omega)
      exact placeOf_apart (by omega) (by omega)
    · rw [if_neg active]
      exact List.Pairwise.nil
  · refine List.Pairwise.imp ?_ (@List.pairwise_lt_range numLanes)
    intro lane other less left one right two
    rw [storesOfLane] at one two
    by_cases active : laneMask.getLsbD lane = true
    · by_cases there : laneMask.getLsbD other = true
      · rw [if_pos active] at one
        rw [if_pos there] at two
        obtain ⟨i, small, rfl⟩ := List.mem_map.mp one
        obtain ⟨j, near, rfl⟩ := List.mem_map.mp two
        rw [List.mem_range] at small near
        have apart := @lanes_apart stride lane other i j less (by omega) (by omega) short
          (BitVec.lt_of_getLsbD there)
        exact placeOf_apart apart.1 apart.2
      · rw [if_neg there] at two
        cases two
    · rw [if_neg active] at one
      cases one

end Scatter

section Law

/-- What is in the chunk when every active lane has put its dwords at its slot. -/
structure Placed (payload stride : ℕ) (element : ℕ → ℕ → Dword) (base : Dword) (numLanes : ℕ)
    (execMask : BitVec 64) (chunk after : List Byte) : Prop where
  length : after.length = chunk.length
  /-- A dword that lies in the chunk whole is at its place. -/
  placed : ∀ lane < numLanes, execMask.getLsbD lane = true → ∀ i < payload,
    placeOf base (stride * lane + i) + 4 ≤ chunk.length →
      loadU32 (byteAt after) (placeOf base (stride * lane + i)) = element lane i
  /-- Other bytes keep their value, those of a dropped dword too. -/
  kept : ∀ place, (∀ lane < numLanes, execMask.getLsbD lane = true → ∀ i < payload,
    placeOf base (stride * lane + i) + 4 ≤ chunk.length →
      ¬ (placeOf base (stride * lane + i) ≤ place ∧
        place < placeOf base (stride * lane + i) + 4)) →
      byteAt after place = byteAt chunk place
  /-- So do the slots of other lanes, and what a slot has beyond the dwords of its lane. -/
  spared : ∀ lane < 64, ∀ i < stride,
    ¬ (lane < numLanes ∧ execMask.getLsbD lane = true ∧ i < payload) →
      ∀ place, placeOf base (stride * lane + i) ≤ place →
        place < placeOf base (stride * lane + i) + 4 → byteAt after place = byteAt chunk place

variable {base : Dword} {payload stride numLanes : ℕ} {execMask : BitVec 64} {dData : ℕ → Byte}
  {chunk : List Byte}

theorem placed_ldsComplete (within : payload ≤ stride) (short : stride ≤ 4) :
    Placed payload stride (fun lane i => loadU32 dData ((lane * payload + i) * 4)) base numLanes
      execMask chunk (ldsComplete payload stride 0 base dData numLanes execMask chunk) := by
  rw [ldsComplete_eq]
  have spread := @spread_accepted base payload stride numLanes execMask dData chunk within short
  have kept : ∀ place, (∀ lane < numLanes, execMask.getLsbD lane = true → ∀ i < payload,
      placeOf base (stride * lane + i) + 4 ≤ chunk.length →
        ¬ (placeOf base (stride * lane + i) ≤ place ∧
          place < placeOf base (stride * lane + i) + 4)) →
      byteAt (storeAll (accepted chunk (storesOf base payload stride dData numLanes execMask))
        chunk) place = byteAt chunk place := by
    intro place outside
    apply byteAt_storeAll_of_outside fun _ member => spread.inside member
    intro store member
    obtain ⟨listed, fits⟩ := mem_accepted.mp member
    obtain ⟨lane, inside, active, i, small, rfl⟩ := mem_storesOf.mp listed
    exact outside lane inside active i small fits
  refine ⟨length_storeAll, ?_, kept, ?_⟩
  · intro lane inside active i small fits
    have listed : (placeOf base (stride * lane + i), loadU32 dData ((lane * payload + i) * 4)) ∈
        storesOf base payload stride dData numLanes execMask :=
      mem_storesOf.mpr ⟨lane, inside, active, i, small, rfl⟩
    rw [loadU32_eq_iff]
    intro bit below
    have read := bitOf_storeAll spread (mem_accepted.mpr ⟨listed, fits⟩) below
    dsimp only at read
    exact read
  · intro lane last i small other place above below
    apply kept
    rintro there inside active j near - ⟨reaches, covers⟩
    -- the dword that covers the place is another one, so it lies apart
    have apart : placeOf base (stride * lane + i) + 4 ≤ placeOf base (stride * there + j) ∨
        placeOf base (stride * there + j) + 4 ≤ placeOf base (stride * lane + i) := by
      have far := BitVec.lt_of_getLsbD active
      rcases Nat.lt_trichotomy lane there with less | rfl | more
      · have apart := @lanes_apart stride lane there i j less small (by omega) short far
        exact placeOf_apart apart.1 apart.2
      · have bound : stride * lane ≤ 4 * 64 := Nat.mul_le_mul short (by omega)
        have beyond : ¬ i < payload := fun inner => other ⟨inside, active, inner⟩
        exact (placeOf_apart (by omega) (by omega)).symm
      · have apart := @lanes_apart stride there lane j i more (by omega) small short last
        exact (placeOf_apart apart.1 apart.2).symm
    omega

theorem Placed.congr {element other : ℕ → ℕ → Dword} {after : List Byte}
    (placed : Placed payload stride element base numLanes execMask chunk after)
    (same : ∀ lane < numLanes, execMask.getLsbD lane = true → ∀ i < payload,
      element lane i = other lane i) :
    Placed payload stride other base numLanes execMask chunk after := by
  refine ⟨placed.length, ?_, placed.kept, placed.spared⟩
  intro lane inside active i small fits
  rw [placed.placed lane inside active i small fits, same lane inside active i small]

theorem placed_widen (narrow : Narrow) :
    Placed 1 1 (fun lane _ => narrow.read dData lane) base numLanes execMask chunk
      (ldsComplete 1 1 0 base (widen narrow dData numLanes execMask) numLanes execMask chunk) := by
  refine (placed_ldsComplete le_rfl (by omega)).congr ?_
  intro lane inside active i first
  have place : (lane * 1 + i) * 4 = lane * 4 := by omega
  rw [place, loadU32_widen inside active]

namespace LoadLds

/-- The dwords a lane gets. -/
def payloadDwords : LoadLds → ℕ
  | .dwordx3 => 3
  | .dwordx4 => 4
  | _ => 1

/-- The slot of a lane, in dwords. -/
def strideDwords : LoadLds → ℕ
  | .dwordx3 => 4
  | .dwordx4 => 4
  | _ => 1

/-- The dword a lane is to get: its narrow element, extended, or a dword of its own. -/
def element (dData : ℕ → Byte) : LoadLds → ℕ → ℕ → Dword
  | .ubyte, lane, _ => (dData lane).setWidth 32
  | .sbyte, lane, _ => (dData lane).signExtend 32
  | .ushort, lane, _ => (loadU16 dData (lane * 2)).setWidth 32
  | .sshort, lane, _ => (loadU16 dData (lane * 2)).signExtend 32
  | .dword, lane, _ => loadU32 dData (lane * 4)
  | .dwordx3, lane, i => loadU32 dData ((lane * 3 + i) * 4)
  | .dwordx4, lane, i => loadU32 dData ((lane * 4 + i) * 4)

end LoadLds

end Law

/-- Where every dword of every form goes: each active lane's at its slot, unless it does not lie
in the chunk whole; and nothing else in the chunk changes. -/
theorem placed_completeAcc (form : LoadLds) (base : Dword) (dData : ℕ → Byte) (numLanes : ℕ)
    (execMask : BitVec 64) (chunk : List Byte) :
    Placed form.payloadDwords form.strideDwords (form.element dData) base numLanes execMask chunk
      (completeAcc form base dData numLanes execMask chunk) := by
  cases form with
  | ubyte => exact placed_widen .u8
  | sbyte => exact placed_widen .i8
  | ushort => exact placed_widen .u16
  | sshort => exact placed_widen .i16
  | dword =>
    refine (@placed_ldsComplete base 1 1 numLanes execMask dData chunk le_rfl (by omega)).congr ?_
    intro lane _ _ i first
    have one : i < 1 := first
    have place : (lane * 1 + i) * 4 = lane * 4 := by omega
    exact congrArg (loadU32 dData) place
  | dwordx3 => exact @placed_ldsComplete base 3 4 numLanes execMask dData chunk (by omega) le_rfl
  | dwordx4 => exact @placed_ldsComplete base 4 4 numLanes execMask dData chunk le_rfl le_rfl

end GemSim.Vega.FlatLds
