import GemSim.Lib.JsonPrefix
import GemSim.Lib.Run
import GemSim.Registry.LaunchFileLaw
import GemSim.Registry.Snapshots

/-!
# The law of snapshots

Whatever the order of the steps, a snapshot is a document whose publish was accepted, whole and as
it was published, and the flag that comes with it is the state of the lock at an instant of the
attempt at which that document was the current one. The generations of the snapshots that are
returned never decrease, over all readers.

A publish that raises after its lease can be read leaves a generation to the next publish that
readers have seen already. As long as none does, snapshots of one generation have one digest.

## Main definitions

* `Later` — what the files of one instant say of those of a later one
* `Sound`, `Unanimous` — the invariants
* `SnapshotLaw`, `Clean`, `Agree` — what holds in every state, and what a clean run adds

## Main results

* `Sound.step`, `Unanimous.step` — every step keeps the invariants
* `readLease_take` — of a lease that is cut off only the newline is missing
* `snapshotLaw_of_run`
-/

namespace GemSim.Registry

open GemSim.Lib GemSim.Lib.Checks

section Laws

variable (session : Session)

/-- The bytes of a document whose publish was accepted. -/
def System.Wrote (system : System) (data : List UInt8) : Prop :=
  ∃ value ∈ system.accepted, data = canonicalJson value.val

/-- What a snapshot that was returned says of the run. -/
structure Faithful (system : System) (entry : Returned) : Prop where
  whole : ∃ value ∈ system.accepted,
    Json.object entry.snapshot.registry.document = value.val.sorted
  held : ∃ instant files, entry.since ≤ instant ∧ instant ≤ entry.till ∧
    system.past[instant]? = some files ∧
    files.registry = some (canonicalJson (.object entry.snapshot.registry.document)) ∧
    files.locked = entry.snapshot.lease_held

/-- Snapshots are documents that were published, and come in the order of their generations. -/
structure SnapshotLaw (system : System) : Prop where
  faithful : ∀ entry ∈ system.returned, Faithful system entry
  ordered : system.returned.Pairwise fun entry later =>
    entry.snapshot.registry.generation ≤ later.snapshot.registry.generation

/-- Snapshots of one generation have one digest. -/
def Agree (system : System) : Prop :=
  ∀ entry ∈ system.returned, ∀ other ∈ system.returned,
    entry.snapshot.registry.generation = other.snapshot.registry.generation →
    session.sha256 (canonicalJson (.object entry.snapshot.registry.document)) =
      session.sha256 (canonicalJson (.object other.snapshot.registry.document))

/-- No publish raises after all of its lease but the last byte is written. -/
def Clean (system : System) (input : Input) : Prop :=
  input = .raise → ∀ encoded offset, system.publisher.stage = .leasing encoded offset →
    offset + 1 < (leaseData session (system.publisher.generation + 1) encoded).length

end Laws

section Documents

variable {session : Session} {value : Json} {registry : LiveRegistry} {data : List UInt8}
  {fields : List (String × Json)} {context failure : String}

theorem mappingOf_eq_ok : mappingOf value failure = .ok fields ↔ value = .object fields := by
  cases value <;> simp [mappingOf]

theorem positiveInteger_eq_ok {scalar : Scalar} {number : ℤ}
    (passed : positiveInteger scalar context = .ok number) : scalar = .integer number := by
  cases scalar with
  | integer given =>
    rw [positiveInteger] at passed
    split_ifs at passed
    cases passed
    rfl
  | boolean | string | other => cases passed

theorem scalarOfJson_eq_integer {number : ℤ} (same : scalarOfJson value = .integer number) :
    value = .integer number := by
  cases value with
  | integer given =>
    cases same
    rfl
  | null | boolean | string | array | object => cases same

/-- A document that passes the checks names its generation. -/
theorem validate_live_registry_ok (passed : validate_live_registry value = .ok registry) :
    value = .object registry.document ∧ namedGeneration value = some registry.generation := by
  simp only [validate_live_registry, bind_eq_ok, exists_unit, throw_bind, ite_throw_eq_ok,
    pure_eq_ok, List.forM_eq_forM, not_not, mappingOf_eq_ok] at passed
  obtain ⟨fields, rfl, -, -, generation, positive, state, -, -, path, -, -, -, world, -, ranks, -,
    observed, -, -, rfl⟩ := passed
  refine ⟨rfl, ?_⟩
  have named := scalarOfJson_eq_integer (positiveInteger_eq_ok positive)
  rw [entry] at named
  cases found : fields.lookup "generation" with
  | none =>
    rw [found] at named
    cases named
  | some value =>
    rw [found, Option.getD_some] at named
    rw [namedGeneration, found, named]
    rfl

theorem namedGeneration_sorted (distinct : value.Distinct) :
    namedGeneration value.sorted = namedGeneration value := by
  cases value with
  | null | boolean | integer | string | array => rfl
  | object fields =>
    rw [Json.sorted, namedGeneration, namedGeneration, lookup_sorted distinct.1]
    cases fields.lookup "generation" with
    | none => rfl
    | some value => cases value <;> rfl

/-- The generation that the bytes of a document name. -/
def generationOf (registry : Option (List UInt8)) : ℤ :=
  (((registry.bind decodeAscii).bind loads).bind namedGeneration).getD 0

theorem generationOf_canonicalJson (distinct : value.Distinct) {generation : ℤ}
    (named : namedGeneration value = some generation) :
    generationOf (some (canonicalJson value)) = generation := by
  rw [generationOf, Option.bind_some, decode_canonicalJson distinct, Option.bind_some,
    namedGeneration_sorted distinct, named, Option.getD_some]

theorem decodeJson_eq_ok (decoded : decodeJson data context = .ok value) :
    (decodeAscii data).bind loads = some value := by
  unfold decodeJson at decoded
  split at decoded
  · cases decoded
  · rename_i found
    cases decoded
    exact found
  · cases decoded

/-- What a reader makes of the bytes that were written for a document. -/
theorem readRegistry_canonicalJson (distinct : value.Distinct)
    (read : readRegistry session (some (canonicalJson value)) = .ok (data, registry)) :
    data = canonicalJson value ∧ Json.object registry.document = value.sorted ∧
      generationOf (some data) = registry.generation := by
  simp only [readRegistry, bind_eq_ok, pure_eq_ok, throw_bind, ite_throw_eq_ok, not_not,
    readRegular_eq_ok] at read
  obtain ⟨_, rfl, _, ⟨-, rfl⟩, found, decoded, validated, passed, -, shape⟩ := read
  cases shape
  obtain ⟨rfl, named⟩ := validate_live_registry_ok passed
  have same := decodeJson_eq_ok decoded
  rw [decode_canonicalJson distinct, Option.some.injEq] at same
  rw [← same, namedGeneration_sorted distinct] at named
  exact ⟨rfl, same.symm, generationOf_canonicalJson distinct named⟩

end Documents

section Leases

variable {session : Session} {generation : ℤ} {encoded : List UInt8} {count : ℕ} {lease : Lease}

theorem leaseDocument_distinct (session_uuid : String) (lease : Lease) :
    (leaseDocument session_uuid lease).Distinct := by
  refine ⟨?_, ?_⟩
  · change ["schema", "session_uuid", "registry_generation", "registry_sha256"].Nodup
    decide
  exact ⟨trivial, trivial, trivial, trivial, trivial⟩

theorem scalarEntry_sorted {fields : List (String × Json)} (nodup : (fields.map Prod.fst).Nodup)
    (name : String) :
    scalarEntry (sortFields (Json.sortedFields fields)) name = scalarEntry fields name := by
  rw [scalarEntry, scalarEntry, entry, entry, lookup_sorted nodup]
  cases fields.lookup name with
  | none => rfl
  | some value => exact scalarOfJson_sorted value

theorem digestOf_eq_ok {scalar : Scalar} {digest : String}
    (passed : digestOf scalar = .ok digest) : scalar = .string digest := by
  cases scalar with
  | string given =>
    rw [digestOf] at passed
    split_ifs at passed
    cases passed
    rfl
  | boolean | integer | other => cases passed

/-- A lease says what was written into it. -/
theorem validateLease_leaseDocument {session_uuid : String} {written : Lease}
    (passed : validateLease (leaseDocument session_uuid written).sorted = .ok lease) :
    lease = written := by
  have distinct := leaseDocument_distinct session_uuid written
  simp only [validateLease, leaseDocument, Json.sorted, bind_eq_ok, exists_unit, throw_bind,
    ite_throw_eq_ok, pure_eq_ok, not_not, mappingOf_eq_ok, Json.object.injEq] at passed
  obtain ⟨_, rfl, -, -, -, generation, positive, digest, checked, rfl⟩ := passed
  rw [scalarEntry_sorted distinct.1] at positive checked
  have first := positiveInteger_eq_ok positive
  have second := digestOf_eq_ok checked
  cases first
  cases second
  rfl

theorem decodeAscii_take {text : List Char} (ascii : ∀ char ∈ text, char.toNat < 128) (count : ℕ) :
    decodeAscii ((encodeAscii text).take count) = some (text.take count) := by
  have shape : (encodeAscii text).take count = encodeAscii (text.take count) := by
    rw [encodeAscii, encodeAscii, List.map_take]
  rw [shape]
  exact decodeAscii_encodeAscii fun char member => ascii char (List.mem_of_mem_take member)

/-- A lease that can be read is whole but for its newline, and says what was written. -/
theorem readLease_take
    (read : readLease ((leaseData session generation encoded).take count) = .ok lease) :
    (leaseData session generation encoded).length ≤ count + 1 ∧
      lease = { registry_generation := generation, registry_sha256 := session.sha256 encoded } := by
  simp only [readLease, bind_eq_ok, throw_bind, ite_throw_eq_ok] at read
  obtain ⟨-, found, decoded, passed⟩ := read
  have loaded := decodeJson_eq_ok decoded
  have distinct := (leaseDocument_distinct session.session_uuid
    { registry_generation := generation, registry_sha256 := session.sha256 encoded }).sorted
  have mapping : ∃ fields, (leaseDocument session.session_uuid
      { registry_generation := generation, registry_sha256 := session.sha256 encoded }).sorted =
      .object fields := ⟨_, rfl⟩
  rw [leaseData, canonicalJson, decodeAscii_take (dumps_ascii _), Option.bind_some] at loaded
  -- a text that loads is all of the mapping: what was cut off is at most the newline
  obtain ⟨rfl, last, front⟩ := eq_of_loads_prefix mapping distinct
    (show skipBlanks ['\n'] = [] by decide) (List.take_append_drop count _) loaded
  refine ⟨?_, validateLease_leaseDocument passed⟩
  have written (value : Json) : value.sorted.text = dumps value := rfl
  rw [written] at front
  have lengths := congrArg List.length front
  rw [List.length_take, List.length_append, List.length_append, List.length_singleton] at lengths
  rw [leaseData, canonicalJson, encodeAscii, List.length_map, List.length_append,
    List.length_singleton]
  omega

end Leases

section Invariants

variable (session : Session)

/-- What the files of one instant say of those of a later one: the generation does not decrease,
the lock is not taken again, and without it nothing is written. -/
structure Later (files after : Files) : Prop where
  generation : generationOf files.registry ≤ generationOf after.registry
  lock : after.locked = true → files.locked = true
  still : files.locked = false → after = files

/-- The registry had been read at a step. -/
def Saw (past : List Files) (since : ℕ) (data : List UInt8) (registry : LiveRegistry) : Prop :=
  readRegistry session (some data) = .ok (data, registry) ∧
    ∃ files, past[since]? = some files ∧ files.registry = some data

/-- The lock had been tried at a step, or later than that. -/
def Tried (past : List Files) (since : ℕ) (held : Bool) : Prop :=
  ∃ (instant : ℕ) (files : Files), since ≤ instant ∧ past[instant]? = some files ∧
    files.locked = held

/-- The lease had been read. -/
def Named (past : List Files) (lease : Lease) : Prop :=
  ∃ files ∈ past, readLease files.lease = .ok lease

/-- What a reader remembers was there. -/
def ReaderSound (past : List Files) : ReaderStage → Prop
  | .idle | .start => True
  | .opened since data registry => Saw session past since data registry
  | .probed since data registry held =>
    Saw session past since data registry ∧ Tried past since held
  | .leased since data registry held lease =>
    Saw session past since data registry ∧ Tried past since held ∧ Named past lease

structure ReturnedSound (system : System) (entry : Returned) : Prop where
  faithful : Faithful system entry
  generation : entry.snapshot.registry.generation ≤ generationOf system.files.registry
  named : Named system.past
    { registry_generation := entry.snapshot.registry.generation
      registry_sha256 := session.sha256 (canonicalJson (.object entry.snapshot.registry.document)) }

structure Sound (system : System) : Prop where
  ordered : (system.past ++ [system.files]).Pairwise Later
  positive : 0 ≤ system.publisher.generation
  registry : ∀ data, system.files.registry = some data →
    system.Wrote data ∧ generationOf (some data) ≤ system.publisher.generation + 1
  pending : ∀ encoded, system.publisher.stage = .prepared encoded →
    system.Wrote encoded ∧ generationOf (some encoded) = system.publisher.generation + 1
  quiet : system.files.locked = false →
    system.publisher.stage = .idle ∧ system.publisher.closed = true ∨
      system.publisher.stage = .gone
  readers : ∀ index, ReaderSound session system.past (system.readers index).stage
  returned : ∀ entry ∈ system.returned, ReturnedSound session system entry
  increasing : system.returned.Pairwise fun entry later =>
    entry.snapshot.registry.generation ≤ later.snapshot.registry.generation

end Invariants

section Histories

variable {session : Session} {past : List Files} {files after third : Files} {first second : ℕ}
  {data : List UInt8} {registry : LiveRegistry} {held : Bool} {lease : Lease} {stage : ReaderStage}

theorem Later.refl (files : Files) : Later files files := ⟨le_rfl, id, fun _ => rfl⟩

theorem Later.trans (later : Later files after) (next : Later after third) :
    Later files third where
  generation := later.generation.trans next.generation
  lock held := later.lock (next.lock held)
  still free := by
    have same := later.still free
    rw [next.still (by rw [same]; exact free), same]

theorem later_of_le (ordered : past.Pairwise Later) (found : past[first]? = some files)
    (foundAfter : past[second]? = some after) (le : first ≤ second) : Later files after := by
  rcases Nat.lt_or_eq_of_le le with lt | rfl
  · obtain ⟨inside, rfl⟩ := List.getElem?_eq_some_iff.mp found
    obtain ⟨insideAfter, rfl⟩ := List.getElem?_eq_some_iff.mp foundAfter
    exact List.pairwise_iff_getElem.mp ordered first second inside insideAfter lt
  · rw [found, Option.some.injEq] at foundAfter
    rw [foundAfter]
    exact .refl _

theorem later_now (ordered : (past ++ [files]).Pairwise Later)
    (found : past[first]? = some after) : Later after files :=
  (List.pairwise_append.mp ordered).2.2 after (List.mem_of_getElem? found) files
    List.mem_cons_self

theorem getElem?_append_of_some (found : past[first]? = some files) (more : List Files) :
    (past ++ more)[first]? = some files := by
  obtain ⟨inside, -⟩ := List.getElem?_eq_some_iff.mp found
  rw [List.getElem?_append_left inside, found]

theorem getElem?_now (past : List Files) (files : Files) :
    (past ++ [files])[past.length]? = some files := by
  rw [List.getElem?_append_right le_rfl, Nat.sub_self]
  rfl

/-- The past gets longer. -/
theorem ordered_next (ordered : (past ++ [files]).Pairwise Later) (later : Later files after) :
    (past ++ [files] ++ [after]).Pairwise Later := by
  refine List.pairwise_append.mpr ⟨ordered, List.pairwise_singleton _ _, ?_⟩
  intro before member last same
  rw [List.mem_singleton.mp same]
  rcases List.mem_append.mp member with inside | now
  · exact ((List.pairwise_append.mp ordered).2.2 before inside files List.mem_cons_self).trans later
  · rw [List.mem_singleton.mp now]
    exact later

theorem Saw.append (saw : Saw session past first data registry) (more : List Files) :
    Saw session (past ++ more) first data registry := by
  obtain ⟨read, files, found, same⟩ := saw
  exact ⟨read, files, getElem?_append_of_some found more, same⟩

theorem Tried.append (tried : Tried past first held) (more : List Files) :
    Tried (past ++ more) first held := by
  obtain ⟨instant, files, le, found, same⟩ := tried
  exact ⟨instant, files, le, getElem?_append_of_some found more, same⟩

theorem Named.append (named : Named past lease) (more : List Files) :
    Named (past ++ more) lease := by
  obtain ⟨files, member, read⟩ := named
  exact ⟨files, List.mem_append_left _ member, read⟩

theorem ReaderSound.append (sound : ReaderSound session past stage) (more : List Files) :
    ReaderSound session (past ++ more) stage := by
  cases stage with
  | idle | start => trivial
  | opened => exact Saw.append sound more
  | probed => exact ⟨sound.1.append more, sound.2.append more⟩
  | leased => exact ⟨sound.1.append more, sound.2.1.append more, sound.2.2.append more⟩

theorem readerSound_failed (reader : Reader) (sound : ReaderSound session past reader.stage) :
    ReaderSound session past reader.failed.stage := by
  unfold Reader.failed
  split
  · exact sound
  · trivial
  · trivial

theorem readRegistry_eq_ok {found : Option (List UInt8)}
    (read : readRegistry session found = .ok (data, registry)) : found = some data := by
  cases found with
  | none => cases read
  | some bytes =>
    simp only [readRegistry, bind_eq_ok, pure_eq_ok, throw_bind, ite_throw_eq_ok, not_not,
      readRegular_eq_ok] at read
    obtain ⟨_, rfl, _, ⟨-, rfl⟩, found, decoded, validated, passed, -, shape⟩ := read
    cases shape
    rfl

theorem confirm_eq_ok {found : Option (List UInt8)}
    (confirmed : confirm session data registry lease found = .ok ()) :
    found = some data ∧
      lease = { registry_generation := registry.generation
                registry_sha256 := session.sha256 data } := by
  cases found with
  | none => cases confirmed
  | some bytes =>
    simp only [confirm, bind_eq_ok, pure_eq_ok, throw_bind, ite_throw_eq_ok, not_not,
      readRegular_eq_ok] at confirmed
    obtain ⟨_, rfl, _, ⟨-, rfl⟩, rfl, generation, digest, -⟩ := confirmed
    refine ⟨rfl, ?_⟩
    rw [← generation, ← digest]

end Histories

section Steps

variable {session : Session} {system : System}

theorem Faithful.extend {entry : Returned} (faithful : Faithful system entry) {after : System}
    (accepted : system.accepted ⊆ after.accepted)
    (past : ∃ more, after.past = system.past ++ more) : Faithful after entry := by
  obtain ⟨value, member, whole⟩ := faithful.whole
  obtain ⟨instant, files, above, below, found, rest⟩ := faithful.held
  obtain ⟨more, shape⟩ := past
  refine ⟨⟨value, accepted member, whole⟩, instant, files, above, below, ?_, rest⟩
  rw [shape]
  exact getElem?_append_of_some found more

/-- The publisher or its files change. -/
theorem Sound.written (sound : Sound session system) {publisher : LiveRegistryPublisher}
    {files : Files} {accepted : List Published} (kept : system.accepted ⊆ accepted)
    (later : Later system.files files) (positive : 0 ≤ publisher.generation)
    (registry : ∀ data, files.registry = some data →
      (∃ value ∈ accepted, data = canonicalJson value.val) ∧
        generationOf (some data) ≤ publisher.generation + 1)
    (pending : ∀ encoded, publisher.stage = .prepared encoded →
      (∃ value ∈ accepted, encoded = canonicalJson value.val) ∧
        generationOf (some encoded) = publisher.generation + 1)
    (quiet : files.locked = false →
      publisher.stage = .idle ∧ publisher.closed = true ∨ publisher.stage = .gone) :
    Sound session { system with
      publisher := publisher
      files := files
      accepted := accepted
      past := system.past ++ [system.files] } where
  ordered := ordered_next sound.ordered later
  positive := positive
  registry := registry
  pending := pending
  quiet := quiet
  readers index := (sound.readers index).append _
  returned entry member := by
    have before := sound.returned entry member
    exact ⟨before.faithful.extend kept ⟨_, rfl⟩, before.generation.trans later.generation,
      before.named.append _⟩
  increasing := sound.increasing

/-- Nothing but time goes on. -/
theorem Sound.waited (sound : Sound session system) :
    Sound session { system with past := system.past ++ [system.files] } :=
  sound.written (List.Subset.refl _) (.refl _) sound.positive sound.registry sound.pending
    sound.quiet

/-- A reader goes on. -/
theorem Sound.reader (sound : Sound session system) {index : ℕ} {reader : Reader}
    (holds : ReaderSound session system.past reader.stage) :
    Sound session { system with readers := Function.update system.readers index reader } where
  ordered := sound.ordered
  positive := sound.positive
  registry := sound.registry
  pending := sound.pending
  quiet := sound.quiet
  readers other := by
    change ReaderSound session system.past (Function.update system.readers index reader other).stage
    by_cases same : other = index
    · rw [same, Function.update_self]
      exact holds
    · rw [Function.update_of_ne same]
      exact sound.readers other
  returned entry member := by
    have before := sound.returned entry member
    exact ⟨before.faithful.extend (List.Subset.refl _) ⟨[], (List.append_nil _).symm⟩,
      before.generation, before.named⟩
  increasing := sound.increasing

/-- A snapshot is returned. -/
theorem Sound.returns (sound : Sound session system) {entry : Returned}
    (holds : ReturnedSound session system entry)
    (current : generationOf system.files.registry = entry.snapshot.registry.generation) :
    Sound session { system with returned := system.returned ++ [entry] } where
  ordered := sound.ordered
  positive := sound.positive
  registry := sound.registry
  pending := sound.pending
  quiet := sound.quiet
  readers := sound.readers
  returned other member := by
    have before : ReturnedSound session system other := by
      rcases List.mem_append.mp member with inside | last
      · exact sound.returned other inside
      · rw [List.mem_singleton.mp last]
        exact holds
    exact ⟨before.faithful.extend (List.Subset.refl _) ⟨[], (List.append_nil _).symm⟩,
      before.generation, before.named⟩
  increasing := by
    -- no generation that was returned is above that of the registry now
    refine List.pairwise_append.mpr ⟨sound.increasing, List.pairwise_singleton _ _, ?_⟩
    intro other member last same
    rw [List.mem_singleton.mp same, ← current]
    exact (sound.returned other member).generation

theorem publish_eq_ok {publisher : LiveRegistryPublisher} {value : Json} {encoded : List UInt8}
    (passed : publisher.publish session value = .ok encoded) :
    publisher.closed = false ∧ namedGeneration value = some (publisher.generation + 1) ∧
      encoded = canonicalJson value := by
  simp only [LiveRegistryPublisher.publish, bind_eq_ok, pure_eq_ok, throw_bind, ite_throw_eq_ok,
    not_not, Bool.not_eq_true] at passed
  obtain ⟨opened, named, _, -, -, rfl⟩ := passed
  exact ⟨opened, named, rfl⟩

theorem Sound.publish (sound : Sound session system) (value : Published) :
    Sound session (Registry.step session system (.publish value)) := by
  simp only [Registry.step, System.act, System.publish]
  split
  · rename_i encoded idle passed
    obtain ⟨opened, named, rfl⟩ := publish_eq_ok passed
    refine sound.written (List.subset_append_left _ _) (.refl _) sound.positive ?_ ?_ ?_
    · intro data same
      obtain ⟨⟨value, member, shape⟩, below⟩ := sound.registry data same
      exact ⟨⟨value, List.mem_append_left _ member, shape⟩, below⟩
    · intro _ shape
      cases shape
      exact ⟨⟨value, List.mem_append_right _ List.mem_cons_self, rfl⟩,
        generationOf_canonicalJson value.property named⟩
    · -- a publisher that accepts a document is open, so it holds the lock
      intro free
      rcases sound.quiet free with ⟨-, closed⟩ | gone
      · rw [opened] at closed
        cases closed
      · rw [idle] at gone
        cases gone
  · exact sound.waited

/-- The publisher writes while it holds the lock. -/
theorem Sound.writtenLocked (sound : Sound session system) {publisher : LiveRegistryPublisher}
    {files : Files} (before : system.files.locked = true) (held : files.locked = true)
    (later : generationOf system.files.registry ≤ generationOf files.registry)
    (positive : 0 ≤ publisher.generation)
    (registry : ∀ data, files.registry = some data →
      system.Wrote data ∧ generationOf (some data) ≤ publisher.generation + 1)
    (pending : ∀ encoded, publisher.stage ≠ .prepared encoded) :
    Sound session { system with
      publisher := publisher
      files := files
      past := system.past ++ [system.files] } := by
  refine sound.written (List.Subset.refl _) ⟨later, fun _ => before, ?_⟩ positive registry ?_ ?_
  · intro free
    rw [before] at free
    cases free
  · intro encoded found
    exact absurd found (pending encoded)
  · intro free
    rw [held] at free
    cases free

theorem Sound.advance (sound : Sound session system) (count : ℕ) :
    Sound session (Registry.step session system (.advance count)) := by
  -- whoever has work to do holds the lock
  have held (stage : Stage) (found : system.publisher.stage = stage) (idle : stage ≠ .idle)
      (gone : stage ≠ .gone) : system.files.locked = true := by
    by_contra free
    rcases sound.quiet (by simpa using free) with ⟨there, -⟩ | there
    · exact idle (found.symm.trans there)
    · exact gone (found.symm.trans there)
  have positive := sound.positive
  simp only [Registry.step, System.act, Registry.advance]
  split
  · exact sound.waited
  · exact sound.waited
  · rename_i encoded found
    obtain ⟨wrote, generation⟩ := sound.pending encoded found
    have locked := held _ found (by simp) (by simp)
    refine sound.writtenLocked locked locked ?_ positive ?_ (by simp)
    · -- the document that is replaced is at most one generation ahead of the counter
      rw [generation]
      cases before : system.files.registry with
      | none =>
        change (0 : ℤ) ≤ _
        omega
      | some data => exact (sound.registry data before).2
    · intro data same
      cases same
      exact ⟨wrote, generation.le⟩
  · rename_i encoded found
    have locked := held _ found (by simp) (by simp)
    exact sound.writtenLocked locked locked le_rfl positive sound.registry (by simp)
  · rename_i encoded offset found
    have locked := held _ found (by simp) (by simp)
    split
    · exact sound.writtenLocked locked locked le_rfl positive sound.registry (by simp)
    · refine sound.writtenLocked locked locked le_rfl ?_ ?_ (by simp)
      · change 0 ≤ system.publisher.generation + 1
        omega
      · intro data same
        obtain ⟨wrote, below⟩ := sound.registry data same
        refine ⟨wrote, ?_⟩
        change generationOf (some data) ≤ system.publisher.generation + 1 + 1
        omega

/-- The lock is given back, and nothing is written after that. -/
theorem Sound.unlocked (sound : Sound session system) {publisher : LiveRegistryPublisher}
    (same : publisher.generation = system.publisher.generation)
    (done : publisher.stage = .idle ∧ publisher.closed = true ∨ publisher.stage = .gone) :
    Sound session { system with
      publisher := publisher
      files := { system.files with locked := false }
      past := system.past ++ [system.files] } := by
  refine sound.written (List.Subset.refl _) ⟨le_rfl, ?_, ?_⟩ ?_ ?_ ?_ fun _ => done
  · intro held
    cases held
  · intro free
    rw [← free]
  · rw [same]
    exact sound.positive
  · rw [same]
    exact sound.registry
  · intro encoded found
    rcases done with ⟨idle, -⟩ | gone
    · rw [idle] at found
      cases found
    · rw [gone] at found
      cases found

theorem raised_generation (publisher : LiveRegistryPublisher) :
    publisher.raised.generation = publisher.generation := by
  unfold LiveRegistryPublisher.raised
  split <;> rfl

/-- After an exception nothing is under way. -/
theorem raised_stage (publisher : LiveRegistryPublisher) :
    publisher.raised.stage = .idle ∧ publisher.stage ≠ .gone ∨
      publisher.raised.stage = .gone ∧ publisher.stage = .gone := by
  unfold LiveRegistryPublisher.raised
  split
  · rename_i gone
    exact .inr ⟨gone, gone⟩
  · rename_i alive
    exact .inl ⟨rfl, alive⟩

theorem Sound.raise (sound : Sound session system) :
    Sound session (Registry.step session system .raise) := by
  simp only [Registry.step, System.act]
  refine sound.written (List.Subset.refl _) (.refl _) ?_ ?_ ?_ ?_
  · rw [raised_generation]
    exact sound.positive
  · rw [raised_generation]
    exact sound.registry
  · intro encoded found
    rcases raised_stage system.publisher with ⟨idle, -⟩ | ⟨gone, -⟩
    · rw [idle] at found
      cases found
    · rw [gone] at found
      cases found
  · intro free
    unfold LiveRegistryPublisher.raised
    rcases sound.quiet free with ⟨idle, closed⟩ | gone
    · rw [idle]
      exact .inl ⟨rfl, closed⟩
    · rw [gone]
      exact .inr gone

/-- A snapshot that is confirmed is faithful. -/
theorem Sound.confirmed (sound : Sound session system) {since : ℕ} {data : List UInt8}
    {registry : LiveRegistry} {held : Bool} {lease : Lease}
    (reader : ReaderSound session system.past (.leased since data registry held lease))
    (confirmed : confirm session data registry lease system.files.registry = .ok ()) :
    ReturnedSound session { system with past := system.past ++ [system.files] }
        { snapshot := { registry := registry, lease_held := held }
          since := since
          till := system.past.length } ∧
      generationOf system.files.registry = registry.generation := by
  obtain ⟨⟨read, first, found, seen⟩, ⟨instant, tried, above, there, flag⟩, named⟩ := reader
  obtain ⟨current, rfl⟩ := confirm_eq_ok confirmed
  obtain ⟨⟨value, member, rfl⟩, -⟩ := sound.registry data current
  obtain ⟨-, whole, generation⟩ := readRegistry_canonicalJson value.property read
  have bytes : canonicalJson (.object registry.document) = canonicalJson value.val := by
    rw [whole, canonicalJson_sorted]
  have inside := List.getElem?_eq_some_iff.mp there
  rw [current]
  refine ⟨⟨⟨⟨value, member, whole⟩, ?_⟩, ?_, ?_⟩, generation⟩
  · cases held with
    | true =>
      -- the lock was held at all earlier instants, so also when the document was read first
      have earlier := later_of_le (List.pairwise_append.mp sound.ordered).1 found there above
      refine ⟨since, first, le_rfl, ?_, getElem?_append_of_some found _, ?_, earlier.lock flag⟩
      · exact above.trans inside.1.le
      · rw [seen, bytes]
    | false =>
      -- nothing was written since the lock was free
      have later := (later_now sound.ordered there).still flag
      refine ⟨instant, tried, above, inside.1.le, getElem?_append_of_some there _, ?_, flag⟩
      rw [← later, current, bytes]
  · change registry.generation ≤ generationOf system.files.registry
    rw [current, generation]
  · change Named (system.past ++ [system.files])
      { registry_generation := registry.generation
        registry_sha256 := session.sha256 (canonicalJson (.object registry.document)) }
    rw [bytes]
    exact named.append _

/-- What an access leads to: the reader goes on with what is there, or it returns. -/
theorem access_cases {past : List Files} (files : Files) (reader : Reader)
    (sound : ReaderSound session past reader.stage) :
    ((reader.access session past.length files).2 = none ∧
        ReaderSound session (past ++ [files]) (reader.access session past.length files).1.stage) ∨
      ∃ since data registry held lease,
        reader.stage = .leased since data registry held lease ∧
        confirm session data registry lease files.registry = .ok () ∧
        reader.access session past.length files =
          ({ reader with stage := .idle }, some { registry := registry, lease_held := held }) := by
  have failed := readerSound_failed reader (sound.append [files])
  unfold Reader.access
  cases found : reader.stage with
  | idle =>
    rw [found] at sound
    exact .inl ⟨rfl, by rw [found]; exact sound.append [files]⟩
  | start =>
    dsimp only
    split
    · rename_i data registry read
      have same := readRegistry_eq_ok read
      rw [same] at read
      exact .inl ⟨rfl, read, files, getElem?_now past files, same⟩
    · exact .inl ⟨rfl, failed⟩
  | opened since data registry =>
    rw [found] at sound
    have saw : Saw session past since data registry := sound
    have kept := saw.append [files]
    obtain ⟨-, first, there, -⟩ := saw
    have inside := List.getElem?_eq_some_iff.mp there
    exact .inl ⟨rfl, kept, past.length, files, inside.1.le, getElem?_now past files,
      rfl⟩
  | probed since data registry held =>
    rw [found] at sound
    dsimp only
    split
    · rename_i lease read
      exact .inl ⟨rfl, sound.1.append [files], sound.2.append [files], files,
        List.mem_append_right _ List.mem_cons_self, read⟩
    · exact .inl ⟨rfl, failed⟩
  | leased since data registry held lease =>
    dsimp only
    split
    · rename_i confirmed
      exact .inr ⟨since, data, registry, held, lease, rfl, confirmed, rfl⟩
    · exact .inl ⟨rfl, failed⟩

theorem Sound.access (sound : Sound session system) (index : ℕ) :
    Sound session (Registry.step session system (.access index)) := by
  have before := sound.readers index
  simp only [Registry.step, System.act, System.access]
  rcases access_cases system.files (system.readers index) before with
    ⟨silent, holds⟩ | ⟨since, data, registry, held, lease, found, confirmed, shape⟩
  · rw [silent]
    simp only [Option.toList_none, List.map_nil, List.append_nil]
    exact sound.waited.reader holds
  · rw [found] at before
    obtain ⟨returned, current⟩ := sound.confirmed before confirmed
    rw [shape, found]
    exact (sound.waited.returns returned current).reader trivial

theorem Sound.step (sound : Sound session system) (input : Input) :
    Sound session (Registry.step session system input) := by
  cases input with
  | publish value => exact sound.publish value
  | advance count => exact sound.advance count
  | raise => exact sound.raise
  | close =>
    simp only [Registry.step, System.act, Registry.close]
    split
    · exact sound.unlocked rfl (.inl ⟨‹_›, rfl⟩)
    · exact sound.waited
  | kill => exact sound.unlocked rfl (.inr rfl)
  | call index retries =>
    refine sound.waited.reader ?_
    have before := (sound.readers index).append [system.files]
    unfold Reader.call
    split
    · trivial
    · exact before
  | access index => exact sound.access index
  | disturb index =>
    exact sound.waited.reader (readerSound_failed _ ((sound.readers index).append _))

theorem sound_boot (session : Session) : Sound session boot where
  ordered := List.pairwise_singleton _ _
  positive := le_rfl
  registry _ found := by cases found
  pending _ found := by cases found
  quiet free := by cases free
  readers _ := trivial
  returned _ member := by cases member
  increasing := .nil

end Steps

section Agreement

variable {session : Session} {system : System} {lease : Lease}

/-- All of the lease that is being written can be read. -/
def Readable (session : Session) (publisher : LiveRegistryPublisher) (lease : Lease) : Prop :=
  ∃ encoded offset, publisher.stage = .leasing encoded offset ∧
    (leaseData session (publisher.generation + 1) encoded).length ≤ offset + 1 ∧
    lease = { registry_generation := publisher.generation + 1
              registry_sha256 := session.sha256 encoded }

/-- The leases that could be read so far name one digest to a generation, and no generation that
is still to come. -/
structure Unanimous (session : Session) (system : System) : Prop where
  same : ∀ first second, Named (system.past ++ [system.files]) first →
    Named (system.past ++ [system.files]) second →
    first.registry_generation = second.registry_generation → first = second
  current : system.publisher.stage ≠ .gone → ∀ lease, Named (system.past ++ [system.files]) lease →
    lease.registry_generation ≤ system.publisher.generation ∨
      Readable session system.publisher lease
  written : ∀ encoded offset, system.publisher.stage = .leasing encoded offset →
    system.files.lease =
      (leaseData session (system.publisher.generation + 1) encoded).take offset

theorem named_next {past : List Files} {after : Files} (named : Named (past ++ [after]) lease) :
    Named past lease ∨ readLease after.lease = .ok lease := by
  obtain ⟨files, member, read⟩ := named
  rcases List.mem_append.mp member with inside | now
  · exact .inl ⟨files, inside, read⟩
  · rw [List.mem_singleton.mp now] at read
    exact .inr read

/-- While no lease is written, those that could be read name no generation to come. -/
theorem Unanimous.below (unanimous : Unanimous session system)
    (alive : system.publisher.stage ≠ .gone)
    (unwritten : ∀ encoded offset, system.publisher.stage ≠ .leasing encoded offset)
    (named : Named (system.past ++ [system.files]) lease) :
    lease.registry_generation ≤ system.publisher.generation := by
  rcases unanimous.current alive lease named with below | ⟨encoded, offset, stage, -⟩
  · exact below
  · exact absurd stage (unwritten encoded offset)

/-- The lease is left as it is. -/
theorem Unanimous.kept (unanimous : Unanimous session system) {after : System}
    (past : after.past = system.past ++ [system.files])
    (same : after.files.lease = system.files.lease)
    (current : after.publisher.stage ≠ .gone → ∀ lease,
      Named (system.past ++ [system.files]) lease →
        lease.registry_generation ≤ after.publisher.generation ∨
          Readable session after.publisher lease)
    (written : ∀ encoded offset, after.publisher.stage = .leasing encoded offset →
      after.files.lease =
        (leaseData session (after.publisher.generation + 1) encoded).take offset) :
    Unanimous session after := by
  have back (lease : Lease) (named : Named (after.past ++ [after.files]) lease) :
      Named (system.past ++ [system.files]) lease := by
    rw [past] at named
    rcases named_next named with before | read
    · exact before
    · exact ⟨system.files, List.mem_append_right _ List.mem_cons_self, by rw [← same]; exact read⟩
  exact ⟨fun first second named other => unanimous.same first second (back _ named) (back _ other),
    fun alive lease named => current alive lease (back lease named), written⟩

/-- The publisher and the lease are left as they are. -/
theorem Unanimous.waited (unanimous : Unanimous session system) {after : System}
    (past : after.past = system.past ++ [system.files])
    (lease : after.files.lease = system.files.lease)
    (publisher : after.publisher = system.publisher) : Unanimous session after := by
  refine unanimous.kept past lease ?_ ?_
  · rw [publisher]
    exact unanimous.current
  · rw [publisher, lease]
    exact unanimous.written

/-- The lease is rewritten; if it can be read, it is the one of the publish under way. -/
theorem Unanimous.rewritten (unanimous : Unanimous session system) {after : System}
    (past : after.past = system.past ++ [system.files])
    (alive : system.publisher.stage ≠ .gone)
    (generation : after.publisher.generation = system.publisher.generation)
    (goes : ∀ lease, Readable session system.publisher lease →
      Readable session after.publisher lease)
    (written : ∀ encoded offset, after.publisher.stage = .leasing encoded offset →
      after.files.lease =
        (leaseData session (after.publisher.generation + 1) encoded).take offset)
    (readable : ∀ lease, readLease after.files.lease = .ok lease →
      Readable session after.publisher lease) :
    Unanimous session after := by
  have one {first second : Lease} (here : Readable session after.publisher first)
      (there : Readable session after.publisher second) : first = second := by
    obtain ⟨encoded, offset, stage, -, rfl⟩ := here
    obtain ⟨other, count, again, -, rfl⟩ := there
    rw [stage] at again
    cases again
    rfl
  have named (lease : Lease) (named : Named (after.past ++ [after.files]) lease) :
      Named (system.past ++ [system.files]) lease ∧
          lease.registry_generation ≤ after.publisher.generation ∨
        Readable session after.publisher lease := by
    rw [past] at named
    rcases named_next named with before | read
    · rcases unanimous.current alive lease before with below | there
      · exact .inl ⟨before, by rw [generation]; exact below⟩
      · exact .inr (goes lease there)
    · exact .inr (readable lease read)
  have above {lease : Lease} (there : Readable session after.publisher lease) :
      after.publisher.generation < lease.registry_generation := by
    obtain ⟨encoded, offset, -, -, rfl⟩ := there
    exact Int.lt_add_one_iff.mpr le_rfl
  refine ⟨?_, fun _ lease given => (named lease given).imp And.right id, written⟩
  intro first second here there equal
  -- a lease of the past and the one under way differ in their generations
  rcases named first here with ⟨before, below⟩ | new <;>
    rcases named second there with ⟨beforeSecond, belowSecond⟩ | newSecond
  · exact unanimous.same first second before beforeSecond equal
  · have := above newSecond
    omega
  · have := above new
    omega
  · exact one new newSecond

theorem readLease_nil : readLease [] ≠ .ok lease := by
  intro read
  cases read

theorem Unanimous.advance (unanimous : Unanimous session system) (count : ℕ) :
    Unanimous session (Registry.step session system (.advance count)) := by
  simp only [Registry.step, System.act, Registry.advance]
  split
  · exact unanimous.waited rfl rfl rfl
  · exact unanimous.waited rfl rfl rfl
  · rename_i encoded found
    refine unanimous.kept rfl rfl ?_ ?_
    · intro _ lease named
      exact .inl (unanimous.below (by rw [found]; simp) (by rw [found]; simp) named)
    · intro _ _ stage
      cases stage
  · rename_i encoded found
    refine unanimous.rewritten rfl (by rw [found]; simp) rfl ?_ ?_ ?_
    · rintro lease ⟨other, offset, stage, -⟩
      rw [found] at stage
      cases stage
    · intro other offset stage
      cases stage
      rfl
    · intro lease read
      exact absurd read readLease_nil
  · rename_i encoded offset found
    split
    · rename_i short
      -- the offset of the next write is capped by the length of the lease
      have reaches {length : ℕ} (whole : length ≤ offset + count + 1) :
          length ≤ min (offset + count) length + 1 := by
        omega
      refine unanimous.rewritten rfl (by rw [found]; simp) rfl ?_ ?_ ?_
      · rintro lease ⟨other, before, stage, whole, shape⟩
        rw [found] at stage
        cases stage
        exact ⟨encoded, _, rfl, reaches (whole.trans (by omega)), shape⟩
      · intro other next stage
        cases stage
        exact List.take_eq_take_min
      · intro lease read
        obtain ⟨whole, shape⟩ := readLease_take read
        exact ⟨encoded, _, rfl, reaches whole, shape⟩
    · rename_i done
      refine unanimous.kept rfl rfl ?_ ?_
      · intro _ lease named
        have alive : system.publisher.stage ≠ .gone := by rw [found]; simp
        left
        change lease.registry_generation ≤ system.publisher.generation + 1
        rcases unanimous.current alive lease named with below | ⟨other, offset, -, -, rfl⟩
        · omega
        · exact le_rfl
      · intro _ _ stage
        cases stage

theorem Unanimous.step (unanimous : Unanimous session system) {input : Input}
    (clean : Clean session system input) :
    Unanimous session (Registry.step session system input) := by
  cases input with
  | advance count => exact unanimous.advance count
  | publish value =>
    simp only [Registry.step, System.act, System.publish]
    split
    · rename_i encoded idle passed
      refine unanimous.kept rfl rfl ?_ ?_
      · intro _ lease named
        exact .inl (unanimous.below (by rw [idle]; simp) (by rw [idle]; simp) named)
      · intro _ _ stage
        cases stage
    · exact unanimous.waited rfl rfl rfl
  | raise =>
    refine unanimous.kept rfl rfl ?_ ?_
    · intro alive lease named
      have before : system.publisher.stage ≠ .gone := by
        rcases raised_stage system.publisher with ⟨-, before⟩ | ⟨gone, -⟩
        · exact before
        · exact absurd gone alive
      rcases unanimous.current before lease named with below | ⟨encoded, offset, stage, whole, -⟩
      · refine .inl ?_
        change lease.registry_generation ≤ system.publisher.raised.generation
        rw [raised_generation]
        exact below
      · -- the run is clean: what there is of the lease cannot be read
        have short := clean rfl encoded offset stage
        omega
    · intro encoded offset stage
      change system.publisher.raised.stage = .leasing encoded offset at stage
      rcases raised_stage system.publisher with ⟨idle, -⟩ | ⟨gone, -⟩
      · rw [idle] at stage
        cases stage
      · rw [gone] at stage
        cases stage
  | close =>
    simp only [Registry.step, System.act, Registry.close]
    split
    · exact unanimous.kept rfl rfl unanimous.current unanimous.written
    · exact unanimous.waited rfl rfl rfl
  | kill =>
    refine unanimous.kept rfl rfl (fun alive => absurd rfl alive) ?_
    intro _ _ stage
    cases stage
  | call => exact unanimous.waited rfl rfl rfl
  | access => exact unanimous.waited rfl rfl rfl
  | disturb => exact unanimous.waited rfl rfl rfl

theorem unanimous_boot (session : Session) : Unanimous session boot := by
  have unnamed (lease : Lease) (named : Named (boot.past ++ [boot.files]) lease) : False := by
    obtain ⟨files, member, read⟩ := named
    rw [List.mem_singleton.mp member] at read
    exact readLease_nil read
  refine ⟨fun first _ named => absurd named (unnamed first),
    fun _ lease named => absurd named (unnamed lease), ?_⟩
  intro _ _ stage
  cases stage

/-- In every run snapshots are documents that were published, and come in the order of their
generations. In a clean run those of one generation have one digest. -/
theorem snapshotLaw_of_run (session : Session) (inputs : List Input) :
    SnapshotLaw (runFrom (step session) boot inputs) ∧
      (Meets (step session) (Clean session) boot inputs →
        Agree session (runFrom (step session) boot inputs)) := by
  have sound := invariant_runFrom (step session) (Sound session) (fun _ input held =>
    held.step input) (sound_boot session) inputs
  refine ⟨⟨fun entry member => (sound.returned entry member).faithful, sound.increasing⟩, ?_⟩
  intro clean entry member other also same
  -- what was returned had been named by a lease, and leases of one generation agree
  have unanimous := invariant_of_meets (step session) (Unanimous session) (fun _ _ held meets =>
    held.step meets) (unanimous_boot session) clean
  have equal := unanimous.same _ _ ((sound.returned entry member).named.append _)
    ((sound.returned other also).named.append _) same
  exact congrArg Lease.registry_sha256 equal

end Agreement

end GemSim.Registry
