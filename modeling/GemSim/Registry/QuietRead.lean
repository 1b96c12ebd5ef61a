import GemSim.CodeObject.Sha256
import GemSim.Registry.SnapshotLaw

/-!
# Reading a registry at rest

A publish that goes through leaves a registry and a lease that agree. As long as nothing is done to
the files, the first attempt of a reader succeeds: it returns the document that was published last,
with the state of the lock. This is so after the process of the publisher has ended as well.

## Main definitions

* `Canonical` — the form of identifiers and digests
* `Undisturbed` — no publish is broken off
* `Latest`, `Brought` — the document that was published last, and what is in the files
* `QuietRead` — what an attempt returns that nothing comes between

## Main results

* `validate_live_registry_sorted` — the checks do not depend on the order of the entries
* `readLease_leaseData` — a lease is read as it was written
* `quietRead_of_run`
-/

namespace GemSim.Registry

open GemSim.Lib GemSim.Lib.Checks

section Laws

variable (session : Session)

/-- Identifiers and digests have the form that a lease asks for. -/
structure Canonical : Prop where
  uuid : session.session_uuid.toList.length = 32 ∧
    session.session_uuid.toList.all lowercaseHex = true ∧
    session.session_uuid.toList ≠ List.replicate 32 '0'
  digest : ∀ data, (session.sha256 data).toList.length = 64 ∧
    (session.sha256 data).toList.all lowercaseHex = true

/-- Neither an exception nor the end of the process breaks off a publish. -/
def Undisturbed (system : System) (input : Input) : Prop :=
  input = .raise ∨ input = .kill →
    system.publisher.stage = .idle ∨ system.publisher.stage = .gone

/-- The number and the bytes of the document whose publish was accepted last. -/
def Latest (accepted : List Published) (generation : ℤ) (encoded : List UInt8) : Prop :=
  ∃ value registry, accepted.getLast? = some value ∧ encoded = canonicalJson value.val ∧
    validate_live_registry value.val = .ok registry ∧
    parsePath registry.lease_path.toList = session.lease_path ∧
    registry.generation = generation

/-- What a publisher at a stage has brought into the files. -/
def BroughtAt (accepted : List Published) (generation : ℤ) (files : Files) : Stage → Prop
  | .idle | .gone => accepted = [] ∨ ∃ encoded, Latest session accepted generation encoded ∧
      files.registry = some encoded ∧ files.lease = leaseData session generation encoded
  | .prepared encoded => Latest session accepted (generation + 1) encoded
  | .renamed encoded =>
    Latest session accepted (generation + 1) encoded ∧ files.registry = some encoded
  | .leasing encoded offset =>
    Latest session accepted (generation + 1) encoded ∧ files.registry = some encoded ∧
      files.lease = (leaseData session (generation + 1) encoded).take offset

def Brought (system : System) : Prop :=
  BroughtAt session system.accepted system.publisher.generation system.files system.publisher.stage

/-- An attempt that nothing comes between returns the document that was published last. -/
def QuietRead (system : System) : Prop :=
  ∀ value index attempts, system.accepted.getLast? = some value →
    (system.publisher.stage = .idle ∨ system.publisher.stage = .gone) →
    (canonicalJson value.val).length ≤ MAX_DOCUMENT_BYTES →
    system.files.lease.length ≤ MAX_DOCUMENT_BYTES →
    system.readers index = { stage := .start, attempts := attempts } →
    ∃ registry : LiveRegistry, Json.object registry.document = value.val.sorted ∧
      validate_live_registry value.val.sorted = .ok registry ∧
      (runFrom (step session) system (List.replicate 4 (.access index))).returned =
        system.returned ++
          [{ snapshot := { registry := registry, lease_held := system.files.locked }
             since := system.past.length
             till := system.past.length + 3 }]

end Laws

section Checks

variable {fields : List (String × Json)} {name : String} {value : Json} {state : String} {world : ℤ}
  {ranks : List Json} {registry : LiveRegistry}

theorem asInteger_sorted (value : Json) : asInteger value.sorted = asInteger value := by
  cases value <;> rfl

theorem unlessNull_sorted (value : Json) (check : Except RegistryError Unit) :
    unlessNull value.sorted check = unlessNull value check := by
  cases value <;> rfl

theorem entry_sorted (nodup : (fields.map Prod.fst).Nodup) (name : String) :
    entry (sortFields (Json.sortedFields fields)) name = (entry fields name).sorted := by
  rw [entry, entry, lookup_sorted nodup]
  cases fields.lookup name <;> rfl

theorem entry_distinct (distinct : Json.DistinctFields fields) (name : String) :
    (entry fields name).Distinct := by
  rw [entry]
  cases found : fields.lookup name with
  | none => trivial
  | some value => exact distinctFields_iff.mp distinct _ (mem_of_lookup found)

/-- The checks of a rank do not depend on the order of its entries. -/
theorem validateRegistryRank_sorted (distinct : value.Distinct) :
    validateRegistryRank state world value.sorted = validateRegistryRank state world value := by
  cases value with
  | null | boolean | integer | string | array => rfl
  | object fields =>
    have names := exactKeys_perm (names_sorted fields)
    have scalars := scalarEntry_sorted distinct.1
    have entries := entry_sorted distinct.1
    have found (fields : List (String × Json)) (failure : String) :
        mappingOf (.object fields) failure = pure fields := rfl
    simp only [Json.sorted, validateRegistryRank, found, pure_bind, checkProcesses, names, scalars,
      entries, asInteger_sorted, unlessNull_sorted]

theorem mapM_sorted (distinct : ∀ rank ∈ ranks, rank.Distinct) :
    (ranks.map Json.sorted).mapM (validateRegistryRank state world) =
      ranks.mapM (validateRegistryRank state world) := by
  induction ranks with
  | nil => rfl
  | cons rank ranks ih =>
    rw [List.map_cons, List.mapM_cons, List.mapM_cons,
      validateRegistryRank_sorted (distinct rank List.mem_cons_self),
      ih fun later member => distinct later (List.mem_cons_of_mem _ member)]

theorem ranksOf_eq_ok :
    ranksOf value world = .ok ranks ↔ value = .array ranks ∧ (ranks.length : ℤ) = world := by
  cases value with
  | array items =>
    rw [ranksOf]
    split_ifs with wrong
    · constructor
      · intro failed
        cases failed
      · rintro ⟨same, right⟩
        cases same
        exact absurd right wrong
    · constructor
      · intro same
        cases same
        exact ⟨rfl, not_not.mp wrong⟩
      · rintro ⟨same, -⟩
        cases same
        rfl
  | null | boolean | integer | string | object => simp [ranksOf]

/-- The checks do not depend on the order of the entries. -/
theorem validate_live_registry_sorted (distinct : (Json.object fields).Distinct)
    (passed : validate_live_registry (.object fields) = .ok registry) :
    validate_live_registry (.object (sortFields (Json.sortedFields fields))) =
      .ok { registry with document := sortFields (Json.sortedFields fields) } := by
  have names := exactKeys_perm (names_sorted fields)
  have scalars := scalarEntry_sorted distinct.1
  have entries := entry_sorted distinct.1
  simp only [validate_live_registry, bind_eq_ok, exists_unit, throw_bind, ite_throw_eq_ok,
    pure_eq_ok, not_not, mappingOf_eq_ok, Json.object.injEq, ranksOf_eq_ok] at passed ⊢
  obtain ⟨_, rfl, keys, schema, generation, positive, state, stated, times, path, normal, uuid,
    epoch, world, sized, ranks, ⟨listed, count⟩, observed, checked, order, rfl⟩ := passed
  have parts : ∀ rank ∈ ranks, rank.Distinct := by
    have whole := entry_distinct distinct.2 "ranks"
    rw [listed] at whole
    exact distinctItems_iff.mp whole
  simp only [exists_eq_left', names, scalars, entries, listed]
  refine ⟨keys, schema, generation, positive, state, stated, times, path, normal, uuid, epoch,
    world, sized, ranks.map Json.sorted, ⟨?_, ?_⟩, observed, ?_, order, rfl⟩
  · rw [Json.sorted, sortedItems_eq_map]
  · rw [List.length_map]
    exact count
  · rw [mapM_sorted parts]
    exact checked

end Checks

section Leases

variable {session : Session} {generation : ℤ} {encoded : List UInt8}

theorem validateLease_sorted (canonical : Canonical session) (positive : 0 < generation)
    (data : List UInt8) :
    validateLease (leaseDocument session.session_uuid
        { registry_generation := generation, registry_sha256 := session.sha256 data }).sorted =
      .ok { registry_generation := generation, registry_sha256 := session.sha256 data } := by
  have nodup := (leaseDocument_distinct session.session_uuid
    { registry_generation := generation, registry_sha256 := session.sha256 data }).1
  simp only [validateLease, leaseDocument, Json.sorted, bind_eq_ok, exists_unit, throw_bind,
    ite_throw_eq_ok, pure_eq_ok, not_not, mappingOf_eq_ok, Json.object.injEq, exists_eq_left',
    scalarEntry_sorted nodup, exactKeys_perm (names_sorted _), discard_eq_ok]
  obtain ⟨length, digits, nonzero⟩ := canonical.uuid
  refine ⟨rfl, rfl, ⟨session.session_uuid, ?_⟩, generation, ?_, session.sha256 data, ?_, rfl⟩
  · change canonicalUuid (.string session.session_uuid) _ = _
    rw [canonicalUuid, if_pos ⟨length, digits⟩, if_neg nonzero]
  · change positiveInteger (.integer generation) _ = _
    rw [positiveInteger, if_neg (by omega)]
  · change digestOf (.string (session.sha256 data)) = _
    rw [digestOf, if_pos (canonical.digest data)]

/-- A lease is read as it was written. -/
theorem readLease_leaseData (canonical : Canonical session) (positive : 0 < generation)
    (short : (leaseData session generation encoded).length ≤ MAX_DOCUMENT_BYTES) :
    readLease (leaseData session generation encoded) =
      .ok { registry_generation := generation, registry_sha256 := session.sha256 encoded } := by
  have distinct := leaseDocument_distinct session.session_uuid
    { registry_generation := generation, registry_sha256 := session.sha256 encoded }
  simp only [readLease, bind_eq_ok, throw_bind, ite_throw_eq_ok]
  exact ⟨by omega, _, decodeJson_canonicalJson distinct,
    validateLease_sorted canonical positive encoded⟩

end Leases

section Publishing

variable {session : Session} {system : System}

/-- A step that leaves the publisher, the registry and the lease as they are. -/
theorem Brought.kept (brought : Brought session system) {after : System}
    (accepted : after.accepted = system.accepted)
    (generation : after.publisher.generation = system.publisher.generation)
    (registry : after.files.registry = system.files.registry)
    (lease : after.files.lease = system.files.lease)
    (stage : after.publisher.stage = system.publisher.stage ∨
      (system.publisher.stage = .idle ∨ system.publisher.stage = .gone) ∧
        (after.publisher.stage = .idle ∨ after.publisher.stage = .gone)) :
    Brought session after := by
  unfold Brought at brought ⊢
  rw [accepted, generation]
  -- at rest it does not matter whether the process still runs
  rcases stage with same | ⟨before, now⟩
  · rw [same]
    cases found : system.publisher.stage <;> rw [found] at brought <;>
      simpa only [BroughtAt, registry, lease] using brought
  · rcases before with before | before <;> rcases now with now | now <;>
      rw [before] at brought <;> rw [now] <;>
      simpa only [BroughtAt, registry, lease] using brought

theorem Brought.publish (brought : Brought session system) (value : Published) :
    Brought session (Registry.step session system (.publish value)) := by
  simp only [Registry.step, System.act, System.publish]
  split
  · rename_i encoded idle passed
    simp only [LiveRegistryPublisher.publish, bind_eq_ok, pure_eq_ok, throw_bind, ite_throw_eq_ok,
      not_not, Bool.not_eq_true] at passed
    obtain ⟨-, named, registry, validated, path, rfl⟩ := passed
    refine ⟨value, registry, List.getLast?_concat, rfl, validated, path, ?_⟩
    have same := (validate_live_registry_ok validated).2
    rw [named, Option.some.injEq] at same
    exact same.symm
  · exact brought.kept rfl rfl rfl rfl (.inl rfl)

theorem Brought.advance (brought : Brought session system) (count : ℕ) :
    Brought session (Registry.step session system (.advance count)) := by
  have before := brought
  unfold Brought at before
  simp only [Registry.step, System.act, Registry.advance]
  split
  · exact brought.kept rfl rfl rfl rfl (.inl rfl)
  · exact brought.kept rfl rfl rfl rfl (.inl rfl)
  · rename_i encoded found
    rw [found] at before
    exact ⟨before, rfl⟩
  · rename_i encoded found
    rw [found] at before
    exact ⟨before.1, before.2, rfl⟩
  · rename_i encoded offset found
    rw [found] at before
    obtain ⟨latest, registry, lease⟩ := before
    split
    · exact ⟨latest, registry, List.take_eq_take_min⟩
    · -- all of the lease is written
      rename_i done
      refine .inr ⟨encoded, latest, registry, ?_⟩
      rw [List.take_of_length_le (by omega)] at lease
      exact lease

theorem Brought.step (brought : Brought session system) {input : Input}
    (undisturbed : Undisturbed system input) :
    Brought session (Registry.step session system input) := by
  cases input with
  | publish value => exact brought.publish value
  | advance count => exact brought.advance count
  | raise =>
    refine brought.kept rfl (raised_generation _) rfl rfl (.inr ⟨undisturbed (.inl rfl), ?_⟩)
    exact (raised_stage system.publisher).imp And.left And.left
  | close =>
    simp only [Registry.step, System.act, Registry.close]
    split
    · exact brought.kept rfl rfl rfl rfl (.inl rfl)
    · exact brought.kept rfl rfl rfl rfl (.inl rfl)
  -- the process ends between two publishes
  | kill => exact brought.kept rfl rfl rfl rfl (.inr ⟨undisturbed (.inr rfl), .inr rfl⟩)
  | call => exact brought.kept rfl rfl rfl rfl (.inl rfl)
  | access => exact brought.kept rfl rfl rfl rfl (.inl rfl)
  | disturb => exact brought.kept rfl rfl rfl rfl (.inl rfl)

theorem brought_boot (session : Session) : Brought session boot := .inl rfl

end Publishing

section Reading

variable {session : Session} {system : System} {index attempts : ℕ} {data : List UInt8}
  {registry : LiveRegistry} {lease : Lease}

/-- An attempt goes through when each of its accesses finds what it asks for. -/
theorem returned_attempt (found : system.readers index = { stage := .start, attempts := attempts })
    (read : readRegistry session system.files.registry = .ok (data, registry))
    (leased : readLease system.files.lease = .ok lease)
    (confirmed : confirm session data registry lease system.files.registry = .ok ()) :
    (runFrom (step session) system (List.replicate 4 (.access index))).returned =
      system.returned ++
        [{ snapshot := { registry := registry, lease_held := system.files.locked }
           since := system.past.length
           till := system.past.length + 3 }] := by
  simp [List.replicate, step, System.act, System.access, Reader.access, found, read, leased,
    confirmed, ReaderStage.since]

theorem positiveInteger_pos {scalar : Scalar} {context : String} {number : ℤ}
    (passed : positiveInteger scalar context = .ok number) : 0 < number := by
  cases scalar with
  | integer given =>
    rw [positiveInteger] at passed
    split_ifs at passed with above
    cases passed
    omega
  | boolean | string | other => cases passed

theorem validated_pos {value : Json} (passed : validate_live_registry value = .ok registry) :
    0 < registry.generation := by
  simp only [validate_live_registry, bind_eq_ok, exists_unit, throw_bind, ite_throw_eq_ok,
    pure_eq_ok] at passed
  obtain ⟨_, -, -, -, generation, positive, _, -, -, _, -, -, -, _, -, _, -, _, -, -, rfl⟩ := passed
  exact positiveInteger_pos positive

theorem quietRead_of_brought (canonical : Canonical session) (brought : Brought session system) :
    QuietRead session system := by
  intro value index attempts last rest short shortLease found
  have settled : system.accepted = [] ∨ ∃ encoded,
      Latest session system.accepted system.publisher.generation encoded ∧
        system.files.registry = some encoded ∧
        system.files.lease = leaseData session system.publisher.generation encoded := by
    unfold Brought at brought
    rcases rest with idle | gone
    · rw [idle] at brought
      exact brought
    · rw [gone] at brought
      exact brought
  rcases settled with none | ⟨encoded, ⟨latest, registry, same, rfl, validated, path, number⟩,
    there, lease⟩
  · rw [none] at last
    cases last
  rw [last, Option.some.injEq] at same
  subst same
  have positive := validated_pos validated
  rw [number] at positive
  obtain ⟨shape, -⟩ := validate_live_registry_ok validated
  have distinct := value.property
  rw [shape] at distinct validated
  have again := validate_live_registry_sorted distinct validated
  have leased : readLease system.files.lease = .ok
      { registry_generation := system.publisher.generation
        registry_sha256 := session.sha256 (canonicalJson value.val) } := by
    rw [lease] at shortLease ⊢
    exact readLease_leaseData canonical positive shortLease
  have read : readRegistry session system.files.registry = .ok (canonicalJson value.val,
      { registry with document := sortFields (Json.sortedFields registry.document) }) := by
    rw [there]
    simp only [readRegistry, bind_eq_ok, pure_eq_ok, throw_bind, ite_throw_eq_ok, not_not,
      readRegular_eq_ok]
    refine ⟨_, rfl, _, ⟨short, rfl⟩, _, ?_, _, again, path, rfl⟩
    rw [shape]
    exact decodeJson_canonicalJson distinct
  refine ⟨_, ?_, ?_, returned_attempt found read leased ?_⟩
  · rw [shape, Json.sorted]
  · rw [shape, Json.sorted]
    exact again
  · rw [there]
    simp only [confirm, bind_eq_ok, pure_eq_ok, throw_bind, ite_throw_eq_ok, not_not,
      readRegular_eq_ok]
    exact ⟨_, rfl, _, ⟨short, rfl⟩, rfl, number.symm, trivial, trivial⟩

/-- In every run in which no publish is broken off, an attempt that nothing comes between returns
the document that was published last, with the state of the lock. -/
theorem quietRead_of_run (session : Session) (inputs : List Input) (canonical : Canonical session)
    (undisturbed : Meets (step session) Undisturbed boot inputs) :
    QuietRead session (runFrom (step session) boot inputs) := by
  have brought := invariant_of_meets (step session) (Brought session) (fun _ _ held meets =>
    held.step meets) (brought_boot session) undisturbed
  exact quietRead_of_brought canonical brought

/-- A digest as it stands in a lease. -/
def hexdigest (data : List UInt8) : String :=
  String.ofList ((CodeObject.sha256 data).toList.flatMap fun byte =>
    [hexDigit (byte.toNat / 16), hexDigit (byte.toNat % 16)])

theorem hexdigest_canonical (data : List UInt8) : (hexdigest data).toList.length = 64 ∧
    (hexdigest data).toList.all lowercaseHex = true := by
  have digit : ∀ value < 16, lowercaseHex (hexDigit value) = true := by decide
  rw [hexdigest, String.toList_ofList]
  constructor
  · simp only [List.length_flatMap, List.length_cons, List.length_nil, List.map_const',
      List.sum_replicate_nat, Vector.length_toList]
    rfl
  · rw [List.all_eq_true]
    intro char member
    obtain ⟨byte, -, part⟩ := List.mem_flatMap.mp member
    have small := byte.toNat_lt
    simp only [List.mem_cons, List.not_mem_nil, or_false] at part
    rcases part with rfl | rfl
    · exact digit _ (by omega)
    · exact digit _ (by omega)

/-- A group of one rank that is starting. -/
def startingDocument : Json :=
  .object
    [("schema", .string LIVE_REGISTRY_SCHEMA), ("generation", .integer 1),
      ("state", .string "STARTING"), ("updated_at_ns", .integer 1), ("supervisor_pid", .integer 1),
      ("supervisor_start_time", .integer 1), ("lease_path", .string "/run/registry.json.lease"),
      ("job_uuid", .string "11111111111111111111111111111111"), ("epoch", .integer 1),
      ("world_size", .integer 1),
      ("ranks", .array [.object
        [("rank", .integer 0), ("world_size", .integer 1), ("state", .string "STARTING"),
          ("worker_pid", .null), ("daemon_pid", .null), ("daemon_uuid", .null),
          ("endpoint", .string "/run/0/bridge"), ("runtime_directory", .string "/run/0"),
          ("triton_cache_directory", .string "/run/0/triton"),
          ("gem5_cache_directory", .string "/run/0/gem5")]])]

def startingSession : Session where
  lease_path := parsePath "/run/registry.json.lease".toList
  session_uuid := "22222222222222222222222222222222"
  sha256 := hexdigest

theorem startingDocument_distinct : startingDocument.Distinct := by
  have outer : ["schema", "generation", "state", "updated_at_ns", "supervisor_pid",
      "supervisor_start_time", "lease_path", "job_uuid", "epoch", "world_size", "ranks"].Nodup := by
    decide
  have inner : ["rank", "world_size", "state", "worker_pid", "daemon_pid", "daemon_uuid",
      "endpoint", "runtime_directory", "triton_cache_directory", "gem5_cache_directory"].Nodup := by
    decide
  simp only [startingDocument, Json.Distinct, Json.DistinctFields, Json.DistinctItems,
    List.map_cons, List.map_nil, outer, inner, and_self]

theorem quietRead_of_firstPublish :
    QuietRead startingSession (runFrom (step startingSession) boot
      [.publish ⟨startingDocument, startingDocument_distinct⟩, .advance 0, .advance 0,
        .advance 4096, .advance 0, .call 0 1]) ∧
    (runFrom (step startingSession) boot
      [.publish ⟨startingDocument, startingDocument_distinct⟩]).accepted.length = 1 := by
  have canonical : Canonical startingSession := ⟨by decide +kernel, hexdigest_canonical⟩
  refine ⟨quietRead_of_run startingSession _ canonical ?_, by decide +kernel⟩
  refine ⟨?_, ?_, ?_, ?_, ?_, ?_, trivial⟩ <;> rintro (same | same) <;> cases same

end Reading

end GemSim.Registry
