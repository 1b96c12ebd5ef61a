import GemSim.Checkpoint.Quiet
import GemSim.Lib.Run

/-!
# The law of the journal

At most one journal is active at a time. Its participants are fixed when it begins; a target and a
recorded commit never change once they are set, and a recorded commit is the target where there is
one. A journal that is prepared has a recorded commit for every participant and does not change any
more but for the commit of the root. It is moved away only when the commit of the root has the
prepared tree and follows the previous root. A command that stops at a check leaves every file as
it was, except that a journal which cannot be moved away stays as committed.

## Main definitions

* `Journal.Sound` — what holds of every journal file
* `Journal.Evolves` — how a journal file may change
* `Coordinated` — what holds of the files of the coordinator
* `TransactionLaw` — what holds of the files and of each command on them

## Main results

* `transactionLaw_of_run` — the law holds in every run
-/

namespace GemSim.Checkpoint

open GemSim.Lib GemSim.Lib.Program

section Journals

/-- A target is there as a whole, by full names of objects, or not at all. -/
def Declared.Targeted (declared : Declared) : Prop :=
  (declared.target_head = none ∧ declared.target_tree = none) ∨
    ∃ head tree, declared.target_head = some head ∧ declared.target_tree = some tree ∧
      isSha head = true ∧ isSha tree = true

/-- What is recorded fits the declaration. -/
def Recorded.Fits (recorded : Recorded) (declared : Declared) : Prop :=
  recorded.path = declared.path ∧
    (declared.target_head = none ∨ declared.target_head = some recorded.head) ∧
    (declared.target_tree = none ∨ declared.target_tree = some recorded.tree)

/-- What holds of every journal file. -/
structure Journal.Sound (journal : Journal) : Prop where
  names : (journal.declared_children.map Prod.fst).Nodup
  paths : (journal.declared_children.map fun child => child.2.path).Nodup
  places : ∀ child ∈ journal.declared_children, ChildPath child.2.path
  initial : ∀ child ∈ journal.declared_children, child.2.initial.isSome = true
  targets : ∀ child ∈ journal.declared_children, child.2.Targeted
  recordedNames : (journal.expected_children.map Prod.fst).Nodup
  fits : ∀ child ∈ journal.expected_children, ∃ declared,
    journal.declared_children.lookup child.1 = some declared ∧ child.2.Fits declared
  named : ∀ child ∈ journal.expected_children,
    isSha child.2.head = true ∧ isSha child.2.tree = true
  locked : journal.participants_locked = true
  complete : journal.phase ≠ .prepare → (∀ child ∈ journal.declared_children,
    child.1 ∈ journal.expected_children.map Prod.fst) ∧ journal.root_allowlist ≠ [] ∧
      journal.expected_root_tree.isSome = true
  bound : journal.phase = .committed → journal.root_coordinator_commit.isSome = true

/-- The order of the phases. -/
def Phase.rank : Phase → ℕ
  | .prepare => 0
  | .prepared => 1
  | .committed => 2

/-- A participant without its target. -/
def participant (child : String × Declared) : String × String × Option (Option Identity) :=
  (child.1, child.2.path, child.2.initial)

/-- What a journal keeps while it is active. -/
structure Journal.Keeps (before after : Journal) : Prop where
  identity : after.checkpoint_id = before.checkpoint_id ∧
    after.previous_root = before.previous_root ∧
    after.previous_checkpoint = before.previous_checkpoint ∧ after.intent = before.intent ∧
    after.started_at = before.started_at
  phase : before.phase.rank ≤ after.phase.rank
  participants : after.declared_children.map participant = before.declared_children.map participant
  targets : ∀ name declared, before.declared_children.lookup name = some declared →
    declared.target_head ≠ none → after.declared_children.lookup name = some declared
  recorded : ∀ name recorded, before.expected_children.lookup name = some recorded →
    after.expected_children.lookup name = some recorded
  allowlist : before.root_allowlist = [] ∨ after.root_allowlist = before.root_allowlist
  settled : before.phase ≠ .prepare → after =
    { before with
      phase := after.phase
      root_coordinator_commit := after.root_coordinator_commit
      committed_at := after.committed_at }
  done : before.phase = .committed → after = before

/-- How a command may change a journal. -/
structure Journal.Evolves (before after : Journal) : Prop extends before.Keeps after where
  stepwise : after.phase.rank ≤ before.phase.rank + 1

theorem Journal.Keeps.trans {first second third : Journal} (one : first.Keeps second)
    (other : second.Keeps third) : first.Keeps third where
  identity := by
    obtain ⟨id, root, checkpoint, intent, started⟩ := one.identity
    obtain ⟨id', root', checkpoint', intent', started'⟩ := other.identity
    exact ⟨id'.trans id, root'.trans root, checkpoint'.trans checkpoint, intent'.trans intent,
      started'.trans started⟩
  phase := one.phase.trans other.phase
  participants := other.participants.trans one.participants
  targets name declared found targeted :=
    other.targets name declared (one.targets name declared found targeted) targeted
  recorded name recorded found := other.recorded name recorded (one.recorded name recorded found)
  allowlist := by
    rcases one.allowlist with empty | same
    · exact .inl empty
    · rcases other.allowlist with empty | again
      · exact .inl (same.symm.trans empty)
      · exact .inr (again.trans same)
  settled prepared := by
    have second_prepared : second.phase ≠ .prepare := by
      intro preparing
      have phase := one.phase
      rw [preparing] at phase
      cases first_phase : first.phase with
      | prepare => exact prepared first_phase
      | prepared =>
        rw [first_phase] at phase
        exact absurd phase (by decide)
      | committed =>
        rw [first_phase] at phase
        exact absurd phase (by decide)
    rw [other.settled second_prepared, one.settled prepared]
  done committed := by
    have same := one.done committed
    rw [← same] at committed
    exact (other.done committed).trans same

theorem Journal.Evolves.refl (journal : Journal) : journal.Evolves journal where
  stepwise := Nat.le_succ _
  identity := ⟨rfl, rfl, rfl, rfl, rfl⟩
  phase := le_rfl
  participants := rfl
  targets _ _ found _ := found
  recorded _ _ found := found
  allowlist := .inr rfl
  settled _ := rfl
  done _ := rfl

end Journals

section Updates

variable {value : Journal} {arguments : ChildArguments} {relative : String}

/-- A new target keeps what holds of a journal. -/
theorem sound_put_target {previous declared : Declared} {name : String} (sound : value.Sound)
    (preparing : value.phase = .prepare)
    (found : value.declared_children.lookup name = some previous)
    (unset : previous.target_head = none ∧ previous.target_tree = none)
    (path : declared.path = previous.path) (initial : declared.initial = previous.initial)
    (targeted : declared.Targeted)
    (fits : ∀ recorded, value.expected_children.lookup name = some recorded →
      recorded.Fits declared) :
    Journal.Sound { value with
        declared_children := putEntry name declared value.declared_children } ∧
      value.Evolves { value with
        declared_children := putEntry name declared value.declared_children } := by
  have member := mem_of_lookup found
  have there : name ∈ value.declared_children.map Prod.fst :=
    List.mem_map.mpr ⟨(name, previous), member, rfl⟩
  have alone : ∀ entry ∈ value.declared_children, entry.1 = name → entry.2 = previous := by
    intro entry inside same
    have here := lookup_of_mem sound.names (show (entry.1, entry.2) ∈ value.declared_children from inside)
    rw [same, found] at here
    exact (Option.some.inj here).symm
  have participants : (putEntry name declared value.declared_children).map participant =
      value.declared_children.map participant := by
    refine map_putEntry there fun entry inside same => ?_
    rw [participant, participant, path, initial, alone entry inside same, same]
  have paths : ((putEntry name declared value.declared_children).map fun child => child.2.path) =
      value.declared_children.map fun child => child.2.path := by
    refine map_putEntry there fun entry inside same => ?_
    rw [path, alone entry inside same]
  refine ⟨⟨nodup_putEntry sound.names _ _, ?_, ?_, ?_, ?_, sound.recordedNames, ?_, sound.named,
    sound.locked, ?_, sound.bound⟩, ⟨⟨⟨rfl, rfl, rfl, rfl, rfl⟩, le_rfl,
    participants, ?_, fun _ _ kept => kept, .inr rfl, ?_, ?_⟩, Nat.le_succ _⟩⟩
  · rw [paths]
    exact sound.paths
  · intro child inside
    rcases mem_putEntry inside with rfl | ⟨old, -⟩
    · rw [path]
      exact sound.places _ member
    · exact sound.places child old
  · intro child inside
    rcases mem_putEntry inside with rfl | ⟨old, -⟩
    · rw [initial]
      exact sound.initial _ member
    · exact sound.initial child old
  · intro child inside
    rcases mem_putEntry inside with rfl | ⟨old, -⟩
    · exact targeted
    · exact sound.targets child old
  · intro child inside
    by_cases same : child.1 = name
    · refine ⟨declared, ?_, ?_⟩
      · rw [same]
        exact lookup_putEntry_self _ _ _
      · refine fits child.2 ?_
        rw [← same]
        exact lookup_of_mem sound.recordedNames inside
    · obtain ⟨other, kept, agrees⟩ := sound.fits child inside
      exact ⟨other, (lookup_putEntry_of_ne same _ _).trans kept, agrees⟩
  · intro later
    exact absurd preparing later
  · intro other kept here targeted
    have ne : other ≠ name := by
      rintro rfl
      rw [found] at here
      rw [← Option.some.inj here] at targeted
      exact targeted unset.1
    exact (lookup_putEntry_of_ne ne _ _).trans here
  · intro later
    exact absurd preparing later
  · intro committed
    rw [preparing] at committed
    cases committed

theorem quiet_check_path_free {declared : List (String × Declared)} {id : String} :
    Quiet (check_path_free declared id relative) fun _ => True := by
  unfold check_path_free
  split
  · exact quiet_fail
  · exact Quiet.pure trivial

theorem quiet_check_recorded :
    Quiet (check_recorded value arguments relative) fun _ => ∀ recorded,
      value.expected_children.lookup arguments.id = some recorded → recorded.path = relative ∧
        (arguments.head = none ∨
          some recorded.head = arguments.head ∧ some recorded.tree = arguments.tree) := by
  unfold check_recorded
  split
  · rename_i absent
    refine Quiet.pure fun recorded there => ?_
    rw [absent] at there
    cases there
  · rename_i found there
    refine quiet_require.bind fun _ path => quiet_require.weaken fun _ agrees recorded here => ?_
    rw [there] at here
    obtain rfl := Option.some.inj here
    exact ⟨path, agrees⟩

/-- The targets that a declaration gives are kept by the journal. -/
theorem quiet_declare_target (sound : value.Sound) (preparing : value.phase = .prepare)
    (given : (arguments.head = none ∧ arguments.tree = none) ∨ ∃ head tree,
      arguments.head = some head ∧ arguments.tree = some tree ∧ isSha head = true ∧
        isSha tree = true) :
    Quiet (declare_target value arguments relative) fun after =>
      after.Sound ∧ value.Evolves after := by
  unfold declare_target
  split
  · exact quiet_fail
  rename_i previous found
  refine quiet_check_path_free.bind fun _ _ => quiet_require.bind fun _ path =>
    quiet_require.bind fun _ _ => quiet_check_recorded.bind fun _ agreed => ?_
  split
  · rename_i unset
    refine Quiet.pure (sound_put_target sound preparing found unset rfl rfl given ?_)
    intro recorded here
    obtain ⟨samePath, agrees⟩ := agreed recorded here
    refine ⟨samePath.trans path.symm, ?_, ?_⟩
    · rcases agrees with absent | ⟨head, -⟩
      · exact .inl absent
      · exact .inr head.symm
    · rcases agrees with absent | ⟨-, tree⟩
      · rcases given with ⟨-, none⟩ | ⟨head, tree, there, -⟩
        · exact .inl none
        · exact absurd (absent.symm.trans there) (by simp)
      · exact .inr tree.symm
  · exact Quiet.pure ⟨sound, .refl value⟩

/-- A new record keeps what holds of a journal. -/
theorem sound_put_record {declared : Declared} {recorded : Recorded} {name : String}
    (sound : value.Sound) (preparing : value.phase = .prepare)
    (found : value.declared_children.lookup name = some declared)
    (fits : recorded.Fits declared)
    (named : isSha recorded.head = true ∧ isSha recorded.tree = true)
    (unchanged : value.expected_children.lookup name = none ∨
      value.expected_children.lookup name = some recorded) :
    Journal.Sound { value with
        expected_children := putEntry name recorded value.expected_children } ∧
      value.Evolves { value with
        expected_children := putEntry name recorded value.expected_children } := by
  refine ⟨⟨sound.names, sound.paths, sound.places, sound.initial, sound.targets,
    nodup_putEntry sound.recordedNames _ _, ?_, ?_, sound.locked, ?_, sound.bound⟩,
    ⟨⟨⟨rfl, rfl, rfl, rfl, rfl⟩, le_rfl, rfl, fun _ _ kept _ => kept, ?_, .inr rfl, ?_, ?_⟩,
      Nat.le_succ _⟩⟩
  · intro child inside
    rcases mem_putEntry inside with rfl | ⟨old, -⟩
    · exact ⟨declared, found, fits⟩
    · exact sound.fits child old
  · intro child inside
    rcases mem_putEntry inside with rfl | ⟨old, -⟩
    · exact named
    · exact sound.named child old
  · intro later
    exact absurd preparing later
  · intro other kept here
    change (putEntry name recorded value.expected_children).lookup other = some kept
    by_cases same : other = name
    · rw [same] at here ⊢
      rw [lookup_putEntry_self]
      rcases unchanged with absent | there
      · rw [absent] at here
        cases here
      · exact there.symm.trans here
    · rw [lookup_putEntry_of_ne same]
      exact here
  · intro later
    exact absurd preparing later
  · intro committed
    rw [preparing] at committed
    cases committed

/-- A prepared journal has everything that it needs. -/
theorem sound_prepare {root_tree digest : String} (sound : value.Sound)
    (preparing : value.phase = .prepare)
    (complete : ∀ child ∈ value.declared_children.map Prod.fst,
      child ∈ value.expected_children.map Prod.fst) (allowlist : value.root_allowlist ≠ []) :
    Journal.Sound { value with
        phase := .prepared
        expected_root_tree := some root_tree
        staged_manifest_sha256 := some digest } ∧
      value.Evolves { value with
        phase := .prepared
        expected_root_tree := some root_tree
        staged_manifest_sha256 := some digest } := by
  refine ⟨⟨sound.names, sound.paths, sound.places, sound.initial, sound.targets,
    sound.recordedNames, sound.fits, sound.named, sound.locked, ?_, ?_⟩,
    ⟨⟨⟨rfl, rfl, rfl, rfl, rfl⟩, ?_, rfl, fun _ _ kept _ => kept, fun _ _ kept => kept, .inr rfl,
      ?_, ?_⟩, ?_⟩⟩
  · intro _
    exact ⟨fun child inside => complete child.1 (List.mem_map_of_mem inside), allowlist, rfl⟩
  · intro committed
    cases committed
  · rw [preparing]
    exact Nat.zero_le 1
  · intro later
    exact absurd preparing later
  · intro committed
    rw [preparing] at committed
    cases committed
  · rw [preparing]
    exact le_rfl

/-- A committed journal differs from the prepared one by its commit. -/
theorem sound_commit {head committed_at : String} (sound : value.Sound)
    (prepared : value.phase = .prepared) :
    Journal.Sound { value with
        phase := .committed
        root_coordinator_commit := some head
        committed_at := some committed_at } ∧
      value.Evolves { value with
        phase := .committed
        root_coordinator_commit := some head
        committed_at := some committed_at } := by
  have later : value.phase ≠ .prepare := by
    rw [prepared]
    intro same
    cases same
  refine ⟨⟨sound.names, sound.paths, sound.places, sound.initial, sound.targets,
    sound.recordedNames, sound.fits, sound.named, sound.locked, fun _ => sound.complete later,
    fun _ => rfl⟩, ⟨⟨⟨rfl, rfl, rfl, rfl, rfl⟩, ?_, rfl, fun _ _ kept _ => kept,
      fun _ _ kept => kept, .inr rfl, fun _ => rfl, ?_⟩, ?_⟩⟩
  · rw [prepared]
    exact Nat.le_succ 1
  · intro committed
    rw [prepared] at committed
    cases committed
  · rw [prepared]
    exact le_rfl

end Updates

section Begin

variable {world : World}

/-- Participants with names and paths of their own. -/
structure Declarable (declared : List (String × Declared)) : Prop where
  names : (declared.map Prod.fst).Nodup
  paths : (declared.map fun child => child.2.path).Nodup
  places : ∀ child ∈ declared, ChildPath child.2.path
  targets : ∀ child ∈ declared, child.2.Targeted

theorem quiet_parse_participant {encoded : String} :
    Quiet (parse_participant encoded) fun child => ChildPath child.2.path ∧ child.2.Targeted := by
  unfold parse_participant
  dsimp only
  refine quiet_require.bind fun _ _ => quiet_validated_child_path.bind fun relative place => ?_
  split
  · exact quiet_require.bind fun _ shown =>
      Quiet.pure ⟨place, .inr ⟨_, _, rfl, rfl, shown.2.1, shown.2.2⟩⟩
  · exact Quiet.pure ⟨place, .inl ⟨rfl, rfl⟩⟩

theorem quiet_declare_participant {declared : List (String × Declared)} {encoded : String}
    (declarable : Declarable declared) :
    Quiet (declare_participant declared encoded) Declarable := by
  refine quiet_parse_participant.bind fun child shown => quiet_require.bind fun _ apart =>
    Quiet.pure ⟨?_, ?_, ?_, ?_⟩
  · rw [List.map_append]
    refine List.nodup_append.mpr ⟨declarable.names, List.nodup_singleton _, ?_⟩
    intro name old other new same
    obtain ⟨entry, member, rfl⟩ := List.mem_map.mp old
    exact (apart entry member).1 (same.trans (List.mem_singleton.mp new))
  · rw [List.map_append]
    refine List.nodup_append.mpr ⟨declarable.paths, List.nodup_singleton _, ?_⟩
    intro path old other new same
    obtain ⟨entry, member, rfl⟩ := List.mem_map.mp old
    exact (apart entry member).2 (same.trans (List.mem_singleton.mp new))
  · intro other member
    rcases List.mem_append.mp member with old | new
    · exact declarable.places other old
    · rw [List.mem_singleton.mp new]
      exact shown.1
  · intro other member
    rcases List.mem_append.mp member with old | new
    · exact declarable.targets other old
    · rw [List.mem_singleton.mp new]
      exact shown.2

theorem quiet_root_paths {paths : List String} : Quiet (root_paths paths) fun _ => True := by
  have validated : ∀ path ∈ paths, Quiet (validated_root_path path) fun _ => True :=
    fun _ _ => quiet_require.bind fun _ _ => Quiet.pure trivial
  exact (Quiet.mapM validated).bind fun _ _ => quiet_require.bind fun _ _ => Quiet.pure trivial

theorem quiet_verify_begin_prerequisites {checkpoint : String} :
    Quiet (verify_begin_prerequisites world checkpoint) fun _ => True := by
  refine quiet_ask.bind fun _ _ => quiet_require.bind fun _ _ => quiet_ask.bind fun current _ => ?_
  cases current with
  | none => exact quiet_fail
  | some current =>
    refine quiet_ask.bind fun accepted _ => ?_
    cases accepted with
    | none => exact quiet_fail
    | some accepted =>
      dsimp only
      split
      · exact quiet_fail
      · exact quiet_require.bind fun _ _ => quiet_require.bind fun _ _ => Quiet.pure trivial

theorem quiet_check_initial {child_id path : String} {initial : Option Identity} :
    Quiet (check_initial world child_id path initial) fun _ => True := by
  cases initial with
  | none => exact quiet_ask.bind fun _ _ => quiet_require.weaken fun _ _ => trivial
  | some identity => exact quiet_verify_child_identity

theorem quiet_initial_participant {previous_root : String} {child : String × Declared} :
    Quiet (initial_participant world previous_root child) fun made =>
      ∃ initial, made = (child.1, { child.2 with initial := some initial }) :=
  quiet_initial_child_identity.bind fun initial _ => quiet_check_initial.bind fun _ _ =>
    Quiet.pure ⟨initial, rfl⟩

/-- The participants with their initial identities are as they were declared. -/
theorem declarable_initial {declared made : List (String × Declared)}
    (declarable : Declarable declared)
    (same : List.Forall₂ (fun child result => ∃ initial,
      result = (child.1, { child.2 with initial := some initial })) declared made) :
    Declarable made ∧ ∀ child ∈ made, child.2.initial.isSome = true := by
  have names : made.map Prod.fst = declared.map Prod.fst := by
    clear declarable
    induction same with
    | nil => rfl
    | cons here _ ih =>
      obtain ⟨initial, rfl⟩ := here
      rw [List.map_cons, List.map_cons, ih]
  have paths : (made.map fun child => child.2.path) = declared.map fun child => child.2.path := by
    clear declarable names
    induction same with
    | nil => rfl
    | cons here _ ih =>
      obtain ⟨initial, rfl⟩ := here
      rw [List.map_cons, List.map_cons, ih]
  have from_declared : ∀ child ∈ made, ∃ old ∈ declared, ∃ initial,
      child = (old.1, { old.2 with initial := some initial }) := by
    clear declarable names paths
    induction same with
    | nil =>
      intro child member
      cases member
    | cons here _ ih =>
      intro child member
      rcases List.mem_cons.mp member with rfl | later
      · obtain ⟨initial, shape⟩ := here
        exact ⟨_, List.mem_cons_self, initial, shape⟩
      · obtain ⟨old, there, shape⟩ := ih child later
        exact ⟨old, List.mem_cons_of_mem _ there, shape⟩
  refine ⟨⟨?_, ?_, ?_, ?_⟩, ?_⟩
  · rw [names]
    exact declarable.names
  · rw [paths]
    exact declarable.paths
  · intro child member
    obtain ⟨old, there, initial, rfl⟩ := from_declared child member
    exact declarable.places old there
  · intro child member
    obtain ⟨old, there, initial, rfl⟩ := from_declared child member
    exact declarable.targets old there
  · intro child member
    obtain ⟨old, there, initial, rfl⟩ := from_declared child member
    rfl

end Begin

section Writing

variable {world : World} {fact : Control → Prop} {path : String} {value : Journal}
  {Value Other : Type} {program : Command Value} {next : Value → Command Other}
  {post : Value → Prop} {done : Other → Control → Prop} {stopped : Failure → Control → Prop}

/-- What follows a quiet program may use its value, and starts from the same facts. -/
theorem Quiet.followed (stable : Stable fact) (quiet : Quiet program post)
    (rest : ∀ value, post value →
      Outcome fact (next value) done fun failure control => fact control ∨ stopped failure control) :
    Outcome fact (program >>= next) done fun failure control =>
      fact control ∨ stopped failure control := by
  refine ((quiet fact stable).weaken (fun _ start => start) (fun _ _ holds => holds)
    fun _ _ start => .inl start).bind fun value => ?_
  intro control holds
  exact rest value holds.1 control holds.2

theorem outcome_get :
    Outcome fact (get : Command Control) (fun value control => value = control ∧ fact control)
      stopped := by
  intro control start
  refine ⟨?_, ?_⟩
  · intro value final ran
    cases ran
    exact ⟨rfl, start⟩
  · intro failure final ran
    cases ran

theorem outcome_modify {change : Control → Control} :
    Outcome fact (modify change : Command Unit)
      (fun _ control => ∃ before, fact before ∧ control = change before) stopped := by
  intro control start
  refine ⟨?_, ?_⟩
  · intro value final ran
    cases ran
    exact ⟨control, start, rfl⟩
  · intro failure final ran
    cases ran

theorem outcome_onDisk (stable : Stable fact) :
    Outcome fact (onDisk world) (fun _ => fact) fun failure control =>
      failure = .environment ∧ fact control := by
  have asked := (@outcome_ask _ world.disk fact stable 0 fun failure control =>
    failure = .environment ∧ fact control).weaken (fun control start => ⟨start, Nat.zero_le _⟩)
      (fun _ _ holds => holds.2) fun _ _ start => start
  refine asked.bind fun succeeds => ?_
  cases succeeds with
  | true => exact Outcome.pure fun _ start => start
  | false => exact Outcome.throw fun _ start => ⟨rfl, start⟩

/-- A file was replaced by a new journal. -/
structure Wrote (path : String) (value : Journal) (before after : Control) : Prop where
  active : after.active = putEntry path value before.active
  retired : after.retired = before.retired
  clock : before.clock ≤ after.clock

/-- A new journal is there as a whole, or the old one is. -/
theorem outcome_atomic_json (stable : Stable fact) :
    Outcome fact (atomic_json world path value)
      (fun _ control => ∃ before, fact before ∧ Wrote path value before control)
      fun failure control => failure = .environment ∧
        (fact control ∨ ∃ before, fact before ∧ Wrote path value before control) := by
  unfold atomic_json
  have written : Stable fun control => ∃ before, fact before ∧ Wrote path value before control := by
    intro first second same
    rintro ⟨before, holds, wrote⟩
    exact ⟨before, holds, same.active.trans wrote.active, same.retired.trans wrote.retired,
      wrote.clock.trans same.clock⟩
  refine ((outcome_onDisk stable).weaken (fun _ start => start) (fun _ _ holds => holds)
    fun _ _ failed => ⟨failed.1, .inl failed.2⟩).bind fun _ => ?_
  refine @Outcome.bind _ _ _ _ _ _ _ (fun _ control => ∃ before, fact before ∧
    Wrote path value before control) _ _ ?_ fun _ => (outcome_onDisk written).weaken
      (fun _ start => start) (fun _ _ holds => holds) fun _ _ failed => ⟨failed.1, .inr failed.2⟩
  refine outcome_modify.weaken (fun _ start => start) ?_ fun _ _ failed => failed
  rintro _ control ⟨before, holds, rfl⟩
  exact ⟨before, holds, rfl, rfl, le_rfl⟩

/-- The journal left the active ones for the retired ones, where it may be already. -/
structure Left (path : String) (before after : Control) : Prop where
  active : after.active = before.active.filter fun entry => entry.1 ≠ path
  retired : (before.retired.lookup path = none ∧ after.retired =
      (before.active.filter fun entry => entry.1 = path) ++ before.retired) ∨
    ((∃ journal, before.retired.lookup path = some journal ∧
      before.active.lookup path = some journal) ∧ after.retired = before.retired)
  clock : before.clock ≤ after.clock

theorem stable_left : Stable fun control => ∃ before, fact before ∧ Left path before control := by
  intro first second same
  rintro ⟨before, holds, left⟩
  refine ⟨before, holds, same.active.trans left.active, ?_, left.clock.trans same.clock⟩
  rcases left.retired with ⟨absent, moved⟩ | ⟨there, kept⟩
  · exact .inl ⟨absent, same.retired.trans moved⟩
  · exact .inr ⟨there, same.retired.trans kept⟩

/-- A journal that is moved away was retired under its name before as the same one, or not at
all. -/
theorem outcome_retire_journal (stable : Stable fact) :
    Outcome fact (retire_journal world path)
      (fun _ control => ∃ before, fact before ∧ Left path before control)
      fun failure control =>
        (fact control ∧ (failure = .environment ∨ ∃ journal,
          control.retired.lookup path = some journal ∧
            control.active.lookup path ≠ some journal)) ∨
        (failure = .environment ∧ ∃ before, fact before ∧ Left path before control) := by
  unfold retire_journal
  refine ((outcome_onDisk stable).weaken (fun _ start => start) (fun _ _ holds => holds)
    fun _ _ failed => .inl ⟨failed.2, .inl failed.1⟩).bind fun _ => ?_
  refine outcome_get.bind fun seen => ?_
  have leaves : Outcome (fun control => ∃ before, fact before ∧ Left path before control)
      (onDisk world) (fun _ control => ∃ before, fact before ∧ Left path before control)
      fun failure control =>
        (fact control ∧ (failure = .environment ∨ ∃ journal,
          control.retired.lookup path = some journal ∧
            control.active.lookup path ≠ some journal)) ∨
        (failure = .environment ∧ ∃ before, fact before ∧ Left path before control) :=
    (outcome_onDisk stable_left).weaken (fun _ start => start) (fun _ _ holds => holds)
      fun _ _ failed => .inr failed
  cases there : seen.retired.lookup path with
  | none =>
    have alone : Stable fun control => fact control ∧ control.retired.lookup path = none := by
      intro first second same holds
      exact ⟨stable first second same holds.1, by rw [same.retired]; exact holds.2⟩
    refine ((outcome_onDisk alone).weaken ?_ (fun _ _ holds => holds)
      fun _ _ failed => .inl ⟨failed.2.1, .inl failed.1⟩).bind fun _ => ?_
    · rintro control ⟨rfl, holds⟩
      exact ⟨holds, there⟩
    refine @Outcome.bind _ _ _ _ _ _ _ (fun _ control => ∃ before, fact before ∧
      Left path before control) _ _ ?_ fun _ => leaves.bind fun _ => leaves
    refine outcome_modify.weaken (fun _ start => start) ?_ fun _ _ failed => failed
    rintro _ control ⟨before, ⟨holds, absent⟩, rfl⟩
    exact ⟨before, holds, rfl, .inl ⟨absent, rfl⟩, le_rfl⟩
  | some old =>
    have known : Stable fun control => fact control ∧ control.retired.lookup path = some old ∧
        control.active.lookup path = seen.active.lookup path := by
      intro first second same holds
      exact ⟨stable first second same holds.1, by rw [same.retired]; exact holds.2.1,
        by rw [same.active]; exact holds.2.2⟩
    have begun : ∀ control, seen = control ∧ fact control → fact control ∧
        control.retired.lookup path = some old ∧
          control.active.lookup path = seen.active.lookup path := by
      rintro control ⟨rfl, holds⟩
      exact ⟨holds, there, rfl⟩
    dsimp only [require]
    split
    · rename_i same
      refine @Outcome.bind _ _ _ _ _ _ _ (fun _ control => fact control ∧
        control.retired.lookup path = some old ∧
          control.active.lookup path = seen.active.lookup path) _ _ (Outcome.pure begun) fun _ => ?_
      refine ((outcome_onDisk known).weaken (fun _ start => start) (fun _ _ holds => holds)
        fun _ _ failed => .inl ⟨failed.2.1, .inl failed.1⟩).bind fun _ => ?_
      refine @Outcome.bind _ _ _ _ _ _ _ (fun _ control => ∃ before, fact before ∧
        Left path before control) _ _ ?_ fun _ => leaves
      refine outcome_modify.weaken (fun _ start => start) ?_ fun _ _ failed => failed
      rintro _ control ⟨before, ⟨holds, here, active⟩, rfl⟩
      exact ⟨before, holds, rfl, .inr ⟨⟨old, here, active.trans same⟩, rfl⟩, le_rfl⟩
    · rename_i other
      refine @Outcome.bind _ _ _ _ _ _ _ (fun _ _ => False) _ _ (Outcome.throw fun control start => ?_)
        fun _ _ impossible => impossible.elim
      obtain ⟨holds, here, active⟩ := begun control start
      refine .inl ⟨holds, .inr ⟨old, here, ?_⟩⟩
      rw [active]
      exact other

end Writing

section Commands

/-- What holds of the files of the coordinator. -/
structure Coordinated (control : Control) : Prop where
  single : control.active.length ≤ 1
  files : ∀ entry ∈ control.active ++ control.retired,
    isCheckpoint entry.1 = true ∧ entry.2.checkpoint_id = entry.1 ∧ entry.2.Sound
  names : (control.retired.map Prod.fst).Nodup
  finished : ∀ entry ∈ control.retired, entry.2.phase = .committed

/-- What `git` answered between two times. -/
def Answered (world : World) (arguments : List String) (since upto : ℕ) (text : String) : Prop :=
  ∃ time, since ≤ time ∧ time < upto ∧ (world.git time arguments).failed = false ∧
    text = String.ofList (strip (world.git time arguments).output.toList)

/-- The commit of the root was found to be the one that the journal prepared. -/
structure CommitFound (world : World) (journal : Journal) (since upto : ℕ) : Prop where
  parent : Answered world ["rev-parse", "HEAD^"] since upto journal.previous_root
  tree : ∃ tree, Answered world ["rev-parse", "HEAD^{tree}"] since upto tree ∧
    journal.expected_root_tree = some tree
  head : ∃ head, Answered world ["rev-parse", "HEAD"] since upto head ∧
    journal.root_coordinator_commit = some head
  message : ∃ message, Answered world ["log", "-1", "--format=%B"] since upto message ∧
    messageFailures message = []

/-- How a command changes the files. -/
inductive Moved (world : World) (start final : Control) : Request → Prop
  | begun (arguments : BeginArguments) (journal : Journal) (idle : start.active = [])
      (phase : journal.phase = .prepare) (unrecorded : journal.expected_children = [])
      (active : final.active = [(arguments.checkpoint, journal)])
      (retired : final.retired = start.retired) (sound : journal.Sound)
      (named : isCheckpoint arguments.checkpoint = true ∧
        journal.checkpoint_id = arguments.checkpoint) :
      Moved world start final (.begin arguments)
  | updated (request : Request) (name : String) (before after : Journal)
      (was : start.active = [(name, before)]) (active : final.active = [(name, after)])
      (retired : final.retired = start.retired) (evolves : before.Evolves after)
      (sound : after.Sound) : Moved world start final request
  | retired (name committed_at : String) (before after : Journal)
      (was : start.active = [(name, before)]) (gone : final.active = [])
      (evolves : before.Evolves after) (prepared : before.phase ≠ .prepare) (sound : after.Sound)
      (committed : after.phase = .committed)
      (kept : (start.retired.lookup name = none ∧
          final.retired = (name, after) :: start.retired) ∨
        ((name, after) ∈ start.retired ∧ final.retired = start.retired))
      (found : CommitFound world after start.clock final.clock) :
      Moved world start final (.finalize name committed_at)

/-- A committed journal cannot be moved away, since another one has its place. -/
def Stuck (start final : Control) : Request → Prop
  | .finalize name _ => ∃ before after other, start.active = [(name, before)] ∧
      final.active = [(name, after)] ∧ final.retired = start.retired ∧ before.Evolves after ∧
      after.Sound ∧ after.phase = .committed ∧ start.retired.lookup name = some other ∧ other ≠ after
  | _ => False

/-- How a command stops after it began to change files. -/
def Broken (world : World) (start final : Control) (request : Request) (failure : Failure) : Prop :=
  (failure = .environment ∧ Moved world start final request) ∨ Stuck start final request

variable {world : World} {start : Control} {path : String} {value after : Journal}
  {request : Request}

theorem Coordinated.only (coordinated : Coordinated start)
    (found : start.active.lookup path = some value) :
    start.active = [(path, value)] ∧ value.Sound ∧ isCheckpoint path = true ∧
      value.checkpoint_id = path := by
  have member := mem_of_lookup found
  obtain ⟨named, same, sound⟩ := coordinated.files _ (List.mem_append_left _ member)
  refine ⟨?_, sound, named, same⟩
  have single := coordinated.single
  obtain ⟨entry, shape⟩ := List.length_eq_one_iff.mp
    (le_antisymm single (List.length_pos_of_mem member))
  rw [shape] at member ⊢
  rw [List.mem_singleton.mp member]

/-- What follows the reading of a journal may use that it is the active one. -/
theorem load_followed {next : Journal → Command Unit} {done : Unit → Control → Prop}
    {stopped : Failure → Control → Prop} (coordinated : Coordinated start)
    (rest : ∀ value, start.active = [(path, value)] → value.Sound →
      Outcome (Same start) (next value) done
        fun failure control => Same start control ∨ stopped failure control) :
    Outcome (Same start) (load_journal path >>= next) done
      fun failure control => Same start control ∨ stopped failure control := by
  have loads : Outcome (Same start) (load_journal path)
      (fun value control => start.active.lookup path = some value ∧ Same start control)
      fun failure control => Same start control ∨ stopped failure control := by
    refine outcome_get.bind fun control => ?_
    intro state holds
    obtain ⟨rfl, same⟩ := holds
    dsimp only
    cases found : control.active.lookup path with
    | none => exact Outcome.throw (fun _ kept => .inl kept) control same
    | some value =>
      rw [same.active] at found
      exact Outcome.pure (fun _ kept => ⟨found, kept⟩) control same
  refine loads.bind fun value => ?_
  intro control holds
  obtain ⟨active, sound, -⟩ := coordinated.only holds.1
  exact rest value active sound control holds.2

/-- A journal that is replaced by a later one has moved. -/
theorem outcome_update (active : start.active = [(path, value)])
    (evolves : after.Sound ∧ value.Evolves after) :
    Outcome (Same start) (atomic_json world path after)
      (fun _ control => Moved world start control request)
      fun failure control => Same start control ∨ Broken world start control request failure := by
  have moves : ∀ control, (∃ before, Same start before ∧ Wrote path after before control) →
      Moved world start control request := by
    rintro control ⟨before, same, wrote⟩
    refine .updated request path value after active ?_ (wrote.retired.trans same.retired)
      evolves.2 evolves.1
    rw [wrote.active, same.active, active]
    simp [putEntry]
  refine (outcome_atomic_json (stable_same start)).weaken (fun _ same => same)
    (fun _ control wrote => moves control wrote) ?_
  rintro failure control ⟨environment, same | wrote⟩
  · exact .inl same
  · exact .inr (.inl ⟨environment, moves control wrote⟩)

/-- What follows a look at the files may use that they are as they were. -/
theorem get_followed {next : Control → Command Unit} {done : Unit → Control → Prop}
    {stopped : Failure → Control → Prop}
    (rest : ∀ seen, Same start seen → Outcome (Same start) (next seen) done stopped) :
    Outcome (Same start) (get >>= next) done stopped := by
  refine outcome_get.bind fun seen => ?_
  rintro control ⟨rfl, same⟩
  exact rest seen same seen same

theorem sound_initial_journal (arguments : BeginArguments) (current : Current)
    (previous_root now : String) {declared : List (String × Declared)} (allowlist : List String)
    (declarable : Declarable declared)
    (initial : ∀ child ∈ declared, child.2.initial.isSome = true) :
    (initial_journal arguments current previous_root now declared allowlist).Sound where
  names := declarable.names
  paths := declarable.paths
  places := declarable.places
  initial := initial
  targets := declarable.targets
  recordedNames := List.nodup_nil
  fits child member := by cases member
  named child member := by cases member
  locked := rfl
  complete later := absurd rfl later
  bound committed := by cases committed

theorem outcome_begin (arguments : BeginArguments) :
    Outcome (Same start) (command_begin world arguments)
      (fun _ control => Moved world start control (.begin arguments))
      fun failure control =>
        Same start control ∨ Broken world start control (.begin arguments) failure := by
  have stable := stable_same start
  unfold command_begin
  have none : Declarable [] := ⟨List.nodup_nil, List.nodup_nil, by simp, by simp⟩
  refine (Quiet.foldlM none fun _ _ _ declarable => quiet_declare_participant declarable).followed
    stable fun declared declarable => ?_
  refine quiet_root_paths.followed stable fun allowlist _ => ?_
  refine quiet_require.followed stable fun _ _ => ?_
  refine quiet_transition_lock.followed stable fun _ _ => ?_
  refine quiet_journal_path.followed stable fun path named => ?_
  obtain ⟨rfl, valid⟩ := named
  refine get_followed fun seen same => ?_
  refine quiet_require.followed stable fun _ idle => ?_
  rw [same.active] at idle
  refine quiet_git.followed stable fun status _ => ?_
  refine quiet_require.followed stable fun _ _ => ?_
  refine quiet_verify_begin_prerequisites.followed stable fun current _ => ?_
  refine quiet_repository_layout.discard.followed stable fun _ _ => ?_
  refine quiet_git.followed stable fun message _ => ?_
  refine quiet_require.followed stable fun _ _ => ?_
  refine quiet_git.followed stable fun previous_root _ => ?_
  refine (Quiet.mapM fun _ _ => quiet_initial_participant).followed stable fun made shape => ?_
  refine quiet_ask.followed stable fun now _ => ?_
  obtain ⟨declarable, initial⟩ := declarable_initial declarable shape
  have sound := sound_initial_journal arguments current previous_root now allowlist declarable
    initial
  have begins : ∀ control, (∃ before, Same start before ∧ Wrote arguments.checkpoint
      (initial_journal arguments current previous_root now made allowlist) before control) →
        Moved world start control (.begin arguments) := by
    rintro control ⟨before, kept, wrote⟩
    refine .begun arguments _ idle rfl rfl ?_ (wrote.retired.trans kept.retired) sound
      ⟨valid, rfl⟩
    rw [wrote.active, kept.active, idle]
    rfl
  refine (outcome_atomic_json stable).weaken (fun _ kept => kept)
    (fun _ control wrote => begins control wrote) ?_
  rintro failure control ⟨environment, kept | wrote⟩
  · exact .inl kept
  · exact .inr (.inl ⟨environment, begins control wrote⟩)

theorem outcome_declare_child (arguments : ChildArguments) (coordinated : Coordinated start) :
    Outcome (Same start) (command_declare_child world arguments)
      (fun _ control => Moved world start control (.declareChild arguments))
      fun failure control =>
        Same start control ∨ Broken world start control (.declareChild arguments) failure := by
  have stable := stable_same start
  unfold command_declare_child
  refine quiet_validated_child_path.followed stable fun relative _ => ?_
  refine quiet_require.followed stable fun _ both => ?_
  refine quiet_require.followed stable fun _ full => ?_
  refine quiet_transition_lock.followed stable fun _ _ => ?_
  refine quiet_journal_path.followed stable fun path _ => ?_
  refine load_followed coordinated fun value active sound => ?_
  refine quiet_require.followed stable fun _ preparing => ?_
  refine quiet_require.followed stable fun _ _ => ?_
  refine (quiet_verify_declared_initial_children sound.initial).followed stable
    fun verified same => ?_
  subst same
  have given : (arguments.head = none ∧ arguments.tree = none) ∨ ∃ head tree,
      arguments.head = some head ∧ arguments.tree = some tree ∧ isSha head = true ∧
        isSha tree = true := by
    cases head : arguments.head with
    | none =>
      rw [head, Option.isNone_none] at both
      exact .inl ⟨rfl, Option.isNone_iff_eq_none.mp both.symm⟩
    | some name =>
      rw [head, Option.isNone_some] at both
      cases tree : arguments.tree with
      | none =>
        rw [tree] at both
        cases both
      | some other =>
        rw [head, tree] at full
        exact .inr ⟨name, other, rfl, rfl, full.1, full.2 rfl⟩
  refine (quiet_declare_target sound preparing given).followed stable fun after evolves => ?_
  exact outcome_update active evolves

theorem outcome_declare_root (checkpoint : String) (paths : List String)
    (coordinated : Coordinated start) :
    Outcome (Same start) (command_declare_root world checkpoint paths)
      (fun _ control => Moved world start control (.declareRoot checkpoint paths))
      fun failure control =>
        Same start control ∨ Broken world start control (.declareRoot checkpoint paths) failure := by
  have stable := stable_same start
  unfold command_declare_root
  refine quiet_root_paths.followed stable fun allowlist _ => ?_
  refine quiet_transition_lock.followed stable fun _ _ => ?_
  refine quiet_journal_path.followed stable fun path _ => ?_
  refine load_followed coordinated fun value active sound => ?_
  refine quiet_require.followed stable fun _ preparing => ?_
  refine quiet_require.followed stable fun _ unchanged => ?_
  refine outcome_update active ⟨⟨sound.names, sound.paths, sound.places, sound.initial,
    sound.targets, sound.recordedNames, sound.fits, sound.named, sound.locked, ?_, sound.bound⟩,
    ⟨⟨⟨rfl, rfl, rfl, rfl, rfl⟩, le_rfl, rfl, fun _ _ kept _ => kept, fun _ _ kept => kept, ?_, ?_,
      ?_⟩, Nat.le_succ _⟩⟩
  · intro later
    exact absurd preparing later
  · rcases unchanged with empty | same
    · exact .inl empty
    · exact .inr same.symm
  · intro later
    exact absurd preparing later
  · intro committed
    rw [preparing] at committed
    cases committed

theorem quiet_check_declared {arguments : RecordArguments} {relative : String} :
    Quiet (check_declared value arguments relative) fun _ => ∃ declared,
      value.declared_children.lookup arguments.id = some declared ∧
        Recorded.Fits ⟨relative, arguments.head, arguments.tree⟩ declared := by
  unfold check_declared
  split
  · exact quiet_fail
  · rename_i declared found
    exact quiet_require.bind fun _ path => quiet_require.weaken fun _ fits =>
      ⟨declared, found, path.symm, fits⟩

theorem quiet_check_path_unrecorded {recorded : List (String × Recorded)} {id path : String} :
    Quiet (check_path_unrecorded recorded id path) fun _ => True := by
  unfold check_path_unrecorded
  split
  · exact quiet_fail
  · exact Quiet.pure trivial

theorem outcome_record_child (arguments : RecordArguments) (coordinated : Coordinated start) :
    Outcome (Same start) (command_record_child world arguments)
      (fun _ control => Moved world start control (.recordChild arguments))
      fun failure control =>
        Same start control ∨ Broken world start control (.recordChild arguments) failure := by
  have stable := stable_same start
  unfold command_record_child
  refine quiet_require.followed stable fun _ named => ?_
  refine quiet_validated_child_path.followed stable fun relative _ => ?_
  refine quiet_transition_lock.followed stable fun _ _ => ?_
  refine quiet_journal_path.followed stable fun path _ => ?_
  refine load_followed coordinated fun value active sound => ?_
  refine quiet_require.followed stable fun _ preparing => ?_
  refine quiet_require.followed stable fun _ _ => ?_
  refine (quiet_verify_declared_initial_children sound.initial).followed stable
    fun verified same => ?_
  subst same
  refine quiet_check_declared.followed stable fun _ fitting => ?_
  obtain ⟨declared, found, fits⟩ := fitting
  dsimp only
  refine quiet_verify_child_identity.followed stable fun _ _ => ?_
  refine quiet_check_path_unrecorded.followed stable fun _ _ => ?_
  refine quiet_require.followed stable fun _ unchanged => ?_
  refine quiet_harden_commit.followed stable fun _ _ => ?_
  refine quiet_sync_repository_filesystems.followed stable fun _ _ => ?_
  refine quiet_verify_child_identity.followed stable fun _ _ => ?_
  exact outcome_update active (sound_put_record sound preparing found fits named unchanged)

theorem quiet_staged_gitlink {record : List Char × List Char} :
    Quiet (staged_gitlink record) fun _ => True := by
  unfold staged_gitlink
  split
  · exact quiet_validated_child_path.bind fun _ _ => quiet_require.bind fun _ _ =>
      Quiet.pure trivial
  · exact quiet_fail

theorem quiet_verify_staged_participant_gitlinks :
    Quiet (verify_staged_participant_gitlinks world value) fun _ => True := by
  unfold verify_staged_participant_gitlinks
  refine quiet_require.bind fun _ _ => quiet_require.bind fun _ _ => quiet_gitBytes.bind
    fun raw _ => ?_
  dsimp only
  split
  · exact quiet_fail
  · have changed : ∀ made record, Quiet (changed_gitlink made record) fun _ => True :=
      fun _ _ => quiet_staged_gitlink.bind fun _ _ => quiet_require.bind fun _ _ =>
        Quiet.pure trivial
    exact (Quiet.foldlM trivial fun made record _ _ => changed made record).bind fun _ _ =>
      quiet_require.weaken fun _ _ => trivial

theorem quiet_verify_staged_link {child : String × Recorded} :
    Quiet (verify_staged_link world child) fun _ => True := by
  refine quiet_verify_child_identity.bind fun _ _ => quiet_git.bind fun index _ => ?_
  split
  · exact quiet_require.weaken fun _ _ => trivial
  · exact quiet_fail

theorem outcome_prepare_root (checkpoint : String) (coordinated : Coordinated start) :
    Outcome (Same start) (command_prepare_root world checkpoint)
      (fun _ control => Moved world start control (.prepareRoot checkpoint))
      fun failure control =>
        Same start control ∨ Broken world start control (.prepareRoot checkpoint) failure := by
  have stable := stable_same start
  unfold command_prepare_root
  refine quiet_transition_lock.followed stable fun _ _ => ?_
  refine quiet_journal_path.followed stable fun path _ => ?_
  refine load_followed coordinated fun value active sound => ?_
  refine quiet_require.followed stable fun _ preparing => ?_
  refine quiet_require.followed stable fun _ _ => ?_
  refine (quiet_verify_declared_initial_children sound.initial).followed stable
    fun verified same => ?_
  subst same
  dsimp only
  refine quiet_require.followed stable fun _ complete => ?_
  refine (Quiet.forM fun _ _ => quiet_verify_staged_link).followed stable fun _ _ => ?_
  refine quiet_verify_staged_participant_gitlinks.followed stable fun _ _ => ?_
  refine quiet_require.followed stable fun _ allowlist => ?_
  refine quiet_git.followed stable fun names _ => ?_
  refine quiet_require.followed stable fun _ _ => ?_
  refine quiet_git.followed stable fun unstaged _ => ?_
  refine quiet_git.followed stable fun untracked _ => ?_
  refine quiet_require.followed stable fun _ _ => ?_
  refine quiet_git.followed stable fun root_tree _ => ?_
  refine quiet_harden_object_closure.followed stable fun _ _ => ?_
  refine quiet_git.discard.followed stable fun _ _ => ?_
  refine quiet_onDisk.followed stable fun _ _ => ?_
  refine quiet_git.discard.followed stable fun _ _ => ?_
  refine quiet_onDisk.followed stable fun _ _ => ?_
  refine quiet_sync_repository_filesystems.followed stable fun _ _ => ?_
  refine quiet_git.followed stable fun again _ => ?_
  refine quiet_require.followed stable fun _ _ => ?_
  refine (Quiet.forM fun _ _ => quiet_verify_child_identity).followed stable fun _ _ => ?_
  refine quiet_gitBytes.followed stable fun staged _ => ?_
  exact outcome_update active (sound_prepare sound preparing complete.2.1 allowlist)

end Commands

section Finalize

variable {world : World} {start : Control} {path checkpoint : String} {value : Journal}
  {commit : RootCommit}

theorem Answered.later {arguments : List String} {since upto later : ℕ} {text : String}
    (answered : Answered world arguments since upto text) (le : upto ≤ later) :
    Answered world arguments since later text := by
  obtain ⟨time, after, before, made⟩ := answered
  exact ⟨time, after, before.trans_le le, made⟩

/-- The commit of the root, as it was read between two times. -/
structure CommitRead (world : World) (commit : RootCommit) (since upto : ℕ) : Prop where
  head : Answered world ["rev-parse", "HEAD"] since upto commit.head
  parent : Answered world ["rev-parse", "HEAD^"] since upto commit.parent
  tree : Answered world ["rev-parse", "HEAD^{tree}"] since upto commit.tree
  message : Answered world ["log", "-1", "--format=%B"] since upto commit.message

/-- An answer of `git` is one that it gave in the meantime. -/
theorem outcome_git {fact : Control → Prop} (stable : Stable fact) {arguments : List String}
    {since : ℕ} (begun : ∀ control, fact control → since ≤ control.clock) :
    Outcome fact (git world arguments)
      (fun text control => Answered world arguments since control.clock text ∧ fact control)
      fun _ => fact := by
  refine ((@outcome_ask _ (fun clock => world.git clock arguments) fact stable since
    fun _ => fact).weaken (fun control holds => ⟨holds, begun control holds⟩) (fun _ _ holds => holds)
      fun _ _ holds => holds).bind fun reply => ?_
  have answers : Stable fun control => (∃ time, since ≤ time ∧ time < control.clock ∧
      world.git time arguments = reply) ∧ fact control := by
    rintro first second same ⟨⟨time, after, before, made⟩, holds⟩
    exact ⟨⟨time, after, before.trans_le same.clock, made⟩, stable first second same holds⟩
  refine ((quiet_require _ answers).weaken (fun _ holds => holds) (fun _ _ holds => holds)
    fun _ _ holds => holds.2).bind fun _ => Outcome.pure ?_
  rintro control ⟨passed, ⟨time, after, before, rfl⟩, holds⟩
  exact ⟨⟨time, after, before, passed, rfl⟩, holds⟩

/-- What was answered stays answered. -/
theorem stable_answered {fact : Control → Prop} (stable : Stable fact) {arguments : List String}
    {since : ℕ} {text : String} :
    Stable fun control => Answered world arguments since control.clock text ∧ fact control := by
  rintro first second same ⟨answered, holds⟩
  exact ⟨answered.later same.clock, stable first second same holds⟩

theorem outcome_root_commit :
    Outcome (Same start) (root_commit world)
      (fun commit control =>
        CommitRead world commit start.clock control.clock ∧ Same start control)
      fun _ => Same start := by
  unfold root_commit
  have stable := stable_same start
  refine (outcome_git stable fun _ same => same.clock).bind fun head => ?_
  refine ((outcome_git (stable_answered stable) fun _ holds => holds.2.clock).weaken
    (fun _ holds => holds) (fun _ _ holds => holds) fun _ _ holds => holds.2).bind fun parent => ?_
  refine ((outcome_git (stable_answered (stable_answered stable))
    fun _ holds => holds.2.2.clock).weaken (fun _ holds => holds) (fun _ _ holds => holds)
      fun _ _ holds => holds.2.2).bind fun tree => ?_
  refine ((outcome_git (stable_answered (stable_answered (stable_answered stable)))
    fun _ holds => holds.2.2.2.clock).weaken (fun _ holds => holds) (fun _ _ holds => holds)
      fun _ _ holds => holds.2.2.2).bind fun message => Outcome.pure ?_
  rintro control ⟨message, tree, parent, head, same⟩
  exact ⟨⟨head, parent, tree, message⟩, same⟩

theorem quiet_check_root_commit :
    Quiet (check_root_commit value checkpoint commit) fun _ =>
      commit.parent = value.previous_root ∧ some commit.tree = value.expected_root_tree ∧
        messageFailures commit.message = [] :=
  quiet_require.bind fun _ parent => quiet_require.bind fun _ tree => quiet_require.bind
    fun _ message => quiet_require.weaken fun _ _ => ⟨parent, tree, message⟩

theorem quiet_verify_committed_link {child : String × Recorded} :
    Quiet (verify_committed_link world child) fun _ => True := by
  refine quiet_git.bind fun record _ => ?_
  have checked : Quiet (check_link child record) fun _ => True := by
    unfold check_link
    split
    · exact quiet_require.weaken fun _ _ => trivial
    · exact quiet_fail
  exact checked.bind fun _ _ => quiet_verify_child_identity

theorem quiet_check_current {current : Option Current} :
    Quiet (check_current checkpoint current) fun _ => True := by
  cases current with
  | none => exact Quiet.throw
  | some current => exact quiet_require.weaken fun _ _ => trivial

theorem quiet_check_committed {head : String} :
    Quiet (check_committed value head) fun _ =>
      value.phase = .committed → value.root_coordinator_commit = some head :=
  quiet_require.bind fun _ bound => quiet_require.weaken fun _ _ => bound

theorem quiet_check_unmoved {head : String} :
    Quiet (check_unmoved world head) fun _ => True :=
  quiet_git.bind fun _ _ => quiet_require.bind fun _ _ => quiet_ask.bind fun _ _ =>
    quiet_require.bind fun _ _ => quiet_git.bind fun _ _ => quiet_require.bind fun _ _ =>
      quiet_git.bind fun _ _ => quiet_require.weaken fun _ _ => trivial

theorem quiet_check_barrier {head tree : String} :
    Quiet (check_barrier world head tree) fun _ => True :=
  quiet_git.bind fun _ _ => quiet_require.bind fun _ _ => quiet_git.bind fun _ _ =>
    quiet_require.bind fun _ _ => quiet_git.bind fun _ _ => quiet_require.weaken fun _ _ => trivial

/-- The active journal is committed, and names the commit that was found. -/
def Committed (world : World) (start : Control) (path : String) (value : Journal)
    (control : Control) : Prop :=
  ∃ after : Journal, after.Sound ∧ value.Evolves after ∧ after.phase = .committed ∧
    control.active = [(path, after)] ∧ control.retired = start.retired ∧
      CommitFound world after start.clock control.clock

theorem stable_committed : Stable (Committed world start path value) := by
  rintro first second same ⟨after, sound, evolves, committed, active, retired, found⟩
  refine ⟨after, sound, evolves, committed, same.active.trans active, same.retired.trans retired,
    found.parent.later same.clock, ?_, ?_, ?_⟩
  · obtain ⟨tree, answered, bound⟩ := found.tree
    exact ⟨tree, answered.later same.clock, bound⟩
  · obtain ⟨head, answered, bound⟩ := found.head
    exact ⟨head, answered.later same.clock, bound⟩
  · obtain ⟨message, answered, valid⟩ := found.message
    exact ⟨message, answered.later same.clock, valid⟩

theorem stable_read :
    Stable fun control => CommitRead world commit start.clock control.clock ∧ Same start control := by
  rintro first second same ⟨read, kept⟩
  exact ⟨⟨read.head.later same.clock, read.parent.later same.clock, read.tree.later same.clock,
    read.message.later same.clock⟩, kept.trans same⟩

/-- The commit of the root is bound in the journal. -/
theorem outcome_commit_journal {committed_at : String} (active : start.active = [(path, value)])
    (sound : value.Sound) (later : value.phase ≠ .prepare)
    (checked : commit.parent = value.previous_root ∧ some commit.tree = value.expected_root_tree ∧
      messageFailures commit.message = [])
    (bound : value.phase = .committed → value.root_coordinator_commit = some commit.head) :
    Outcome
      (fun control => CommitRead world commit start.clock control.clock ∧ Same start control)
      (commit_journal world path value commit.head committed_at)
      (fun _ => Committed world start path value)
      fun failure control => Same start control ∨
        Broken world start control (.finalize checkpoint committed_at) failure := by
  obtain ⟨parent, tree, message⟩ := checked
  unfold commit_journal
  split
  · rename_i prepared
    have committed := @sound_commit value commit.head committed_at sound prepared
    refine (outcome_atomic_json stable_read).weaken (fun _ holds => holds) ?_ ?_
    · rintro _ control ⟨before, ⟨read, same⟩, wrote⟩
      refine ⟨_, committed.1, committed.2, rfl, ?_, wrote.retired.trans same.retired,
        parent ▸ read.parent.later wrote.clock, ⟨_, read.tree.later wrote.clock, tree.symm⟩,
        ⟨_, read.head.later wrote.clock, rfl⟩, ⟨_, read.message.later wrote.clock, message⟩⟩
      rw [wrote.active, same.active, active]
      simp [putEntry]
    · rintro failure control ⟨environment, ⟨-, same⟩ | ⟨before, ⟨-, same⟩, wrote⟩⟩
      · exact .inl same
      · refine .inr (.inl ⟨environment, .updated _ path value _ active ?_
          (wrote.retired.trans same.retired) committed.2 committed.1⟩)
        rw [wrote.active, same.active, active]
        simp [putEntry]
  · rename_i other
    have committed : value.phase = .committed := by
      cases phase : value.phase with
      | prepare => exact absurd phase later
      | prepared => exact absurd phase other
      | committed => rfl
    refine Outcome.pure ?_
    rintro control ⟨read, same⟩
    exact ⟨value, sound, .refl value, committed, same.active.trans active, same.retired,
      parent ▸ read.parent, ⟨_, read.tree, tree.symm⟩, ⟨_, read.head, bound committed⟩,
      ⟨_, read.message, message⟩⟩

/-- A committed journal is moved away, or stays as it is. -/
theorem outcome_retire {committed_at : String} (active : start.active = [(path, value)])
    (prepared : value.phase ≠ .prepare) :
    Outcome (Committed world start path value) (retire_journal world path)
      (fun _ control => Moved world start control (.finalize path committed_at) ∧
        control.active = [])
      fun failure control => Same start control ∨
        Broken world start control (.finalize path committed_at) failure := by
  have leaves : ∀ control, (∃ before, Committed world start path value before ∧
      Left path before control) → Moved world start control (.finalize path committed_at) ∧
        control.active = [] := by
    rintro control ⟨before, ⟨after, sound, evolves, phase, here, retired, found⟩, left⟩
    have later := left.clock
    have gone : control.active = [] := by
      rw [left.active, here]
      simp
    refine ⟨.retired path committed_at value after active gone evolves prepared sound phase ?_
      ⟨found.parent.later later, ?_, ?_, ?_⟩, gone⟩
    · rcases left.retired with ⟨absent, moved⟩ | ⟨⟨journal, there, same⟩, kept⟩
      · refine .inl ⟨retired ▸ absent, ?_⟩
        rw [moved, here, retired]
        simp
      · rw [here, List.lookup_cons_self] at same
        obtain rfl := Option.some.inj same
        exact .inr ⟨retired ▸ mem_of_lookup there, kept.trans retired⟩
    · obtain ⟨tree, answered, bound⟩ := found.tree
      exact ⟨tree, answered.later later, bound⟩
    · obtain ⟨head, answered, bound⟩ := found.head
      exact ⟨head, answered.later later, bound⟩
    · obtain ⟨message, answered, valid⟩ := found.message
      exact ⟨message, answered.later later, valid⟩
  refine (outcome_retire_journal stable_committed).weaken (fun _ holds => holds)
    (fun _ control holds => leaves control holds) ?_
  rintro failure control (⟨committed, how⟩ | ⟨environment, left⟩)
  · obtain ⟨after, sound, evolves, phase, here, retired, found⟩ := committed
    rcases how with environment | ⟨other, there, differs⟩
    · exact .inr (.inl ⟨environment, .updated _ path value after active here retired evolves sound⟩)
    · refine .inr (.inr ⟨value, after, other, active, here, retired, evolves, sound, phase,
        retired ▸ there, ?_⟩)
      rintro rfl
      rw [here] at differs
      exact differs List.lookup_cons_self
  · exact .inr (.inl ⟨environment, (leaves control left).1⟩)

theorem outcome_finalize (committed_at : String) (coordinated : Coordinated start) :
    Outcome (Same start) (command_finalize world checkpoint committed_at)
      (fun _ control => Moved world start control (.finalize checkpoint committed_at) ∧
        control.active = [])
      fun failure control => Same start control ∨
        Broken world start control (.finalize checkpoint committed_at) failure := by
  have stable := stable_same start
  unfold command_finalize
  refine quiet_transition_lock.followed stable fun _ _ => ?_
  refine quiet_journal_path.followed stable fun path named => ?_
  obtain ⟨rfl, -⟩ := named
  refine load_followed coordinated fun value active sound => ?_
  refine (quiet_verify_declared_initial_children sound.initial).followed stable
    fun verified same => ?_
  subst same
  refine quiet_require.followed stable fun _ later => ?_
  refine (outcome_root_commit.weaken (fun _ same => same) (fun _ _ holds => holds)
    fun _ _ same => .inl same).bind fun commit => ?_
  -- from here on, what was read of the commit is kept beside the files
  have read := @stable_read world start commit
  have forget : ∀ (failure : Failure) control,
      ((CommitRead world commit start.clock control.clock ∧ Same start control) ∨
        (Same start control ∨
          Broken world start control (.finalize path committed_at) failure)) →
      (Same start control ∨
        Broken world start control (.finalize path committed_at) failure) := by
    rintro failure control (⟨-, same⟩ | stopped)
    · exact .inl same
    · exact stopped
  refine Outcome.weaken ?_ (fun _ holds => holds) (fun _ _ holds => holds) forget
  refine quiet_check_root_commit.followed read fun _ checked => ?_
  refine (Quiet.forM fun _ _ => quiet_verify_committed_link).followed read fun _ _ => ?_
  refine quiet_ask.followed read fun current _ => ?_
  refine quiet_check_current.followed read fun _ _ => ?_
  refine quiet_check_committed.followed read fun _ bound => ?_
  refine quiet_check_unmoved.followed read fun _ _ => ?_
  refine quiet_harden_commit.followed read fun _ _ => ?_
  refine quiet_sync_repository_filesystems.followed read fun _ _ => ?_
  refine quiet_check_barrier.followed read fun _ _ => ?_
  refine (Quiet.forM fun _ _ => quiet_verify_child_identity).followed read fun _ _ => ?_
  have ends := (outcome_commit_journal active sound later checked bound).bind fun _ =>
    @outcome_retire world start path _ committed_at active later
  exact ends.weaken (fun _ holds => holds) (fun _ _ holds => holds) fun _ _ stopped => .inr stopped

end Finalize

section Law

variable {world : World} {start final control : Control} {request : Request}

/-- Every command is done after it moved a file, or stops. -/
theorem outcome_command (world : World) (coordinated : Coordinated start) (request : Request) :
    Outcome (Same start) (command world request)
      (fun _ control => Moved world start control request)
      fun failure control => Same start control ∨ Broken world start control request failure := by
  cases request with
  | begin arguments => exact outcome_begin arguments
  | declareChild arguments => exact outcome_declare_child arguments coordinated
  | declareRoot checkpoint path => exact outcome_declare_root checkpoint path coordinated
  | recordChild arguments => exact outcome_record_child arguments coordinated
  | prepareRoot checkpoint => exact outcome_prepare_root checkpoint coordinated
  | finalize checkpoint committed_at =>
    exact (outcome_finalize committed_at coordinated).weaken (fun _ same => same)
      (fun _ _ moved => moved.1) fun _ _ stopped => stopped

/-- A file that moved keeps the files of the coordinator in order. -/
theorem Moved.coordinated (moved : Moved world start final request)
    (coordinated : Coordinated start) : Coordinated final := by
  cases moved with
  | begun arguments journal idle phase unrecorded active retired sound named =>
    refine ⟨by rw [active]; exact le_rfl, ?_, by rw [retired]; exact coordinated.names,
      by rw [retired]; exact coordinated.finished⟩
    rw [active, retired]
    intro entry member
    rcases List.mem_append.mp member with new | old
    · rw [List.mem_singleton.mp new]
      exact ⟨named.1, named.2, sound⟩
    · exact coordinated.files entry (List.mem_append_right _ old)
  | updated request name before after was active retired evolves sound =>
    refine ⟨by rw [active]; exact le_rfl, ?_, by rw [retired]; exact coordinated.names,
      by rw [retired]; exact coordinated.finished⟩
    rw [active, retired]
    intro entry member
    rcases List.mem_append.mp member with new | old
    · obtain ⟨valid, same, -⟩ := coordinated.files (name, before)
        (by rw [was]; exact List.mem_append_left _ List.mem_cons_self)
      rw [List.mem_singleton.mp new]
      exact ⟨valid, evolves.identity.1.trans same, sound⟩
    · exact coordinated.files entry (List.mem_append_right _ old)
  | retired name committed_at before after was gone evolves prepared sound committed kept found =>
    rcases kept with ⟨absent, moved⟩ | ⟨there, same⟩
    · refine ⟨by rw [gone]; exact Nat.zero_le 1, ?_, ?_, ?_⟩
      · rw [gone, moved, List.nil_append]
        intro entry member
        rcases List.mem_cons.mp member with rfl | old
        · obtain ⟨valid, same, -⟩ := coordinated.files (name, before)
            (by rw [was]; exact List.mem_append_left _ List.mem_cons_self)
          exact ⟨valid, evolves.identity.1.trans same, sound⟩
        · exact coordinated.files entry (List.mem_append_right _ old)
      · rw [moved, List.map_cons, List.nodup_cons]
        refine ⟨?_, coordinated.names⟩
        intro member
        obtain ⟨entry, inside, same⟩ := List.mem_map.mp member
        rw [List.lookup_eq_none_iff] at absent
        have differs := absent entry inside
        rw [same] at differs
        simp at differs
      · rw [moved]
        intro entry member
        rcases List.mem_cons.mp member with rfl | old
        · exact committed
        · exact coordinated.finished entry old
    · refine ⟨by rw [gone]; exact Nat.zero_le 1, ?_, by rw [same]; exact coordinated.names,
        by rw [same]; exact coordinated.finished⟩
      rw [gone, same, List.nil_append]
      exact fun entry member => coordinated.files entry (List.mem_append_right _ member)

/-- A journal that is stuck is one that was replaced by a later one. -/
theorem Stuck.moved (stuck : Stuck start final request) : Moved world start final request := by
  cases request with
  | finalize name committed_at =>
    obtain ⟨before, after, other, was, active, retired, evolves, sound, -⟩ := stuck
    exact .updated _ name before after was active retired evolves sound
  | _ => exact stuck.elim

/-- What holds of the files and of each command on them. -/
structure TransactionLaw (world : World) (control : Control) : Prop where
  files : Coordinated control
  done : ∀ request final, (command world request).result control = (.ok (), final) →
    Moved world control final request
  finalized : ∀ checkpoint committed_at final,
    (command_finalize world checkpoint committed_at).result control = (.ok (), final) →
      final.active = []
  kept : ∀ name before, control.active = [(name, before)] → ∀ requests,
    (∃ early, early <+: requests ∧ (runFrom (step world) control early).active = []) ∨
      ∃ after, (runFrom (step world) control requests).active = [(name, after)] ∧
        before.Keeps after
  refused : ∀ request text final,
    (command world request).result control = (.error (.transaction text), final) →
      (final.active = control.active ∧ final.retired = control.retired) ∨
        Stuck control final request
  interrupted : ∀ request final,
    (command world request).result control = (.error .environment, final) →
      (final.active = control.active ∧ final.retired = control.retired) ∨
        Moved world control final request

/-- A step moves a file or leaves all of them. -/
theorem step_cases (coordinated : Coordinated control) (request : Request) :
    ((step world control request).active = control.active ∧
        (step world control request).retired = control.retired) ∨
      Moved world control (step world control request) request := by
  obtain ⟨done, stopped⟩ := outcome_command world coordinated request control (.refl control)
  unfold Checkpoint.step
  rcases ran : (command world request).result control with ⟨ended, final⟩
  cases ended with
  | ok value => exact .inr (done value final ran)
  | error failure =>
    rcases stopped failure final ran with same | ⟨-, moved⟩ | stuck
    · exact .inl ⟨same.active, same.retired⟩
    · exact .inr moved
    · exact .inr (Stuck.moved stuck)

theorem Coordinated.step (coordinated : Coordinated control) (request : Request) :
    Coordinated (step world control request) := by
  rcases @step_cases world control coordinated request with ⟨active, retired⟩ | moved
  · refine ⟨by rw [active]; exact coordinated.single, ?_,
      by rw [retired]; exact coordinated.names, by rw [retired]; exact coordinated.finished⟩
    rw [active, retired]
    exact coordinated.files
  · exact moved.coordinated coordinated

/-- While a journal is active, it keeps what it has. -/
theorem Coordinated.kept {name : String} {before : Journal} (coordinated : Coordinated control)
    (requests : List Request) (active : control.active = [(name, before)]) :
    (∃ early, early <+: requests ∧ (runFrom (Checkpoint.step world) control early).active = []) ∨
      ∃ after, (runFrom (Checkpoint.step world) control requests).active = [(name, after)] ∧
        before.Keeps after := by
  induction requests generalizing control before with
  | nil => exact .inr ⟨before, active, (Journal.Evolves.refl before).toKeeps⟩
  | cons request rest ih =>
    have later : ∀ middle, (Checkpoint.step world control request).active = [(name, middle)] →
        before.Keeps middle → (∃ early, early <+: request :: rest ∧
          (runFrom (Checkpoint.step world) control early).active = []) ∨
            ∃ after, (runFrom (Checkpoint.step world) control (request :: rest)).active =
              [(name, after)] ∧ before.Keeps after := by
      intro middle here keeps
      rcases ih (coordinated.step request) here with ⟨early, initial, gone⟩ | ⟨after, there, kept⟩
      · exact .inl ⟨request :: early, List.cons_prefix_cons.mpr ⟨rfl, initial⟩, gone⟩
      · exact .inr ⟨after, there, keeps.trans kept⟩
    rcases @step_cases world control coordinated request with ⟨same, -⟩ | moved
    · exact later before (same.trans active) (Journal.Evolves.refl before).toKeeps
    · cases moved with
      | begun _ _ idle =>
        rw [active] at idle
        cases idle
      | updated _ other was after old new _ evolves =>
        rw [active] at old
        cases old
        exact later after new evolves.toKeeps
      | retired name committed_at _ _ _ gone =>
        exact .inl ⟨[.finalize name committed_at], by simp, gone⟩

theorem Coordinated.law (world : World) (coordinated : Coordinated control) :
    TransactionLaw world control where
  files := coordinated
  done request final ran :=
    (outcome_command world coordinated request control (.refl control)).1 () final ran
  finalized checkpoint committed_at final ran :=
    ((outcome_finalize committed_at coordinated control (.refl control)).1 () final ran).2
  kept name before active requests := coordinated.kept requests active
  refused request text final ran := by
    rcases (outcome_command world coordinated request control (.refl control)).2 _ final ran with
      same | ⟨impossible, -⟩ | stuck
    · exact .inl ⟨same.active, same.retired⟩
    · cases impossible
    · exact .inr stuck
  interrupted request final ran := by
    rcases (outcome_command world coordinated request control (.refl control)).2 _ final ran with
      same | ⟨-, moved⟩ | stuck
    · exact .inl ⟨same.active, same.retired⟩
    · exact .inr moved
    · exact .inr stuck.moved

/-- The law holds in every run of commands from a repository without journals, whatever the
outside answers. -/
theorem transactionLaw_of_run (world : World) (requests : List Request) :
    TransactionLaw world (runFrom (step world) {} requests) := by
  refine Coordinated.law world (invariant_runFrom (step world) Coordinated
    (fun _ request coordinated => coordinated.step request) ?_ requests)
  exact ⟨Nat.zero_le 1, fun entry member => (by cases member), List.nodup_nil,
    fun entry member => (by cases member)⟩

end Law

end GemSim.Checkpoint
