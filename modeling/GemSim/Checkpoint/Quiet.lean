import GemSim.Checkpoint.Commands

/-!
# What the commands only ask

Most of what a command does is to ask and to stop. Such a program leaves the files as they are,
and so every fact about the files stays true along it, whether it is done or stops.

## Main definitions

* `Same` — the files are as before, some time later
* `Quiet` — a program that leaves the files as they are

## Main results

* `Quiet.bind`, `Quiet.forM`, `Quiet.mapM` — quiet programs that are made of others
* `quiet_verify_declared_initial_children` — the initial identities are not changed
-/

namespace GemSim.Checkpoint

open GemSim.Lib GemSim.Lib.Program

variable {Value Other : Type} {program : Command Value} {next : Value → Command Other}
  {post : Value → Prop} {ends : Other → Prop} {world : World}

/-- The files are as before, some time later. -/
structure Same (before after : Control) : Prop where
  active : after.active = before.active
  retired : after.retired = before.retired
  clock : before.clock ≤ after.clock

theorem Same.refl (control : Control) : Same control control := ⟨rfl, rfl, le_rfl⟩

theorem Same.trans {first second third : Control} (one : Same first second)
    (other : Same second third) : Same first third :=
  ⟨other.active.trans one.active, other.retired.trans one.retired, one.clock.trans other.clock⟩

/-- A fact that stays true while the files are as they are. -/
def Stable (fact : Control → Prop) : Prop := ∀ before after, Same before after → fact before →
  fact after

theorem stable_same (start : Control) : Stable (Same start) :=
  fun _ _ same begun => begun.trans same

/-- A program that leaves the files as they are, with what holds of its value. -/
def Quiet (program : Command Value) (post : Value → Prop) : Prop :=
  ∀ fact, Stable fact →
    Outcome fact program (fun value control => post value ∧ fact control) fun _ => fact

namespace Quiet

theorem pure {value : Value} (holds : post value) : Quiet (Pure.pure value) post :=
  fun _ _ => Outcome.pure fun _ start => ⟨holds, start⟩

theorem throw {failure : Failure} : Quiet (MonadExcept.throw failure) post :=
  fun _ _ => Outcome.throw fun _ start => start

theorem bind (first : Quiet program post) (second : ∀ value, post value → Quiet (next value) ends) :
    Quiet (program >>= next) ends := by
  intro fact stable
  refine (first fact stable).bind fun value => ?_
  intro state holds
  exact second value holds.1 fact stable state holds.2

theorem weaken {weaker : Value → Prop} (quiet : Quiet program post)
    (implies : ∀ value, post value → weaker value) : Quiet program weaker :=
  fun fact stable => (quiet fact stable).weaken (fun _ start => start)
    (fun value _ holds => ⟨implies value holds.1, holds.2⟩) fun _ _ start => start

theorem forM {list : List Value} {each : Value → Command Unit}
    (quiet : ∀ element ∈ list, Quiet (each element) fun _ => True) :
    Quiet (list.forM each) fun _ => True := by
  intro fact stable
  refine Outcome.weaken (@Outcome.forM Failure Control Value fact (fun _ => fact) list each ?_)
    (fun _ start => start) (fun _ _ holds => ⟨trivial, holds⟩) fun _ _ start => start
  intro element member
  exact (quiet element member fact stable).weaken (fun _ start => start)
    (fun _ _ holds => holds.2) fun _ _ start => start

theorem mapM {list : List Value} {each : Value → Command Other} {made : Value → Other → Prop}
    (quiet : ∀ element ∈ list, Quiet (each element) (made element)) :
    Quiet (list.mapM each) (List.Forall₂ made list) :=
  fun fact stable => Outcome.mapM fun element member => quiet element member fact stable

theorem foldlM {list : List Value} {each : Other → Value → Command Other} {start : Other}
    (begun : ends start)
    (quiet : ∀ made element, element ∈ list → ends made → Quiet (each made element) ends) :
    Quiet (list.foldlM each start) ends := by
  induction list generalizing start with
  | nil => exact pure begun
  | cons element rest ih =>
    rw [List.foldlM_cons]
    refine (quiet start element List.mem_cons_self begun).bind fun made holds => ?_
    exact ih holds fun made other member => quiet made other (List.mem_cons_of_mem element member)

theorem discard (quiet : Quiet program post) : Quiet (Functor.discard program) fun _ => True := by
  have mapped : Functor.discard program = program >>= fun _ => Pure.pure () := rfl
  rw [mapped]
  exact quiet.bind fun _ _ => pure trivial

end Quiet

section Asking

theorem quiet_fail {text : String} : Quiet (fail text) post := Quiet.throw

theorem quiet_require {holds : Prop} [Decidable holds] {text : String} :
    Quiet (require holds text) fun _ => holds := by
  unfold require
  split
  · rename_i given
    exact Quiet.pure given
  · exact quiet_fail

/-- An answer of the outside is one at a time after the fact held. -/
theorem outcome_ask {answer : ℕ → Value} {fact : Control → Prop} (stable : Stable fact)
    (since : ℕ) (stopped : Failure → Control → Prop) :
    Outcome (fun control => fact control ∧ since ≤ control.clock) (ask answer)
      (fun value control => (∃ time, since ≤ time ∧ time < control.clock ∧ answer time = value) ∧
        fact control) stopped := by
  intro control start
  refine ⟨?_, ?_⟩
  · intro value final ran
    cases ran
    refine ⟨⟨control.clock, start.2, Nat.lt_succ_self _, rfl⟩, ?_⟩
    exact stable control _ ⟨rfl, rfl, Nat.le_succ _⟩ start.1
  · intro failure final ran
    cases ran

theorem quiet_ask {answer : ℕ → Value} : Quiet (ask answer) fun _ => True := by
  intro fact stable
  exact (outcome_ask stable 0 fun _ => fact).weaken (fun control start => ⟨start, Nat.zero_le _⟩)
    (fun _ _ holds => ⟨trivial, holds.2⟩) fun _ _ start => start

theorem quiet_onDisk : Quiet (onDisk world) fun _ => True := by
  refine quiet_ask.bind fun succeeds _ => ?_
  cases succeeds with
  | true => exact Quiet.pure trivial
  | false => exact Quiet.throw

theorem quiet_git {arguments : List String} : Quiet (git world arguments) fun _ => True :=
  quiet_ask.bind fun _ _ => quiet_require.bind fun _ _ => Quiet.pure trivial

theorem quiet_gitUnchecked {arguments : List String} :
    Quiet (gitUnchecked world arguments) fun _ => True :=
  quiet_ask.bind fun _ _ => Quiet.pure trivial

theorem quiet_gitBytes {arguments : List String} : Quiet (gitBytes world arguments) fun _ => True :=
  quiet_ask.bind fun _ _ => quiet_require.bind fun _ _ => Quiet.pure trivial

end Asking

section Repositories

theorem quiet_transition_lock : Quiet (transition_lock world) fun _ => True :=
  quiet_git.discard.bind fun _ _ => quiet_onDisk

theorem quiet_journal_path {checkpoint : String} :
    Quiet (journal_path checkpoint) fun path =>
      path = checkpoint ∧ isCheckpoint checkpoint = true :=
  quiet_require.bind fun _ valid => Quiet.pure ⟨rfl, valid⟩

theorem quiet_verify_child_identity {child_id : String} {child : Recorded} :
    Quiet (verify_child_identity world child_id child) fun _ => True :=
  quiet_git.bind fun _ _ => quiet_require.bind fun _ _ => quiet_git.bind fun _ _ =>
    quiet_require.bind fun _ _ => quiet_git.bind fun _ _ => quiet_require.weaken fun _ _ => trivial

theorem quiet_repository_layout {repo label : String} :
    Quiet (repository_layout world repo label) fun _ => True :=
  quiet_git.bind fun _ _ => quiet_git.bind fun _ _ => quiet_gitUnchecked.bind fun _ _ =>
    quiet_require.bind fun _ _ => quiet_require.bind fun _ _ => Quiet.pure trivial

theorem quiet_sync_repository_filesystems {repositories : List String} :
    Quiet (sync_repository_filesystems world repositories) fun _ => True :=
  (Quiet.forM fun _ _ => quiet_repository_layout.discard).bind fun _ _ => quiet_onDisk

theorem quiet_harden_object_closure {repo positive label : String} :
    Quiet (harden_object_closure world repo positive label) fun _ => True :=
  quiet_repository_layout.bind fun _ _ => quiet_onDisk.bind fun _ _ => quiet_ask.bind fun _ _ =>
    quiet_require.bind fun _ _ => quiet_onDisk.bind fun _ _ => quiet_git.discard

theorem quiet_harden_commit {repo head label : String} :
    Quiet (harden_commit world repo head label) fun _ => True :=
  quiet_git.bind fun _ _ => quiet_require.bind fun _ _ => quiet_harden_object_closure.bind
    fun _ _ => quiet_repository_layout.discard.bind fun _ _ => quiet_onDisk

theorem quiet_initial_child_identity {previous_root child_id relative : String} :
    Quiet (initial_child_identity world previous_root child_id relative) fun _ => True := by
  refine quiet_git.bind fun listing _ => ?_
  split
  · exact Quiet.pure trivial
  split
  · dsimp only
    split
    · exact quiet_require.bind fun _ _ => quiet_ask.bind fun _ _ => quiet_require.bind fun _ _ =>
        quiet_git.bind fun _ _ => quiet_require.bind fun _ _ => Quiet.pure trivial
    · exact quiet_fail
  · exact quiet_fail

/-- The path of a child leads to a directory under `projects`. -/
def ChildPath (path : String) : Prop :=
  ∃ name, path = String.ofList ("projects".toList ++ '/' :: name) ∧ '/' ∉ name ∧ name ≠ [] ∧
    name ≠ ['.'] ∧ name ≠ dotdot

theorem quiet_validated_child_path {value : String} :
    Quiet (validated_child_path value) ChildPath := by
  refine quiet_require.bind fun _ safe => Quiet.pure ?_
  obtain ⟨relative, noDots, two, head⟩ := safe
  have parts := List.length_eq_two.mp two
  obtain ⟨first, name, shape⟩ := parts
  rw [shape, List.head?_cons] at head
  obtain rfl := Option.some.inj head
  have member : name ∈ (value.toList.splitOn '/').filter significant := by
    change name ∈ (parsePath value.toList).parts
    rw [shape]
    simp
  obtain ⟨split, significant⟩ := List.mem_filter.mp member
  have shown : name ≠ [] ∧ name ≠ ['.'] := by simpa [Lib.significant] using significant
  have rootless : (parsePath value.toList).root = 0 := not_not.mp relative
  refine ⟨name, ?_, notMem_of_mem_splitOn _ _ split, shown.1, shown.2, ?_⟩
  · simp [PurePosixPath.text, rootless, shape, List.intercalate]
  · intro dots
    refine noDots ?_
    rw [shape, dots]
    simp

/-- An initial identity that is there is not changed. -/
theorem quiet_verify_initial_child {previous_root : String} {child : String × Declared}
    (initial : child.2.initial.isSome = true) :
    Quiet (verify_initial_child world previous_root child) fun verified => child = verified := by
  refine quiet_require.bind fun _ _ => quiet_validated_child_path.bind fun _ _ =>
    quiet_initial_child_identity.bind fun expected _ => ?_
  obtain ⟨identity, given⟩ := Option.isSome_iff_exists.mp initial
  rw [given]
  exact quiet_require.bind fun _ _ => Quiet.pure rfl

theorem quiet_verify_declared_initial_children {value : Journal}
    (initial : ∀ child ∈ value.declared_children, child.2.initial.isSome = true) :
    Quiet (verify_declared_initial_children world value) fun verified => verified = value := by
  refine quiet_require.bind fun _ _ => quiet_require.bind fun _ _ => ?_
  refine (Quiet.mapM fun child member => quiet_verify_initial_child (initial child member)).bind
    fun declared same => Quiet.pure ?_
  rw [List.forall₂_eq_eq_eq] at same
  rw [← same]

end Repositories

end GemSim.Checkpoint
