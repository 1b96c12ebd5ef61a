import GemSim.Collective.Engine
import GemSim.Lib.Run

/-!
# The lifecycle of the allreduce engine

An engine is ready and holds its two resources, or it is aborted or closed and has released
them. There are two exceptions. An abort whose deadline cannot be computed raises after the
engine was marked aborted and before anything was released, and a call in any other process
than the one that made the engine marks it aborted and releases nothing.

The sequence numbers of the collectives of a run only grow, so none is used twice.

## Main definitions

* `EngineLaw`, `StepLaw` — what holds between calls, and of one call
* `Timed` — an abort that gets as far computes its deadline
* `Orderly` — a call of a ready engine is timed, and made in its process

## Main results

* `stepLaw_iff_of_run` — along runs of orderly calls, the law holds exactly of the orderly calls
* `planned_and_unrepeated` — every plan covers its tensor, and no sequence number is reused
-/

namespace GemSim.Collective

open GemSim.Lib GemSim.Lib.Checks

namespace AllReduceEngine

variable {engine : AllReduceEngine} {call : EngineCall} {operation : EngineOperation}

def held (engine : AllReduceEngine) : Resource → Bool
  | .carrier => engine.carrier
  | .liveRank => engine.liveRank

/-- The engine is aborted or closed. -/
def Over (engine : AllReduceEngine) : Prop := engine.state = .aborted ∨ engine.state = .closed

/-- What holds between calls. -/
structure EngineLaw (engine : AllReduceEngine) : Prop where
  once : engine.releases.Pairwise fun earlier later =>
    later.resource = earlier.resource → earlier.succeeded = false
  dropped : Over engine → ∀ resource, engine.held resource = false ∧
    ∃ release ∈ engine.releases, release.resource = resource
  kept : engine.state = .ready → ∀ resource, engine.held resource = true
  final : Over engine → ∀ calls call, ((runFrom step engine calls).run call).outcome ≠ .result

/-- The call is an abort with an argument that is out of range. -/
def badAbort (engine : AllReduceEngine) : EngineOperation → Bool
  | .abort reason failedRank timeoutNs _ =>
    !(engine.validateAbort reason failedRank).isOk ||
      !(exactInteger (timeoutNs.getD (some 5000000000)) 1 Uint64Max).isOk
  | _ => false

/-- What holds of one call. -/
structure StepLaw (engine : AllReduceEngine) (call : EngineCall) : Prop where
  after : EngineLaw (engine.step call)
  refused : engine.state = .ready → engine.badAbort call.operation = true →
    (engine.step call).state = .ready ∧ ∀ resource, (engine.step call).held resource = true

/-- An abort that passes its other checks computes its deadline. -/
def Timed (engine : AllReduceEngine) : EngineOperation → Prop
  | .abort reason failedRank timeoutNs env =>
    engine.state = .ready → (engine.validateAbort reason failedRank).isOk = true →
      (deadline timeoutNs 5000000000 env.deadline).isOk = true
  | _ => True

/-- A call of an engine that is ready is made in the process of the engine, and is timed. -/
def Orderly (engine : AllReduceEngine) (call : EngineCall) : Prop :=
  engine.state = .ready → call.pid = engine.ownerPid ∧ Timed engine call.operation

/-- The resources that are held were not released, but for attempts that failed. -/
structure Clean (engine : AllReduceEngine) : Prop where
  once : engine.releases.Pairwise fun earlier later =>
    later.resource = earlier.resource → earlier.succeeded = false
  failed : ∀ release ∈ engine.releases, engine.held release.resource = true →
    release.succeeded = false

/-- What holds between calls, stated of the fields alone. -/
structure Sound (engine : AllReduceEngine) : Prop where
  clean : Clean engine
  group : engine.singleton = false
  shape : (engine.state = .ready ∧ ∀ resource, engine.held resource = true) ∨
    (Over engine ∧ ∀ resource, engine.held resource = false ∧
      ∃ release ∈ engine.releases, release.resource = resource)

/-- What holds between calls, when no call has the lock. -/
structure Resting (engine : AllReduceEngine) : Prop where
  sound : Sound engine
  free : engine.callLock = false

section Acquire

/-- A call in any other process aborts the engine. -/
theorem run_foreign (foreign : call.pid ≠ engine.ownerPid) :
    engine.run call =
      { outcome := .raised .forkError
        after := { engine with lastError := some .forkError, state := .aborted } } := by
  -- the check comes before the lock, so the lock is left alone
  unfold run acquire checkProcess
  rw [if_pos foreign]

/-- A call that finds the lock taken changes nothing. -/
theorem run_locked (owned : call.pid = engine.ownerPid) (locked : engine.callLock = true) :
    engine.run call = { outcome := .raised .stateError, after := engine } := by
  unfold run acquire checkProcess
  rw [if_neg (not_not.mpr owned)]
  dsimp only
  rw [if_pos locked]

theorem run_free (owned : call.pid = engine.ownerPid) (free : engine.callLock = false) :
    engine.run call =
      { { engine with callLock := true }.perform call.operation with
        after := { ({ engine with callLock := true }.perform call.operation).after with
          callLock := false } } := by
  unfold run acquire checkProcess
  rw [if_neg (not_not.mpr owned)]
  dsimp only
  rw [free, if_neg Bool.false_ne_true, if_neg (not_not.mpr owned)]

end Acquire

section Release

/-- An attempt to release a resource that is held. -/
theorem Clean.attempt (clean : Clean engine) (resource : Resource) (succeeded : Bool)
    (mine : engine.held resource = true) {after : AllReduceEngine}
    (releases : after.releases = engine.releases ++ [{ resource := resource, succeeded := succeeded }])
    (others : ∀ other, after.held other = true → engine.held other = true)
    (dropped : succeeded = true → after.held resource = false) : Clean after where
  once := by
    rw [releases, List.pairwise_append]
    refine ⟨clean.once, List.pairwise_singleton _ _, ?_⟩
    intro earlier member later single same
    obtain rfl := List.mem_singleton.mp single
    exact clean.failed earlier member (same ▸ mine)
  failed := by
    intro release member there
    rw [releases, List.mem_append, List.mem_singleton] at member
    rcases member with old | rfl
    · exact clean.failed release old (others _ there)
    · cases succeeded with
      | false => rfl
      | true =>
        rw [dropped rfl] at there
        cases there

/-- The release of both resources, one after the other. -/
theorem Clean.releaseResources (clean : Clean engine) (env : ReleaseEnv) :
    Clean (engine.releaseResources env) := by
  -- the carrier is closed first, whether or not that raises
  have first : Clean { engine with
      carrier := false
      releases := engine.releases ++ (if engine.carrier then
        [{ resource := .carrier, succeeded := env.carrierCloses }] else []) } := by
    by_cases carrier : engine.carrier = true
    · rw [if_pos carrier]
      refine clean.attempt .carrier env.carrierCloses carrier rfl ?_ fun _ => rfl
      rintro (_ | _) there
      · exact carrier
      · exact there
    · rw [if_neg carrier, List.append_nil]
      refine ⟨clean.once, fun release member there => clean.failed release member ?_⟩
      revert there
      cases release.resource with
      | carrier =>
        intro there
        cases there
      | liveRank => exact id
  by_cases liveRank : engine.liveRank = true
  · refine first.attempt .liveRank env.liveRankDestroys liveRank ?_ ?_ fun _ => rfl
    · unfold AllReduceEngine.releaseResources
      rw [if_pos liveRank]
    · rintro (_ | _) there
      · cases there
      · cases there
  · have same : engine.releaseResources env = { engine with
        carrier := false
        liveRank := false
        releases := engine.releases ++ (if engine.carrier then
          [{ resource := .carrier, succeeded := env.carrierCloses }] else []) } := by
      unfold AllReduceEngine.releaseResources
      rw [if_neg liveRank, List.append_nil]
    rw [same]
    refine ⟨first.once, fun release member there => ?_⟩
    revert there
    cases release.resource with
    | carrier =>
      intro there
      cases there
    | liveRank =>
      intro there
      cases there

/-- Each resource is held, or its release was attempted. -/
def Covered (engine : AllReduceEngine) : Prop :=
  ∀ resource, engine.held resource = true ∨ ∃ release ∈ engine.releases, release.resource = resource

/-- An engine that releases its resources, and is over. -/
theorem sound_of_release (clean : Clean engine) (group : engine.singleton = false)
    (covered : Covered engine) (env : ReleaseEnv) {after : AllReduceEngine} (ended : Over after)
    (same : after = { engine.releaseResources env with state := after.state }) : Sound after := by
  have released := clean.releaseResources env
  rw [same] at ended ⊢
  refine ⟨⟨released.once, released.failed⟩, group, .inr ⟨ended, fun resource => ⟨?_, ?_⟩⟩⟩
  · cases resource with
    | carrier => rfl
    | liveRank => rfl
  rcases covered resource with held | ⟨release, member, about⟩
  · -- the release of what is held is attempted now
    cases resource with
    | carrier =>
      refine ⟨{ resource := .carrier, succeeded := env.carrierCloses },
        List.mem_append_left _ (List.mem_append_right _ ?_), rfl⟩
      have held : engine.carrier = true := held
      rw [if_pos held]
      exact List.mem_singleton_self _
    | liveRank =>
      refine ⟨{ resource := .liveRank, succeeded := env.liveRankDestroys },
        List.mem_append_right _ ?_, rfl⟩
      have held : engine.liveRank = true := held
      rw [if_pos held]
      exact List.mem_singleton_self _
  · exact ⟨release, List.mem_append_left _ (List.mem_append_left _ member), about⟩

theorem Sound.covered (sound : Sound engine) : Covered engine := by
  intro resource
  rcases sound.shape with ⟨-, held⟩ | ⟨-, dropped⟩
  · exact .inl (held resource)
  · exact .inr (dropped resource).2

/-- A collective that fails. -/
theorem sound_of_fail (clean : Clean engine) (group : engine.singleton = false)
    (covered : Covered engine) (failure : EngineFailure) (env : ReleaseEnv) :
    Sound (engine.failCollective failure env) :=
  @sound_of_release { engine with lastError := some failure, state := .aborted }
    ⟨clean.once, clean.failed⟩ group covered env _ (.inl rfl) rfl

end Release

section Calls

theorem Sound.ready (sound : Sound engine) (ready : engine.state = .ready) :
    ∀ resource, engine.held resource = true := by
  rcases sound.shape with ⟨-, held⟩ | ⟨ended, -⟩
  · exact held
  · rcases ended with aborted | closed
    · rw [ready] at aborted
      cases aborted
    · rw [ready] at closed
      cases closed

/-- A call that leaves state and resources alone. -/
theorem Sound.same (sound : Sound engine) {after : AllReduceEngine}
    (state : after.state = engine.state) (singleton : after.singleton = engine.singleton)
    (carrier : after.carrier = engine.carrier) (liveRank : after.liveRank = engine.liveRank)
    (releases : after.releases = engine.releases) : Sound after := by
  have held : after.held = engine.held := by
    funext resource
    cases resource with
    | carrier => exact carrier
    | liveRank => exact liveRank
  obtain ⟨⟨once, failed⟩, group, shape⟩ := sound
  refine ⟨⟨?_, ?_⟩, singleton.trans group, ?_⟩
  · rw [releases]
    exact once
  · rw [releases, held]
    exact failed
  · rw [Over, state, releases, held]
    exact shape

theorem reduceGroup_same (engine : AllReduceEngine) (elements : ℕ) (dtype : DType)
    (timeoutNs : Option Argument) (env : CollectiveEnv) :
    (engine.reduceGroup elements dtype timeoutNs env).2.1.singleton = engine.singleton ∧
      (engine.reduceGroup elements dtype timeoutNs env).2.1.carrier = engine.carrier ∧
      (engine.reduceGroup elements dtype timeoutNs env).2.1.liveRank = engine.liveRank ∧
      (engine.reduceGroup elements dtype timeoutNs env).2.1.releases = engine.releases ∧
      ((engine.reduceGroup elements dtype timeoutNs env).1 = .ok () →
        (engine.reduceGroup elements dtype timeoutNs env).2.1.state = .ready) := by
  unfold reduceGroup
  split
  · exact ⟨rfl, rfl, rfl, rfl, nofun⟩
  split
  · exact ⟨rfl, rfl, rfl, rfl, nofun⟩
  dsimp only
  split
  · exact ⟨rfl, rfl, rfl, rfl, nofun⟩
  split
  · exact ⟨rfl, rfl, rfl, rfl, nofun⟩
  split
  · exact ⟨rfl, rfl, rfl, rfl, nofun⟩
  · exact ⟨rfl, rfl, rfl, rfl, fun _ => rfl⟩

/-- What a failure leaves of an engine whose resources were as they are in a sound one. -/
theorem Sound.fail (sound : Sound engine) {broken : AllReduceEngine}
    (singleton : broken.singleton = engine.singleton) (carrier : broken.carrier = engine.carrier)
    (liveRank : broken.liveRank = engine.liveRank) (releases : broken.releases = engine.releases)
    (failure : EngineFailure) (env : ReleaseEnv) : Sound (broken.failCollective failure env) := by
  have whole : Sound { broken with state := engine.state } :=
    sound.same rfl singleton carrier liveRank releases
  exact sound_of_fail ⟨whole.clean.once, whole.clean.failed⟩ whole.group whole.covered failure env

theorem Sound.allReduce (sound : Sound engine) (input : Option TensorArgument)
    (timeoutNs : Option Argument) (env : CollectiveEnv) :
    Sound (engine.allReduce input timeoutNs env).after := by
  unfold AllReduceEngine.allReduce
  -- an engine that is not ready, a tensor or a deadline that is refused, and an engine that is alone
  split
  · exact sound
  rename_i ready
  rw [not_not] at ready
  dsimp only
  split
  · exact sound.fail rfl rfl rfl rfl _ _
  split
  · exact sound.fail rfl rfl rfl rfl _ _
  split
  · rename_i alone
    rw [sound.group] at alone
    cases alone
  rename_i elements dtype _ _ _ _
  obtain ⟨singleton, carrier, liveRank, releases, returned⟩ :=
    reduceGroup_same { engine with state := .active } elements dtype timeoutNs env
  split
  · rename_i failure broken used failed
    rw [failed] at singleton carrier liveRank releases
    exact sound.fail singleton carrier liveRank releases failure env.release
  · rename_i after used done
    rw [done] at singleton carrier liveRank releases returned
    exact sound.same ((returned rfl).trans ready.symm) singleton carrier liveRank releases

theorem Sound.destroy (sound : Sound engine) (env : ReleaseEnv) :
    Sound (engine.destroy env).after :=
  sound_of_release sound.clean sound.group sound.covered env (.inr rfl) rfl

/-- What one step of a close leaves: the resource is dropped if the step succeeds. -/
structure Closes (engine after : AllReduceEngine) (resource : Resource) (done : Prop) : Prop where
  clean : Clean after
  singleton : after.singleton = engine.singleton
  logged : ∀ release ∈ engine.releases, release ∈ after.releases
  others : ∀ other, other ≠ resource → after.held other = engine.held other
  covered : after.held resource = true ∨ ∃ release ∈ after.releases, release.resource = resource
  dropped : done → after.held resource = false ∧
    ∃ release ∈ after.releases, release.resource = resource

theorem Closes.covers {after : AllReduceEngine} {resource : Resource} {done : Prop}
    (closes : Closes engine after resource done) (covered : Covered engine) : Covered after := by
  intro other
  by_cases same : other = resource
  · rw [same]
    exact closes.covered
  · rcases covered other with held | ⟨release, member, about⟩
    · exact .inl ((closes.others other same).trans held)
    · exact .inr ⟨release, closes.logged release member, about⟩

/-- A step of a close that attempts to release its resource, and drops it on success. -/
theorem closes_of_attempt (clean : Clean engine) {after : AllReduceEngine} {resource : Resource}
    (held : engine.held resource = true) (succeeded : Bool)
    (singleton : after.singleton = engine.singleton)
    (releases : after.releases = engine.releases ++ [{ resource := resource, succeeded := succeeded }])
    (others : ∀ other, other ≠ resource → after.held other = engine.held other)
    (dropped : succeeded = true → after.held resource = false) {done : Prop}
    (returned : done → succeeded = true) : Closes engine after resource done := by
  have logged : { resource := resource, succeeded := succeeded } ∈ after.releases := by
    rw [releases]
    exact List.mem_append_right _ (List.mem_singleton_self _)
  have before : ∀ other, after.held other = true → engine.held other = true := by
    intro other there
    by_cases same : other = resource
    · rw [same]
      exact held
    · rwa [← others other same]
  exact
    { clean := clean.attempt resource succeeded held releases before dropped
      singleton := singleton
      logged := fun release member => by
        rw [releases]
        exact List.mem_append_left _ member
      others := others
      covered := .inr ⟨_, logged, rfl⟩
      dropped := fun finished => ⟨dropped (returned finished), _, logged, rfl⟩ }

theorem closeLiveRank_closes (clean : Clean engine) (held : engine.held .liveRank = true)
    (timeoutNs : Option Argument) (env : CloseEnv) :
    Closes engine (engine.closeLiveRank timeoutNs env).2 .liveRank
      ((engine.closeLiveRank timeoutNs env).1 = .ok ()) := by
  have live : engine.liveRank = true := held
  unfold closeLiveRank
  rw [live, if_neg (by decide)]
  split
  · -- the deadline cannot be computed, and nothing is released
    exact ⟨clean, rfl, fun _ => id, fun _ _ => rfl, .inl held, nofun⟩
  split
  · apply closes_of_attempt clean held false
    · rfl
    · rfl
    · rintro (_ | _) ne
      · rfl
      · exact absurd rfl ne
    · nofun
    · nofun
  · apply closes_of_attempt clean held true
    · rfl
    · rfl
    · rintro (_ | _) ne
      · rfl
      · exact absurd rfl ne
    · exact fun _ => rfl
    · exact fun _ => rfl

theorem closeCarrier_closes (clean : Clean engine) (held : engine.held .carrier = true)
    (env : CloseEnv) :
    Closes engine (engine.closeCarrier env).2 .carrier ((engine.closeCarrier env).1 = .ok ()) := by
  have live : engine.carrier = true := held
  unfold closeCarrier
  rw [live, if_neg (by decide)]
  split
  · apply closes_of_attempt clean held false
    · rfl
    · rfl
    · rintro (_ | _) ne
      · exact absurd rfl ne
      · rfl
    · nofun
    · nofun
  · apply closes_of_attempt clean held true
    · rfl
    · rfl
    · rintro (_ | _) ne
      · exact absurd rfl ne
      · rfl
    · exact fun _ => rfl
    · exact fun _ => rfl

theorem Sound.close (sound : Sound engine) (timeoutNs : Option Argument) (env : CloseEnv) :
    Sound (engine.close timeoutNs env).after := by
  unfold AllReduceEngine.close
  split
  · exact sound
  split
  · exact sound_of_release sound.clean sound.group sound.covered env.release (.inr rfl) rfl
  split
  · exact sound
  rename_i ready
  rw [not_not] at ready
  -- the live rank is closed before the carrier, and each failure releases what is still held
  have held := sound.ready ready
  have first := @closeLiveRank_closes { engine with state := .closing }
    ⟨sound.clean.once, sound.clean.failed⟩ (held .liveRank) timeoutNs env
  have covered := first.covers fun resource => .inl (held resource)
  split
  · rename_i failure broken failed
    rw [failed] at first covered
    exact sound_of_fail first.clean (first.singleton.trans sound.group) covered failure env.release
  rename_i middle closed
  rw [closed] at first covered
  have second := @closeCarrier_closes middle first.clean
    ((first.others .carrier (by decide)).trans (held .carrier)) env
  have coveredAfter := second.covers covered
  split
  · rename_i failure broken failed
    rw [failed] at second coveredAfter
    exact sound_of_fail second.clean
      (second.singleton.trans (first.singleton.trans sound.group)) coveredAfter failure env.release
  · rename_i after done
    rw [done] at second
    refine ⟨⟨second.clean.once, second.clean.failed⟩,
      second.singleton.trans (first.singleton.trans sound.group), .inr ⟨.inr rfl, ?_⟩⟩
    intro resource
    cases resource with
    | carrier => exact second.dropped rfl
    | liveRank =>
      obtain ⟨dropped, release, member, about⟩ := first.dropped rfl
      exact ⟨(second.others .liveRank (by decide)).trans dropped, release,
        second.logged release member, about⟩

/-- An abort that computes its deadline, if it gets as far. -/
theorem Sound.abort (sound : Sound engine) {reason : Argument}
    {failedRank timeoutNs : Option Argument} {env : AbortEnv}
    (timed : Timed engine (.abort reason failedRank timeoutNs env)) :
    Sound (engine.abort reason failedRank timeoutNs env).after := by
  unfold AllReduceEngine.abort
  split
  · exact sound
  rename_i ready
  rw [not_not] at ready
  split
  · exact sound
  rename_i status target valid
  dsimp only
  split
  · rename_i alone
    rw [sound.group] at alone
    cases alone
  split
  -- an abort whose deadline raises keeps what it holds, which a timed one does not meet
  · rename_i failure failed
    have computed := timed ready (by rw [valid]; rfl)
    rw [failed] at computed
    cases computed
  · exact @sound_of_release { engine with
        state := .aborted
        lastError := some (.raised (some status) (some target)) }
      ⟨sound.clean.once, sound.clean.failed⟩ sound.group (fun resource => sound.covered resource)
      env.release _ (.inl rfl) rfl

/-- Every timed operation keeps the invariant. -/
theorem Sound.perform (sound : Sound engine) (timed : Timed engine operation) :
    Sound (engine.perform operation).after := by
  cases operation with
  | allReduce input timeoutNs env => exact sound.allReduce input timeoutNs env
  | abort reason failedRank timeoutNs env => exact sound.abort timed
  | close timeoutNs env => exact sound.close timeoutNs env
  | destroy env => exact sound.destroy env

/-- The process check leaves an engine that is over without resources as it is without them. -/
theorem Sound.foreign (sound : Sound engine) (idle : engine.state ≠ .ready) :
    Sound { engine with lastError := some .forkError, state := .aborted } := by
  refine ⟨⟨sound.clean.once, sound.clean.failed⟩, sound.group, ?_⟩
  rcases sound.shape with ⟨ready, -⟩ | ⟨-, dropped⟩
  · exact absurd ready idle
  · exact .inr ⟨.inl rfl, dropped⟩

theorem not_ready_timed (idle : engine.state ≠ .ready) (operation : EngineOperation) :
    Timed engine operation := by
  cases operation with
  | allReduce input timeoutNs env => trivial
  | close timeoutNs env => trivial
  | destroy env => trivial
  | abort reason failedRank timeoutNs env => exact fun ready => absurd ready idle

/-- Whether an operation is timed does not depend on the lock. -/
theorem timed_lock : Timed { engine with callLock := true } operation ↔ Timed engine operation := by
  cases operation <;> rfl

/-- Every orderly call keeps the invariant. -/
theorem resting_step (engine : AllReduceEngine) (call : EngineCall) (resting : Resting engine)
    (orderly : Orderly engine call) : Resting (engine.step call) := by
  by_cases owned : call.pid = engine.ownerPid
  · rw [step, run_free owned resting.free]
    have locked : Sound { engine with callLock := true } := resting.sound.same rfl rfl rfl rfl rfl
    have timed : Timed { engine with callLock := true } call.operation := by
      by_cases ready : engine.state = .ready
      · exact timed_lock.mpr (orderly ready).2
      · exact not_ready_timed ready call.operation
    exact ⟨(locked.perform timed).same rfl rfl rfl rfl rfl, rfl⟩
  · rw [step, run_foreign owned]
    have idle : engine.state ≠ .ready := fun ready => owned (orderly ready).1
    exact ⟨resting.sound.foreign idle, resting.free⟩

end Calls

section Law

/-- An engine that is over stays over. -/
theorem Over.perform (ended : Over engine) (operation : EngineOperation) :
    Over (engine.perform operation).after := by
  have idle : engine.state ≠ .ready := by
    rcases ended with aborted | closed
    · simp [aborted]
    · simp [closed]
  cases operation with
  | allReduce input timeoutNs env =>
    simp only [AllReduceEngine.perform, AllReduceEngine.allReduce, if_pos idle]
    exact ended
  | abort reason failedRank timeoutNs env =>
    simp only [AllReduceEngine.perform, AllReduceEngine.abort, if_pos idle]
    exact ended
  | close timeoutNs env =>
    simp only [AllReduceEngine.perform, AllReduceEngine.close]
    split
    · exact ended
    split
    · exact .inr rfl
    · exact ended
  | destroy env => exact .inr rfl

theorem over_step (engine : AllReduceEngine) (call : EngineCall) (ended : Over engine) :
    Over (engine.step call) := by
  by_cases owned : call.pid = engine.ownerPid
  · cases locked : engine.callLock with
    | true =>
      rw [step, run_locked owned locked]
      exact ended
    | false =>
      rw [step, run_free owned locked]
      exact @Over.perform { engine with callLock := true } ended call.operation
  · rw [step, run_foreign owned]
    exact .inl rfl

/-- An engine that is over returns no collective result. -/
theorem Over.performs (ended : Over engine) (operation : EngineOperation) :
    (engine.perform operation).outcome ≠ .result := by
  have idle : engine.state ≠ .ready := by
    rcases ended with aborted | closed
    · simp [aborted]
    · simp [closed]
  cases operation with
  | allReduce input timeoutNs env =>
    simp [AllReduceEngine.perform, AllReduceEngine.allReduce, idle]
  | abort reason failedRank timeoutNs env =>
    simp [AllReduceEngine.perform, AllReduceEngine.abort, idle]
  | close timeoutNs env =>
    simp only [AllReduceEngine.perform, AllReduceEngine.close]
    split
    · simp
    split
    · simp
    · simp
  | destroy env => simp [AllReduceEngine.perform, AllReduceEngine.destroy]

theorem Over.outcome (ended : Over engine) (call : EngineCall) :
    (engine.run call).outcome ≠ .result := by
  by_cases owned : call.pid = engine.ownerPid
  · cases locked : engine.callLock with
    | true => simp [run_locked owned locked]
    | false =>
      rw [run_free owned locked]
      exact @Over.performs { engine with callLock := true } ended call.operation
  · simp [run_foreign owned]

theorem Sound.law (sound : Sound engine) : EngineLaw engine where
  once := sound.clean.once
  dropped := by
    intro ended resource
    rcases sound.shape with ⟨ready, -⟩ | ⟨-, dropped⟩
    · rcases ended with aborted | closed
      · rw [ready] at aborted
        cases aborted
      · rw [ready] at closed
        cases closed
    · exact dropped resource
  kept := sound.ready
  final := by
    intro ended calls call
    have still := invariant_runFrom step Over over_step ended calls
    exact still.outcome call

theorem deadline_ok {timeoutNs : Option Argument} {default : ℤ} {native : Option EngineFailure}
    (computed : (deadline timeoutNs default native).isOk = true) :
    (exactInteger (timeoutNs.getD (some default)) 1 Uint64Max).isOk = true := by
  unfold deadline at computed
  cases bounded : exactInteger (timeoutNs.getD (some default)) 1 Uint64Max with
  | ok value => rfl
  | error failure =>
    rw [bounded] at computed
    cases computed

/-- A timed abort with a bad argument is refused. -/
theorem perform_of_badAbort (timed : Timed engine operation)
    (bad : engine.badAbort operation = true) (ready : engine.state = .ready) :
    (engine.perform operation).after = engine := by
  cases operation with
  | allReduce input timeoutNs env => cases bad
  | close timeoutNs env => cases bad
  | destroy env => cases bad
  | abort reason failedRank timeoutNs env =>
    simp only [perform, AllReduceEngine.abort, ready, ne_eq, not_true, if_false]
    cases valid : engine.validateAbort reason failedRank with
    | error failure => rfl
    | ok target =>
      -- then it is the timeout that is bad, and the deadline cannot be computed
      have bounded := deadline_ok (timed ready (by rw [valid]; rfl))
      simp only [badAbort, valid, bounded] at bad
      cases bad

/-- An abort that cannot compute its deadline leaves the engine aborted with its resources. -/
theorem held_of_not_timed (group : engine.singleton = false)
    (held : ∀ resource, engine.held resource = true) (late : ¬ Timed engine operation) :
    Over (engine.perform operation).after ∧
      (engine.perform operation).after.held .carrier = true := by
  cases operation with
  | allReduce input timeoutNs env => exact absurd trivial late
  | close timeoutNs env => exact absurd trivial late
  | destroy env => exact absurd trivial late
  | abort reason failedRank timeoutNs env =>
    simp only [Timed, Classical.not_imp] at late
    obtain ⟨ready, valid, late⟩ := late
    cases checked : engine.validateAbort reason failedRank with
    | error failure =>
      rw [checked] at valid
      cases valid
    | ok target =>
      cases computed : deadline timeoutNs 5000000000 env.deadline with
      | ok value =>
        rw [computed] at late
        exact absurd rfl late
      | error failure =>
        simp only [perform, AllReduceEngine.abort, ready, ne_eq, not_true, if_false, checked,
          group, computed, Bool.false_eq_true]
        exact ⟨.inl rfl, held .carrier⟩

/-- A call of a ready engine that is not orderly leaves it aborted with its resources. -/
theorem held_of_not_orderly (resting : Resting engine) (disorderly : ¬ Orderly engine call) :
    Over (engine.step call) ∧ (engine.step call).held .carrier = true := by
  rw [Orderly, Classical.not_imp, not_and] at disorderly
  obtain ⟨ready, disorderly⟩ := disorderly
  have held := resting.sound.ready ready
  by_cases owned : call.pid = engine.ownerPid
  · rw [step, run_free owned resting.free]
    exact @held_of_not_timed { engine with callLock := true } call.operation resting.sound.group
      held (mt timed_lock.mp (disorderly owned))
  · rw [step, run_foreign owned]
    exact ⟨.inl rfl, held .carrier⟩

/-- The law holds of a call exactly if the call is orderly. -/
theorem Resting.stepLaw_iff (resting : Resting engine) (call : EngineCall) :
    StepLaw engine call ↔ Orderly engine call := by
  constructor
  · intro law
    by_contra disorderly
    obtain ⟨ended, held⟩ := held_of_not_orderly resting disorderly
    have dropped := (law.after.dropped ended .carrier).1
    rw [held] at dropped
    cases dropped
  · intro orderly
    refine ⟨(resting_step engine call resting orderly).sound.law, ?_⟩
    intro ready bad
    obtain ⟨owned, timed⟩ := orderly ready
    have same := @perform_of_badAbort { engine with callLock := true } call.operation
      (timed_lock.mpr timed) bad ready
    rw [step, run_free owned resting.free, same]
    exact ⟨ready, resting.sound.ready ready⟩

theorem resting_joined (ownerPid rank worldSize : ℕ) : Resting (joined ownerPid rank worldSize) := by
  refine ⟨⟨⟨List.Pairwise.nil, ?_⟩, rfl, .inl ⟨rfl, ?_⟩⟩, rfl⟩
  · rintro release ⟨⟩
  · rintro (_ | _)
    · rfl
    · rfl

/-- Along every run of orderly calls of an engine that joined a group, the law holds between the
calls, and it holds of the next call exactly if that call is orderly. -/
theorem stepLaw_iff_of_run (ownerPid rank worldSize : ℕ) (calls : List EngineCall)
    (orderly : Meets step Orderly (joined ownerPid rank worldSize) calls) :
    EngineLaw (runFrom step (joined ownerPid rank worldSize) calls) ∧
      ∀ call, StepLaw (runFrom step (joined ownerPid rank worldSize) calls) call ↔
        Orderly (runFrom step (joined ownerPid rank worldSize) calls) call := by
  have resting := invariant_of_meets step Resting resting_step
    (resting_joined ownerPid rank worldSize) orderly
  exact ⟨resting.sound.law, resting.stepLaw_iff⟩

/-- A tensor of bfloat16 elements. -/
def sampleTensor (elements : ℕ) : TensorArgument where
  device := "cpu"
  dtype := .name "bfloat16"
  contiguous := true
  elements := elements
  elementSize := 2

/-- A collective, an abort of an unknown rank, an abort that is carried out, and then a call in
another process. -/
def sampleCalls : List EngineCall :=
  [⟨1, .allReduce (some (sampleTensor 5)) none {}⟩,
    ⟨1, .abort (some 10) (some (some 2)) none {}⟩,
    ⟨1, .abort (some 10) none (some (some 1)) {}⟩,
    ⟨2, .close none {}⟩]

theorem stepLaw_iff_of_sampleCalls :
    Meets step Orderly (joined 1 0 2) sampleCalls ∧
      EngineLaw (runFrom step (joined 1 0 2) sampleCalls) := by
  have orderly : Meets step Orderly (joined 1 0 2) sampleCalls := by
    refine ⟨fun _ => ⟨rfl, trivial⟩, fun _ => ⟨rfl, ?_⟩, fun _ => ⟨rfl, ?_⟩, fun ready => ?_, trivial⟩
    · intro _ valid
      exact absurd valid (by decide)
    · intro _ _
      rfl
    · exact absurd ready (by decide)
  exact ⟨orderly, (stepLaw_iff_of_run 1 0 2 sampleCalls orderly).1⟩

/-- In the process of the engine an abort with a timeout of zero raises, and leaves the engine
aborted with its carrier. Any call in another process does so too. -/
theorem stepLaw_fails :
    (¬ ∀ (calls : List EngineCall) (call : EngineCall), (∀ made ∈ call :: calls, made.pid = 1) →
      EngineLaw (runFrom step (joined 1 0 2) calls) ∧
        StepLaw (runFrom step (joined 1 0 2) calls) call) ∧
      ¬ StepLaw (joined 1 0 2) ⟨2, .close none {}⟩ := by
  constructor
  · intro all
    have law := (all [] ⟨1, .abort (some 10) none (some (some 0)) {}⟩ (by simp)).2
    have dropped := (law.after.dropped (.inl (by rfl)) .carrier).1
    cases dropped
  · intro law
    have dropped := (law.after.dropped (.inl (by rfl)) .carrier).1
    cases dropped

end Law

section Sequences

/-- The sequence numbers a call uses. -/
def used (engine : AllReduceEngine) (call : EngineCall) : List ℕ := (engine.run call).used

/-- A call uses sequence numbers from the next one on, in order, and moves past them. -/
structure Spends (engine after : AllReduceEngine) (used : List ℕ) : Prop where
  increasing : used.Pairwise (· < ·)
  within : ∀ sequence ∈ used, engine.nextSequence ≤ sequence ∧ sequence < after.nextSequence
  mono : engine.nextSequence ≤ after.nextSequence

theorem Spends.none {after : AllReduceEngine} (same : after.nextSequence = engine.nextSequence) :
    Spends engine after [] := by
  refine ⟨List.Pairwise.nil, ?_, same.ge⟩
  rintro sequence ⟨⟩

/-- The segments that were started are the first ones of the plan. -/
theorem executeSegments_prefix (env : ℕ → Option EngineFailure) (segments : List AllReduceSegment) :
    (executeSegments env segments).1 <+: segments.map AllReduceSegment.sequence := by
  induction segments with
  | nil => exact List.prefix_rfl
  | cons segment rest ih =>
    unfold executeSegments
    cases env segment.index with
    | some failure => exact (List.cons_prefix_cons.mpr ⟨rfl, List.nil_prefix⟩)
    | none => exact List.cons_prefix_cons.mpr ⟨rfl, ih⟩

theorem spends_of_plan {segments : List AllReduceSegment} {elements bytes : ℕ}
    (law : PlanLaw elements bytes engine.nextSequence segments) {used : List ℕ}
    (first : used <+: segments.map AllReduceSegment.sequence) {after : AllReduceEngine}
    (moved : after.nextSequence = engine.nextSequence + segments.length) :
    Spends engine after used := by
  rw [law.sequences] at first
  refine ⟨(List.pairwise_lt_range' ..).sublist first.sublist, ?_, ?_⟩
  · intro sequence member
    rw [moved]
    have planned := List.mem_range'_1.mp (first.subset member)
    exact planned
  · rw [moved]
    exact Nat.le_add_right _ _

theorem reduceGroup_spends (engine : AllReduceEngine) (elements : ℕ) (dtype : DType)
    (timeoutNs : Option Argument) (env : CollectiveEnv) :
    Spends engine (engine.reduceGroup elements dtype timeoutNs env).2.1
      (engine.reduceGroup elements dtype timeoutNs env).2.2 := by
  unfold reduceGroup
  split
  · exact .none rfl
  split
  · exact .none rfl
  rename_i segments planned
  obtain ⟨count, bytes, start, plannable, law⟩ := planLaw_of_plan planned
  obtain rfl : engine.nextSequence = start := by
    have first := Option.some.inj plannable.firstSequence.1
    exact_mod_cast first
  have started := executeSegments_prefix env.segments segments
  dsimp only
  split
  · exact spends_of_plan law List.nil_prefix rfl
  split
  · rename_i failed
    rw [failed] at started
    exact spends_of_plan law started rfl
  rename_i finished
  rw [finished] at started
  split
  · exact spends_of_plan law started rfl
  · exact spends_of_plan law started rfl

theorem reduceAlone_nextSequence {after : AllReduceEngine} {timeoutNs : Option Argument}
    {env : CollectiveEnv} (reduced : engine.reduceAlone timeoutNs env = .ok after) :
    after.nextSequence = engine.nextSequence := by
  unfold reduceAlone at reduced
  cases starts : env.starts with
  | some failure =>
    rw [starts] at reduced
    cases timeoutNs with
    | none => cases reduced
    | some timeoutNs =>
      obtain ⟨-, -, failed⟩ := bind_eq_ok.mp reduced
      cases failed
  | none =>
    cases commits : env.commits with
    | some failure =>
      rw [starts, commits] at reduced
      cases timeoutNs with
      | none => cases reduced
      | some timeoutNs =>
        obtain ⟨-, -, failed⟩ := bind_eq_ok.mp reduced
        cases failed
    | none =>
      rw [starts, commits] at reduced
      cases timeoutNs with
      | none => cases reduced; rfl
      | some timeoutNs =>
        obtain ⟨-, -, done⟩ := bind_eq_ok.mp reduced
        cases done
        rfl

theorem allReduce_spends (engine : AllReduceEngine) (input : Option TensorArgument)
    (timeoutNs : Option Argument) (env : CollectiveEnv) :
    Spends engine (engine.allReduce input timeoutNs env).after
      (engine.allReduce input timeoutNs env).used := by
  unfold AllReduceEngine.allReduce
  split
  · exact .none rfl
  dsimp only
  split
  · exact .none rfl
  rename_i elements dtype _
  split
  · exact .none rfl
  split
  · split
    · exact .none rfl
    rename_i after reduced
    exact .none (reduceAlone_nextSequence reduced)
  have spends := reduceGroup_spends { engine with state := .active } elements dtype timeoutNs env
  split
  · rename_i reduced
    rw [reduced] at spends
    exact ⟨spends.increasing, spends.within, spends.mono⟩
  · rename_i reduced
    rw [reduced] at spends
    exact ⟨spends.increasing, spends.within, spends.mono⟩

theorem abort_nextSequence (engine : AllReduceEngine) (reason : Argument)
    (failedRank timeoutNs : Option Argument) (env : AbortEnv) :
    Spends engine (engine.abort reason failedRank timeoutNs env).after
      (engine.abort reason failedRank timeoutNs env).used := by
  unfold AllReduceEngine.abort
  split
  · exact .none rfl
  split
  · exact .none rfl
  dsimp only
  split
  · exact .none rfl
  split
  · exact .none rfl
  · exact .none rfl

theorem closeLiveRank_nextSequence (engine : AllReduceEngine) (timeoutNs : Option Argument)
    (env : CloseEnv) :
    (engine.closeLiveRank timeoutNs env).2.nextSequence = engine.nextSequence := by
  unfold closeLiveRank
  split
  · rfl
  split
  · rfl
  split
  · rfl
  · rfl

theorem closeCarrier_nextSequence (engine : AllReduceEngine) (env : CloseEnv) :
    (engine.closeCarrier env).2.nextSequence = engine.nextSequence := by
  unfold closeCarrier
  split
  · rfl
  split
  · rfl
  · rfl

theorem close_spends (engine : AllReduceEngine) (timeoutNs : Option Argument) (env : CloseEnv) :
    Spends engine (engine.close timeoutNs env).after (engine.close timeoutNs env).used := by
  unfold AllReduceEngine.close
  split
  · exact .none rfl
  split
  · exact .none rfl
  split
  · exact .none rfl
  have first := closeLiveRank_nextSequence { engine with state := .closing } timeoutNs env
  split
  · rename_i failed
    rw [failed] at first
    exact .none first
  rename_i middle closed
  rw [closed] at first
  have second := closeCarrier_nextSequence middle env
  split
  · rename_i failed
    rw [failed] at second
    exact .none (second.trans first)
  · rename_i closed
    rw [closed] at second
    exact .none (second.trans first)

theorem perform_spends (engine : AllReduceEngine) (operation : EngineOperation) :
    Spends engine (engine.perform operation).after (engine.perform operation).used := by
  cases operation with
  | allReduce input timeoutNs env => exact allReduce_spends engine input timeoutNs env
  | abort reason failedRank timeoutNs env => exact abort_nextSequence engine reason _ _ env
  | close timeoutNs env => exact close_spends engine timeoutNs env
  | destroy env => exact .none rfl

theorem step_spends (engine : AllReduceEngine) (call : EngineCall) :
    Spends engine (engine.step call) (engine.used call) := by
  unfold step used
  by_cases owned : call.pid = engine.ownerPid
  · cases locked : engine.callLock with
    | true =>
      rw [run_locked owned locked]
      exact .none rfl
    | false =>
      rw [run_free owned locked]
      have spends := perform_spends { engine with callLock := true } call.operation
      exact ⟨spends.increasing, spends.within, spends.mono⟩
  · rw [run_foreign owned]
    exact .none rfl

/-- A plan is made of all plannable arguments and covers its tensor, and over a run of an engine
no two collectives use one sequence number. -/
theorem planned_and_unrepeated :
    (∀ elements worldSize dtype first,
      (∀ segments, planAllreduceSegments elements worldSize dtype first = .ok segments →
        ∃ count bytes start, Plannable elements worldSize dtype first count bytes start ∧
          PlanLaw count bytes start segments) ∧
      ∀ count bytes start, Plannable elements worldSize dtype first count bytes start →
        ∃ segments, planAllreduceSegments elements worldSize dtype first = .ok segments) ∧
      ∀ (engine : AllReduceEngine) (calls : List EngineCall),
        (outputs step used engine calls).Pairwise (· < ·) := by
  refine ⟨fun elements worldSize dtype first => ⟨fun segments => planLaw_of_plan, ?_⟩, ?_⟩
  · intro count bytes start plannable
    exact ⟨_, planAllreduceSegments_ok.mpr ⟨count, bytes, start, plannable, rfl⟩⟩
  · intro engine calls
    refine (outputs_strictlyIncreasing step nextSequence (fun _ => True) (fun _ _ _ => trivial)
      ?_ ?_ ?_ trivial calls).1
    · exact fun engine call _ => (step_spends engine call).within
    · exact fun engine call => (step_spends engine call).increasing
    · exact fun engine call _ => (step_spends engine call).mono

end Sequences

end AllReduceEngine

end GemSim.Collective
