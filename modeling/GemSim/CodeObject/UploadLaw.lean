import GemSim.CodeObject.UploadEffect
import GemSim.Lib.Run

/-!
# The law of the upload store

The calls of a run that were accepted are kept as a log: the metadata every upload was
begun with, and the chunks that were appended to it. An object in the table holds what the
log says of its handle. A committed object stays as it is until it is consumed or its owner
disconnects, and a handle whose object is gone names nothing ever after.

## Main definitions

* `declared`, `accepted` — what a call adds to the log
* `contentOf` — the chunks of one handle, one after the other
* `Sound` — the store holds what the log says
* `Follows` — a later store, as far as handles and committed objects go
* `UploadLaw` — what holds in every state a run reaches

## Main results

* `sound_step`, `Sound.follows_step` — what every call keeps
* `uploadLaw_run` — the law, along every run
-/

namespace GemSim.CodeObject

open GemSim.Lib GemSim.Domain

/-- An upload that was begun: its handle, its owner and the metadata declared for it. -/
abbrev Declaration := ObjectHandle × OwnerKey × CodeObjectMetadata

/-- A chunk that was accepted, with the handle of its upload. -/
abbrev Chunk := ObjectHandle × List UInt8

/-- The accepted chunks of one handle, one after the other. -/
def contentOf (chunks : List Chunk) (handle : ObjectHandle) : List UInt8 :=
  ((chunks.filter fun chunk => chunk.1 == handle).map Prod.snd).flatten

@[simp] theorem contentOf_append (first second : List Chunk) (handle : ObjectHandle) :
    contentOf (first ++ second) handle = contentOf first handle ++ contentOf second handle := by
  simp [contentOf]

theorem contentOf_self (handle : ObjectHandle) (bytes : List UInt8) :
    contentOf [(handle, bytes)] handle = bytes := by
  simp [contentOf]

/-- Nothing was appended under a generation that was not issued yet. -/
theorem contentOf_fresh {chunks : List Chunk} {bound : ℕ} {handle : ObjectHandle}
    (issued : ∀ chunk ∈ chunks, chunk.1.generation.toNat < bound)
    (fresh : handle.generation.toNat = bound) : contentOf chunks handle = [] := by
  have none : chunks.filter (fun chunk => chunk.1 == handle) = [] := by
    rw [List.filter_eq_nil_iff]
    intro chunk member same
    have below := issued chunk member
    rw [eq_of_beq same] at below
    omega
  rw [contentOf, none]
  rfl

/-- The handle of the object in a slot. -/
def handleOf (slot : Fin MaximumStagedObjects) (object : Object) : ObjectHandle :=
  { id := idOfSlot slot, generation := object.generation }

/-- Who owns an object, and the generation it was stamped with. -/
def identityOf (object : Object) : OwnerKey × UInt64 := (object.owner, object.generation)

theorem handleOf_ne {first second : Fin MaximumStagedObjects} (ne : first ≠ second)
    (left right : Object) : handleOf first left ≠ handleOf second right := by
  intro same
  have ids : idOfSlot first = idOfSlot second := congrArg ObjectHandle.id same
  have slots := congrArg (slotOfId MaximumStagedObjects) ids
  rw [slotOfId_idOfSlot (by decide), slotOfId_idOfSlot (by decide)] at slots
  exact ne (Option.some.inj slots)

namespace HostGPUCodeObjectState

variable {state middle after : HostGPUCodeObjectState} {owner : OwnerKey} {handle : ObjectHandle}
  {slot : Fin MaximumStagedObjects} {object : Object}

theorem handleOf_resolved (found : state.resolve owner handle = some (slot, object)) :
    handleOf slot object = handle := by
  obtain ⟨named, -, -, generation⟩ := resolve_eq_some.mp found
  have id := slotOfId_inj (slotOfId_idOfSlot (by decide) slot) named
  rw [handleOf, id, generation]

section Log

/-- What a call adds to the declarations of a run. -/
def declared (state : HostGPUCodeObjectState) : Call → List Declaration
  | .beginUpload owner request allocates =>
    let result := (state.beginUpload owner request allocates).1.result
    if result.ok then [(result.value.object, owner, request.metadata)] else []
  | _ => []

/-- What a call adds to the chunks of a run. -/
def accepted (state : HostGPUCodeObjectState) : Call → List Chunk
  | .appendUpload owner request allocates =>
    if (state.appendUpload owner request allocates).1.result.ok then
      [(request.object, request.bytes)]
    else []
  | _ => []

/-- An object is what the log says of its handle. -/
structure Logged (begun : List Declaration) (chunks : List Chunk)
    (slot : Fin MaximumStagedObjects) (object : Object) : Prop where
  image : object.image = contentOf chunks (handleOf slot object)
  offset : object.acceptedOffset.toNat = object.image.length
  bounded : object.image.length ≤ object.metadata.imageSize.toNat
  declared : (handleOf slot object, object.owner, object.metadata) ∈ begun
  digest : object.committed = true →
    sha256 object.image = object.metadata.kernel.imageSha256 ∧
      object.image.length = object.metadata.imageSize.toNat

/-- The store holds what the log says, and every generation in the log was issued. -/
structure Sound (begun : List Declaration) (chunks : List Chunk)
    (state : HostGPUCodeObjectState) : Prop where
  live : state.liveObjects.toNat = state.objects.live
  stamped : SlotTable.StampedBelow identityOf Prod.snd state.objects state.generations.bound
  alone : ∀ first second left right, state.objects first = some left →
    state.objects second = some right → left.committed = false → right.committed = false →
    left.owner = right.owner → first = second
  logged : ∀ slot object, state.objects slot = some object → Logged begun chunks slot object
  begunIssued : ∀ entry ∈ begun, entry.1.generation.toNat < state.generations.bound
  chunksIssued : ∀ chunk ∈ chunks, chunk.1.generation.toNat < state.generations.bound
  distinct : begun.Pairwise fun first second => first.1 ≠ second.1

variable {begun moreBegun : List Declaration} {chunks moreChunks : List Chunk}

theorem sound_boot : Sound [] [] boot where
  live := by simp [boot]
  stamped := SlotTable.stampedBelow_empty
  alone _ _ _ _ here := by cases here
  logged _ _ here := by cases here
  begunIssued _ member := by cases member
  chunksIssued _ member := by cases member
  distinct := .nil

theorem Sound.shrink (sound : Sound begun chunks state) (shrinks : Shrinks state after) :
    Sound begun chunks after where
  live := shrinks.live sound.live
  stamped slot object here :=
    (sound.stamped slot object (shrinks.held slot object here)).trans_le shrinks.bound
  alone first second left right onLeft onRight :=
    sound.alone first second left right (shrinks.held _ _ onLeft) (shrinks.held _ _ onRight)
  logged slot object here := sound.logged slot object (shrinks.held slot object here)
  begunIssued entry member := (sound.begunIssued entry member).trans_le shrinks.bound
  chunksIssued chunk member := (sound.chunksIssued chunk member).trans_le shrinks.bound
  distinct := sound.distinct

theorem Sound.beginUpload (sound : Sound begun chunks state) {request : BeginUpload}
    {generation : UInt64} {generations : IssueCounter}
    (begins : Begun state owner request slot generation generations) :
    Sound (begun ++ [({ id := idOfSlot slot, generation := generation }, owner, request.metadata)])
      chunks { state with
        generations := generations
        objects := state.objects.put slot
          { owner := owner, generation := generation, metadata := request.metadata }
        liveObjects := state.liveObjects + 1 } := by
  obtain ⟨-, value, next⟩ := IssueCounter.take_spec begins.taken
  have le : state.generations.bound ≤ generations.bound := by omega
  refine
    { live := SlotTable.live_put_free (by decide) sound.live begins.free _
      stamped := sound.stamped.put le (by rw [identityOf, value, next]; exact Nat.lt_succ_self _)
      alone := ?_
      logged := ?_
      begunIssued := ?_
      chunksIssued := fun chunk member => (sound.chunksIssued chunk member).trans_le le
      distinct := ?_ }
  · -- the owner had no other mutable upload
    have none := SlotTable.holds_eq_false.mp begins.alone
    have clash : ∀ other object, state.objects other = some object → object.committed = false →
        object.owner ≠ owner := by
      intro other object here mutable' same
      have rejected := none other object here
      simp [Object.mutableOf, mutable', same] at rejected
    intro first second left right onLeft onRight openLeft openRight same
    rcases SlotTable.put_eq_some.mp onLeft with ⟨rfl, rfl⟩ | ⟨-, oldLeft⟩
    · rcases SlotTable.put_eq_some.mp onRight with ⟨rfl, rfl⟩ | ⟨-, oldRight⟩
      · rfl
      · exact absurd same.symm (clash second right oldRight openRight)
    · rcases SlotTable.put_eq_some.mp onRight with ⟨rfl, rfl⟩ | ⟨-, oldRight⟩
      · exact absurd same (clash first left oldLeft openLeft)
      · exact sound.alone first second left right oldLeft oldRight openLeft openRight same
  · intro other object here
    rcases SlotTable.put_eq_some.mp here with ⟨rfl, rfl⟩ | ⟨-, old⟩
    · exact
        { image := (contentOf_fresh sound.chunksIssued value).symm
          offset := rfl
          bounded := Nat.zero_le _
          declared := List.mem_append_right _ (List.mem_singleton.mpr rfl)
          digest := fun committed => by cases committed }
    · have logged := sound.logged other object old
      exact ⟨logged.image, logged.offset, logged.bounded,
        List.mem_append_left _ logged.declared, logged.digest⟩
  · intro entry member
    rcases List.mem_append.mp member with old | new
    · exact (sound.begunIssued entry old).trans_le le
    · obtain rfl := List.mem_singleton.mp new
      rw [value, next]
      exact Nat.lt_succ_self _
  · refine List.pairwise_append.mpr ⟨sound.distinct, List.pairwise_singleton _ _, ?_⟩
    intro entry old fresh new
    obtain rfl := List.mem_singleton.mp new
    intro same
    have below := sound.begunIssued entry old
    rw [same, value] at below
    exact absurd below (lt_irrefl _)

/-- An upload is changed in its slot; the rest of the log is about other handles. -/
theorem Sound.replace (sound : Sound begun chunks state) {record : Object}
    (here : state.objects slot = some object) (same : identityOf record = identityOf object)
    (opened : object.committed = false)
    (logged : Logged begun (chunks ++ moreChunks) slot record)
    (others : ∀ chunk ∈ moreChunks, chunk.1 = handleOf slot object) :
    Sound begun (chunks ++ moreChunks) (state.withObject slot record) := by
  refine
    { live := ?_
      stamped := sound.stamped.replace here same
      alone := ?_
      logged := ?_
      begunIssued := sound.begunIssued
      chunksIssued := ?_
      distinct := sound.distinct }
  · rw [withObject, SlotTable.live_put_taken here]
    exact sound.live
  · -- seen by its owner and by whether it is mutable, the object stands for the record
    have stands : ∀ other found, (state.withObject slot record).objects other = some found →
        found.committed = false → ∃ old, state.objects other = some old ∧
          old.committed = false ∧ old.owner = found.owner := by
      intro other found taken open'
      rcases SlotTable.put_eq_some.mp taken with ⟨rfl, rfl⟩ | ⟨-, old⟩
      · exact ⟨object, here, opened, (congrArg Prod.fst same).symm⟩
      · exact ⟨found, old, open', rfl⟩
    intro first second left right onLeft onRight openLeft openRight owners
    obtain ⟨oldLeft, wasLeft, openOldLeft, ownerLeft⟩ := stands first left onLeft openLeft
    obtain ⟨oldRight, wasRight, openOldRight, ownerRight⟩ := stands second right onRight openRight
    exact sound.alone first second oldLeft oldRight wasLeft wasRight openOldLeft openOldRight
      (ownerLeft.trans (owners.trans ownerRight.symm))
  · intro other found taken
    rcases SlotTable.put_eq_some.mp taken with ⟨rfl, rfl⟩ | ⟨ne, old⟩
    · exact logged
    · have before := sound.logged other found old
      have silent : contentOf moreChunks (handleOf other found) = [] := by
        rw [contentOf, List.filter_eq_nil_iff.mpr]
        · rfl
        · intro chunk member hit
          exact handleOf_ne ne found object ((eq_of_beq hit).symm.trans (others chunk member))
      refine ⟨?_, before.offset, before.bounded, before.declared, before.digest⟩
      rw [contentOf_append, silent, List.append_nil]
      exact before.image
  · intro chunk member
    rcases List.mem_append.mp member with old | new
    · exact sound.chunksIssued chunk old
    · rw [others chunk new]
      exact sound.stamped slot object here

theorem Sound.appendUpload (sound : Sound begun chunks state) {request : AppendUpload}
    (found : state.resolve owner request.object = some (slot, object))
    (opened : object.committed = false) (fits : sizeValid object request.bytes = true) :
    Sound begun (chunks ++ [(request.object, request.bytes)])
      (state.withObject slot (Object.append object request.bytes)) := by
  have here := (resolve_eq_some.mp found).2.1
  have named := handleOf_resolved found
  have logged := sound.logged slot object here
  refine sound.replace here rfl opened ?_ fun chunk member => ?_
  · simp only [sizeValid, Bool.and_eq_true, decide_eq_true_eq] at fits
    obtain ⟨⟨-, within⟩, room⟩ := fits
    rw [toNat_sub_exact within, logged.offset] at room
    have limit := object.metadata.imageSize.toNat_lt
    have start := logged.bounded
    have count : (UInt64.ofNat request.bytes.length).toNat = request.bytes.length :=
      toNat_ofNat_of_lt (by omega)
    have offset := logged.offset
    exact
      { image := by
          rw [contentOf_append]
          exact congrArg₂ _ logged.image (named ▸ (contentOf_self _ _).symm)
        offset := by
          rw [Object.append]
          dsimp only
          rw [toNat_add_exact (by omega), List.length_append, offset, count]
        bounded := by
          rw [Object.append]
          dsimp only
          rw [List.length_append]
          omega
        declared := logged.declared
        digest := fun committed => absurd (opened.symm.trans committed) (by decide) }
  · rw [List.mem_singleton.mp member, named]

theorem Sound.commitUpload (sound : Sound begun chunks state)
    (found : state.resolve owner handle = some (slot, object))
    (opened : object.committed = false)
    (full : object.image.length = object.metadata.imageSize.toNat)
    (digest : sha256 object.image = object.metadata.kernel.imageSha256) :
    Sound begun chunks (state.withObject slot { object with committed := true }) := by
  have here := (resolve_eq_some.mp found).2.1
  have logged := sound.logged slot object here
  have replaced := @Sound.replace state slot object begun chunks []
    sound { object with committed := true } here rfl opened
  rw [List.append_nil] at replaced
  exact replaced ⟨logged.image, logged.offset, logged.bounded, logged.declared,
    fun _ => ⟨digest, full⟩⟩ nofun

variable (validateCodeObjectImage : List UInt8 → CodeObjectMetadata → Bool)

/-- Every call keeps the store in step with its log. -/
theorem sound_step (sound : Sound begun chunks state) (call : Call) :
    Sound (begun ++ state.declared call) (chunks ++ state.accepted call)
      (step validateCodeObjectImage state call) := by
  cases call with
  | beginUpload owner request allocates =>
    simp only [accepted, declared, List.append_nil]
    rcases state.beginUpload_cases owner request allocates with ⟨refused, down⟩ | begins
    · rw [refused, if_neg (by decide), List.append_nil]
      exact sound.shrink down.shrinks
    · obtain ⟨slot, generation, generations, begins, done, object, result⟩ := begins
      rw [done, if_pos rfl, object]
      simp only [step, run, result]
      exact sound.beginUpload begins
  | appendUpload owner request allocates =>
    simp only [accepted, declared, List.append_nil]
    rcases state.appendUpload_cases owner request allocates with ⟨refused, down⟩ | appends
    · rw [refused, if_neg (by decide), List.append_nil]
      exact sound.shrink down.shrinks
    · obtain ⟨slot, object, found, opened, fits, done, result⟩ := appends
      rw [done, if_pos rfl]
      simp only [step, run, result]
      exact sound.appendUpload found opened fits
  | commitUpload owner request =>
    simp only [accepted, declared, List.append_nil]
    rcases state.commitUpload_cases validateCodeObjectImage owner request with
      ⟨-, down⟩ | ⟨slot, object, found, opened, full, digest, -, result⟩
    · exact sound.shrink down.shrinks
    · simp only [step, run, result]
      exact sound.commitUpload found opened full digest
  | committedCodeObject =>
    simp only [accepted, declared, List.append_nil]
    exact sound
  | consumeCommitted owner handle =>
    simp only [accepted, declared, List.append_nil]
    simp only [step, run]
    rcases state.consumeCommitted_cases owner handle with ⟨-, same⟩ | ⟨slot, object, found, -, same⟩
    · rw [same]
      exact sound
    · rw [same]
      exact sound.shrink (shrinks_release (resolve_eq_some.mp found).2.1)
  | abortMutable owner =>
    simp only [accepted, declared, List.append_nil]
    exact sound.shrink shrinks_abortMutable
  | disconnect owner =>
    simp only [accepted, declared, List.append_nil]
    exact sound.shrink shrinks_disconnect
  | clear =>
    simp only [accepted, declared, List.append_nil]
    exact sound.shrink shrinks_clear

/-- The store and its log stay in step along a run. -/
theorem sound_run (sound : Sound begun chunks state) (calls : List Call) :
    Sound (begun ++ outputs (step validateCodeObjectImage) declared state calls)
      (chunks ++ outputs (step validateCodeObjectImage) accepted state calls)
      (runFrom (step validateCodeObjectImage) state calls) := by
  induction calls generalizing state begun chunks with
  | nil => simpa using sound
  | cons call rest ih =>
    have later := ih (sound_step validateCodeObjectImage sound call)
    simpa only [outputs_cons, runFrom_cons, List.append_assoc] using later

end Log

section Followers

/-- A later store: it holds nothing but what was held before and what was begun since, and
a committed object that is still there is as it was. -/
structure Follows (state after : HostGPUCodeObjectState) : Prop where
  succeeds : SlotTable.Succeeds identityOf Prod.snd state.generations.bound state.objects
    after.objects
  bound : state.generations.bound ≤ after.generations.bound
  committed : ∀ slot object record, state.objects slot = some object → object.committed = true →
    after.objects slot = some record → record = object ∨ identityOf record ≠ identityOf object

theorem Shrinks.follows (shrinks : Shrinks state after) : Follows state after where
  succeeds _ record found := .inl ⟨record, shrinks.held _ _ found, rfl⟩
  bound := shrinks.bound
  committed slot _ record here _ found :=
    .inl (Option.some.inj ((shrinks.held slot record found).symm.trans here))

/-- A mutable upload is changed in its slot. -/
theorem follows_replace {record : Object} (here : state.objects slot = some object)
    (same : identityOf record = identityOf object) (opened : object.committed = false) :
    Follows state (state.withObject slot record) where
  succeeds := SlotTable.succeeds_replace here same
  bound := le_rfl
  committed other found later taken committed there := by
    rcases SlotTable.put_eq_some.mp there with ⟨rfl, rfl⟩ | ⟨-, before⟩
    · obtain rfl := Option.some.inj (here.symm.trans taken)
      exact absurd (opened.symm.trans committed) (by decide)
    · exact .inl (Option.some.inj (before.symm.trans taken))

theorem follows_beginUpload {request : BeginUpload} {generation : UInt64}
    {generations : IssueCounter} (begins : Begun state owner request slot generation generations) :
    Follows state { state with
      generations := generations
      objects := state.objects.put slot
        { owner := owner, generation := generation, metadata := request.metadata }
      liveObjects := state.liveObjects + 1 } := by
  obtain ⟨-, value, next⟩ := IssueCounter.take_spec begins.taken
  refine
    { succeeds := SlotTable.succeeds_put (by rw [identityOf, value])
      bound := next ▸ Nat.le_succ _
      committed := ?_ }
  intro other found later taken _ there
  rcases SlotTable.put_eq_some.mp there with ⟨rfl, rfl⟩ | ⟨-, before⟩
  · rw [begins.free] at taken
    cases taken
  · exact .inl (Option.some.inj (before.symm.trans taken))

variable (validateCodeObjectImage : List UInt8 → CodeObjectMetadata → Bool)

theorem follows_step (state : HostGPUCodeObjectState) (call : Call) :
    Follows state (step validateCodeObjectImage state call) := by
  cases call with
  | beginUpload owner request allocates =>
    rcases state.beginUpload_cases owner request allocates with
      ⟨-, down⟩ | ⟨slot, generation, generations, begins, -, -, result⟩
    · exact down.shrinks.follows
    · simp only [step, run, result]
      exact follows_beginUpload begins
  | appendUpload owner request allocates =>
    rcases state.appendUpload_cases owner request allocates with
      ⟨-, down⟩ | ⟨slot, object, found, opened, -, -, result⟩
    · exact down.shrinks.follows
    · simp only [step, run, result]
      exact follows_replace (resolve_eq_some.mp found).2.1 rfl opened
  | commitUpload owner request =>
    rcases state.commitUpload_cases validateCodeObjectImage owner request with
      ⟨-, down⟩ | ⟨slot, object, found, opened, -, -, -, result⟩
    · exact down.shrinks.follows
    · simp only [step, run, result]
      exact follows_replace (resolve_eq_some.mp found).2.1 rfl opened
  | committedCodeObject => exact (Shrinks.refl state).follows
  | consumeCommitted owner handle =>
    simp only [step, run]
    rcases state.consumeCommitted_cases owner handle with ⟨-, same⟩ | ⟨slot, object, found, -, same⟩
    · rw [same]
      exact (Shrinks.refl state).follows
    · rw [same]
      exact (shrinks_release (resolve_eq_some.mp found).2.1).follows
  | abortMutable owner => exact shrinks_abortMutable.follows
  | disconnect owner => exact shrinks_disconnect.follows
  | clear => exact shrinks_clear.follows

/-- A handle that is gone stays gone along a run. -/
theorem gone_run {generation : UInt64} (calls : List Call)
    (gone : SlotTable.Gone identityOf Prod.snd state.objects state.generations.bound slot
      generation) :
    SlotTable.Gone identityOf Prod.snd
      (runFrom (step validateCodeObjectImage) state calls).objects
      (runFrom (step validateCodeObjectImage) state calls).generations.bound slot generation := by
  refine invariant_runFrom (step validateCodeObjectImage)
    (fun state => SlotTable.Gone identityOf Prod.snd state.objects state.generations.bound slot
      generation) (fun state call gone => ?_) gone calls
  have follows := follows_step validateCodeObjectImage state call
  exact gone.succeeds follows.succeeds follows.bound

theorem resolve_of_gone {handle : ObjectHandle}
    (named : slotOfId MaximumStagedObjects handle.id = some slot)
    (gone : SlotTable.Gone identityOf Prod.snd state.objects state.generations.bound slot
      handle.generation) (owner : OwnerKey) : state.resolve owner handle = none := by
  rw [Option.eq_none_iff_forall_ne_some]
  rintro ⟨position, record⟩ found
  obtain ⟨id, taken, -, generation⟩ := resolve_eq_some.mp found
  obtain rfl := Option.some.inj (named.symm.trans id)
  exact gone.2 record taken generation

variable {begun : List Declaration} {chunks : List Chunk}

/-- A handle that named an object, and does not name it after a call, never does again. -/
theorem Sound.never_again (sound : Sound begun chunks state) (follows : Follows state after)
    (named : state.resolve owner handle ≠ none) (missing : after.resolve owner handle = none)
    (calls : List Call) (other : OwnerKey) :
    (runFrom (step validateCodeObjectImage) after calls).resolve other handle = none := by
  obtain ⟨⟨slot, object⟩, found⟩ := Option.ne_none_iff_exists'.mp named
  obtain ⟨id, here, rfl, generation⟩ := resolve_eq_some.mp found
  have gone : SlotTable.Gone identityOf Prod.snd after.objects after.generations.bound slot
      (identityOf object).2 := by
    refine SlotTable.gone_of_succeeds sound.stamped here follows.succeeds follows.bound ?_
    intro record taken same
    obtain ⟨sameOwner, sameGeneration⟩ := Prod.mk.inj same
    have found := resolve_eq_some.mpr ⟨id, taken, sameOwner, sameGeneration.trans generation⟩
    rw [missing] at found
    cases found
  have later := gone_run validateCodeObjectImage calls gone
  rw [show (identityOf object).2 = handle.generation from generation] at later
  exact resolve_of_gone id later other

/-- Along a run a committed object is where it was, as it was, or its handle is gone. -/
theorem Sound.committed_run (sound : Sound begun chunks state) (calls : List Call)
    (here : state.objects slot = some object) (committed : object.committed = true) :
    (runFrom (step validateCodeObjectImage) state calls).objects slot = some object ∨
      SlotTable.Gone identityOf Prod.snd
        (runFrom (step validateCodeObjectImage) state calls).objects
        (runFrom (step validateCodeObjectImage) state calls).generations.bound slot
        object.generation := by
  induction calls generalizing state begun chunks with
  | nil => exact .inl here
  | cons call rest ih =>
    have follows := follows_step validateCodeObjectImage state call
    have next := sound_step validateCodeObjectImage sound call
    by_cases stays : (step validateCodeObjectImage state call).objects slot = some object
    · exact ih next stays
    · -- whatever is in the slot now was begun later
      refine .inr (gone_run validateCodeObjectImage rest ?_)
      refine SlotTable.gone_of_succeeds sound.stamped here follows.succeeds follows.bound ?_
      intro record taken
      refine (follows.committed slot object record here committed taken).resolve_left ?_
      rintro rfl
      exact stays taken

end Followers

section Law

variable (validateCodeObjectImage : List UInt8 → CodeObjectMetadata → Bool)

/-- What holds in every state a run reaches, with the declarations and the chunks the run
has accepted. -/
structure UploadLaw (begun : List Declaration) (chunks : List Chunk)
    (state : HostGPUCodeObjectState) : Prop where
  oneUpload : ∀ first second left right, state.objects first = some left →
    state.objects second = some right → left.committed = false → right.committed = false →
    left.owner = right.owner → first = second
  inOrder : ∀ slot object, state.objects slot = some object →
    object.image = contentOf chunks (handleOf slot object) ∧
      object.acceptedOffset.toNat = object.image.length ∧
      object.image.length ≤ object.metadata.imageSize.toNat
  asDeclared : ∀ slot object, state.objects slot = some object →
    ∀ owner metadata, (handleOf slot object, owner, metadata) ∈ begun ↔
      owner = object.owner ∧ metadata = object.metadata
  digest : ∀ slot object, state.objects slot = some object → object.committed = true →
    sha256 object.image = object.metadata.kernel.imageSha256
  unchanged : ∀ slot object, state.objects slot = some object → object.committed = true →
    ∀ calls record,
      (runFrom (step validateCodeObjectImage) state calls).objects slot = some record →
      record.generation = object.generation → record = object
  failed : ∀ call, (reply validateCodeObjectImage state call).failed = true →
    ∀ slot object, state.objects slot = some object →
      object.committed = true ∨ call.owner ≠ some object.owner →
      (step validateCodeObjectImage state call).objects slot = some object
  live : state.liveObjects.toNat = state.objects.live
  removed : ∀ call owner handle, state.resolve owner handle ≠ none →
    (step validateCodeObjectImage state call).resolve owner handle = none → ∀ calls other,
    (runFrom (step validateCodeObjectImage) (step validateCodeObjectImage state call)
      calls).resolve other handle = none
  consumed : ∀ owner handle, (state.consumeCommitted owner handle).1.ok = true →
    ∀ calls other,
    (runFrom (step validateCodeObjectImage) (state.consumeCommitted owner handle).2
      calls).resolve other handle = none

/-- A failing call leaves every committed object, and every object of another owner. -/
theorem failed_step (call : Call) (failed : (reply validateCodeObjectImage state call).failed = true)
    (here : state.objects slot = some object)
    (spared : object.committed = true ∨ call.owner ≠ some object.owner) :
    (step validateCodeObjectImage state call).objects slot = some object := by
  have others : ∀ {owner : OwnerKey}, call.owner = some owner →
      object.committed = true ∨ object.owner ≠ owner := by
    intro owner caller
    refine spared.imp_right fun other same => other ?_
    rw [caller, same]
  have refused : ∀ {α : Type} {result : Result α}, (!result.ok) = true → result.ok ≠ true := by
    intro α result down done
    rw [done] at down
    cases down
  cases call with
  | beginUpload owner request allocates =>
    rcases state.beginUpload_cases owner request allocates with
      ⟨-, down⟩ | ⟨_, _, _, _, done, -⟩
    · exact down.kept slot object here (others rfl)
    · exact absurd done (refused failed)
  | appendUpload owner request allocates =>
    rcases state.appendUpload_cases owner request allocates with ⟨-, down⟩ | ⟨_, _, _, _, _, done, -⟩
    · exact down.kept slot object here (others rfl)
    · exact absurd done (refused failed)
  | commitUpload owner request =>
    rcases state.commitUpload_cases validateCodeObjectImage owner request with
      ⟨-, down⟩ | ⟨_, _, _, _, _, _, done, -⟩
    · exact down.kept slot object here (others rfl)
    · exact absurd done (refused failed)
  | committedCodeObject => exact here
  | consumeCommitted owner handle =>
    simp only [step, run]
    rcases state.consumeCommitted_cases owner handle with ⟨-, same⟩ | ⟨_, _, _, done, -⟩
    · rw [same]
      exact here
    · exact absurd done (refused failed)
  | abortMutable => cases failed
  | disconnect => cases failed
  | clear => cases failed

variable {begun : List Declaration} {chunks : List Chunk}

theorem Sound.uploadLaw (sound : Sound begun chunks state) :
    UploadLaw validateCodeObjectImage begun chunks state where
  oneUpload := sound.alone
  inOrder slot object here :=
    have logged := sound.logged slot object here
    ⟨logged.image, logged.offset, logged.bounded⟩
  asDeclared slot object here owner metadata := by
    have logged := (sound.logged slot object here).declared
    constructor
    · intro member
      -- two entries of the log are never about one handle
      have symm : Std.Symm fun first second : Declaration => first.1 ≠ second.1 :=
        ⟨fun _ _ ne => ne.symm⟩
      by_contra differs
      refine sound.distinct.forall member logged (fun same => differs ?_) rfl
      exact Prod.mk.inj (Prod.mk.inj same).2
    · rintro ⟨rfl, rfl⟩
      exact logged
  digest slot object here committed := ((sound.logged slot object here).digest committed).1
  unchanged slot object here committed calls record found generation := by
    rcases sound.committed_run validateCodeObjectImage calls here committed with stays | gone
    · exact Option.some.inj (found.symm.trans stays)
    · exact absurd generation (gone.2 record found)
  failed call failed slot object here spared :=
    failed_step validateCodeObjectImage call failed here spared
  live := sound.live
  removed call _ _ named missing calls other :=
    sound.never_again validateCodeObjectImage (follows_step validateCodeObjectImage state call)
      named missing calls other
  consumed owner handle consumed calls other := by
    rcases state.consumeCommitted_cases owner handle with
      ⟨refused, -⟩ | ⟨slot, object, found, -, after⟩
    · exact absurd (consumed.symm.trans refused) (by decide)
    have shrinks := shrinks_release (resolve_eq_some.mp found).2.1
    rw [after]
    refine sound.never_again validateCodeObjectImage shrinks.follows
      (by rw [found]; exact nofun) ?_ calls other
    -- the slot of the handle is empty now
    rw [Option.eq_none_iff_forall_ne_some]
    rintro ⟨position, record⟩ again
    obtain ⟨id, -⟩ := resolve_eq_some.mp found
    obtain ⟨sameId, taken, -⟩ := resolve_eq_some.mp again
    obtain rfl := Option.some.inj (id.symm.trans sameId)
    exact absurd rfl (SlotTable.drop_eq_some.mp taken).1

/-- The law holds in every state a run reaches. -/
theorem uploadLaw_run (calls : List Call) :
    UploadLaw validateCodeObjectImage (outputs (step validateCodeObjectImage) declared boot calls)
      (outputs (step validateCodeObjectImage) accepted boot calls)
      (runFrom (step validateCodeObjectImage) boot calls) := by
  have sound := sound_run validateCodeObjectImage sound_boot calls
  exact sound.uploadLaw validateCodeObjectImage

end Law

end HostGPUCodeObjectState

end GemSim.CodeObject
