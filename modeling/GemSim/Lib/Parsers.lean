import Mathlib.Data.List.Forall2
import Mathlib.Data.List.Induction
import Mathlib.Data.Nat.Notation

/-!
# Parsers and what they read

A parser takes some tokens from the front of its input. It reads a language if the pieces that it
takes are those of the language, with the values that the language gives them, whatever follows.
What a parser reads is put together from what its parts read.

## Main definitions

* `Parser` — a parser that may fail, `take` some tokens, `foldTimes` a counted loop
* `Reads` — the language of a parser
* `Then`, `Concat` — one piece behind another, and many
* `lastOf` — the value of a key that may stand in many places

## Main results

* `Reads.bind`, `Reads.foldTimes` — the languages of parsers that are made of others
* `Reads.unique` — a piece is known by its tokens, whatever follows it
* `foldl_lastOf` — where each entry takes the place of an earlier one, the last one is left
-/

namespace GemSim.Lib

section Definitions

/-- A parser with the input that is left as its state. -/
abbrev Parser (τ α : Type) : Type := StateT (List τ) Option α

variable {τ α β σ : Type}

/-- As many tokens as are asked for. -/
def take (count : ℕ) : Parser τ (List τ) := fun input =>
  if count > input.length then none else some (input.take count, input.drop count)

/-- The values of a counted loop, each added to what has been gathered. -/
def foldTimes (gather : σ → α → σ) (parser : Parser τ α) : ℕ → σ → Parser τ σ
  | 0, gathered => pure gathered
  | count + 1, gathered => do
    let value ← parser
    foldTimes gather parser count (gather gathered value)

/-- The parser takes the pieces of a language, and gives each its value. -/
def Reads (parser : Parser τ α) (language : α → List τ → Prop) : Prop :=
  ∀ input value rest, parser.run input = some (value, rest) ↔
    ∃ piece, language value piece ∧ input = piece ++ rest

/-- A piece of one language, and behind it one of another that may depend on its value. -/
def Then (first : α → List τ → Prop) (second : α → β → List τ → Prop) (value : β)
    (piece : List τ) : Prop :=
  ∃ before front back, first before front ∧ second before value back ∧ piece = front ++ back

/-- Pieces of a language, one behind the other. -/
def Concat (language : α → List τ → Prop) (values : List α) (piece : List τ) : Prop :=
  ∃ pieces, List.Forall₂ language values pieces ∧ piece = pieces.flatten

end Definitions

section Languages

variable {τ α β σ : Type} {language other : α → List τ → Prop} {second : α → β → List τ → Prop}
  {parser : Parser τ α} {next : α → Parser τ β} {value : α} {values : List α}
  {piece front back : List τ}

theorem concat_nil : Concat language [] piece ↔ piece = [] := by
  constructor
  · rintro ⟨pieces, each, rfl⟩
    cases each
    rfl
  · rintro rfl
    exact ⟨[], .nil, rfl⟩

theorem concat_cons : Concat language (value :: values) piece ↔
    ∃ front back, language value front ∧ Concat language values back ∧ piece = front ++ back := by
  constructor
  · rintro ⟨pieces, each, rfl⟩
    cases each with
    | cons here rest => exact ⟨_, _, here, ⟨_, rest, rfl⟩, rfl⟩
  · rintro ⟨front, back, here, ⟨pieces, rest, rfl⟩, rfl⟩
    exact ⟨front :: pieces, .cons here rest, rfl⟩

theorem exists_of_forall₂ {pieces : List (List τ)} (each : List.Forall₂ language values pieces)
    (member : piece ∈ pieces) : ∃ value ∈ values, language value piece := by
  induction each with
  | nil => cases member
  | cons here rest ih =>
    rcases List.mem_cons.mp member with rfl | member
    · exact ⟨_, List.mem_cons_self, here⟩
    · obtain ⟨value, inside, there⟩ := ih member
      exact ⟨value, List.mem_cons_of_mem _ inside, there⟩

/-- Every value of a concatenation has its piece in it. -/
theorem Concat.part (concat : Concat language values piece) (member : value ∈ values) :
    ∃ part, language value part ∧ part <:+: piece := by
  obtain ⟨pieces, each, rfl⟩ := concat
  induction each with
  | nil => cases member
  | cons here rest ih =>
    rw [List.flatten_cons]
    rcases List.mem_cons.mp member with rfl | member
    · exact ⟨_, here, (List.prefix_append _ _).isInfix⟩
    · obtain ⟨part, there, inside⟩ := ih member
      exact ⟨part, there, inside.trans (List.suffix_append _ _).isInfix⟩

theorem Reads.congr (reads : Reads parser language)
    (same : ∀ value piece, language value piece ↔ other value piece) : Reads parser other := by
  intro input value rest
  rw [reads input value rest]
  exact exists_congr fun piece => and_congr_left fun _ => same value piece

theorem Reads.pure : Reads (pure value : Parser τ α) fun result piece =>
    result = value ∧ piece = [] := by
  intro input result rest
  constructor
  · intro found
    cases found
    exact ⟨[], ⟨rfl, rfl⟩, rfl⟩
  · rintro ⟨_, ⟨rfl, rfl⟩, rfl⟩
    rfl

theorem Reads.failure : Reads (failure : Parser τ α) fun _ _ => False := by
  intro input result rest
  constructor
  · intro found
    cases found
  · rintro ⟨_, never, -⟩
    exact never.elim

theorem reads_take (count : ℕ) :
    Reads (take count : Parser τ (List τ)) fun result piece =>
      result = piece ∧ piece.length = count := by
  intro input result rest
  change (if count > input.length then none else some (input.take count, input.drop count)) = _ ↔ _
  by_cases short : count > input.length
  · rw [if_pos short]
    constructor
    · intro found
      cases found
    · rintro ⟨piece, ⟨rfl, exact⟩, rfl⟩
      rw [List.length_append] at short
      omega
  · rw [if_neg short]
    constructor
    · intro found
      cases found
      exact ⟨_, ⟨rfl, List.length_take_of_le (Nat.not_lt.mp short)⟩,
        (List.take_append_drop count input).symm⟩
    · rintro ⟨piece, ⟨rfl, exact⟩, rfl⟩
      rw [← exact, List.take_left, List.drop_left]

theorem Reads.bind (first : Reads parser language)
    (later : ∀ value, Reads (next value) (second value)) :
    Reads (parser >>= next) (Then language second) := by
  intro input result rest
  rw [StateT.run_bind]
  constructor
  · intro found
    obtain ⟨⟨value, middle⟩, taken, went⟩ := Option.bind_eq_some_iff.mp found
    obtain ⟨front, here, rfl⟩ := (first _ _ _).mp taken
    obtain ⟨back, there, rfl⟩ := (later value _ _ _).mp went
    exact ⟨front ++ back, ⟨value, front, back, here, there, rfl⟩, (List.append_assoc _ _ _).symm⟩
  · rintro ⟨_, ⟨value, front, back, here, there, rfl⟩, rfl⟩
    rw [List.append_assoc]
    exact Option.bind_eq_some_iff.mpr ⟨(value, back ++ rest), (first _ _ _).mpr ⟨front, here, rfl⟩,
      (later value _ _ _).mpr ⟨back, there, rfl⟩⟩

theorem Reads.ite {holds : Prop} [Decidable holds] {parser alternative : Parser τ α}
    (yes : holds → Reads parser language) (no : ¬ holds → Reads alternative other) :
    Reads (if holds then parser else alternative) fun value piece =>
      (holds ∧ language value piece) ∨ (¬ holds ∧ other value piece) := by
  intro input value rest
  by_cases true : holds
  · rw [if_pos true, yes true input value rest]
    simp [true]
  · rw [if_neg true, no true input value rest]
    simp [true]

/-- A guarded parser reads its language where the guard does not stop it. -/
theorem Reads.unless {holds : Prop} [Decidable holds] (reads : ¬ holds → Reads parser language) :
    Reads (if holds then Alternative.failure else parser) fun value piece =>
      ¬ holds ∧ language value piece :=
  (Reads.ite (fun _ => Reads.failure) reads).congr fun value piece => by simp

theorem Reads.map {gather : α → β} (reads : Reads parser language) :
    Reads (do let value ← parser; Pure.pure (gather value)) fun result piece =>
      ∃ value, language value piece ∧ result = gather value := by
  refine (reads.bind fun value => Reads.pure).congr fun result piece => ?_
  constructor
  · rintro ⟨value, front, _, here, ⟨rfl, rfl⟩, rfl⟩
    exact ⟨value, by rwa [List.append_nil], rfl⟩
  · rintro ⟨value, here, rfl⟩
    exact ⟨value, piece, [], here, ⟨rfl, rfl⟩, (List.append_nil piece).symm⟩

/-- A counted loop reads as many pieces, and gathers their values in order. -/
theorem Reads.foldTimes {gather : σ → α → σ} (reads : Reads parser language) (count : ℕ)
    (gathered : σ) :
    Reads (GemSim.Lib.foldTimes gather parser count gathered) fun result piece =>
      ∃ values : List α, values.length = count ∧ Concat language values piece ∧
        result = values.foldl gather gathered := by
  induction count generalizing gathered with
  | zero =>
    refine Reads.pure.congr fun result piece => ?_
    constructor
    · rintro ⟨rfl, rfl⟩
      exact ⟨[], rfl, concat_nil.mpr rfl, rfl⟩
    · rintro ⟨values, none, concat, rfl⟩
      rw [List.length_eq_zero_iff] at none
      subst none
      exact ⟨rfl, concat_nil.mp concat⟩
  | succ count ih =>
    refine (reads.bind fun value => ih (gather gathered value)).congr fun result piece => ?_
    constructor
    · rintro ⟨value, front, back, here, ⟨values, length, rest, rfl⟩, rfl⟩
      exact ⟨value :: values, congrArg (· + 1) length, concat_cons.mpr ⟨front, back, here, rest, rfl⟩,
        rfl⟩
    · rintro ⟨values, length, concat, rfl⟩
      cases values with
      | nil => cases length
      | cons value values =>
        obtain ⟨front, back, here, rest, rfl⟩ := concat_cons.mp concat
        exact ⟨value, front, back, here, ⟨values, Nat.succ.inj length, rest, rfl⟩, rfl⟩

/-- What a parser reads is known by its tokens, whatever follows. -/
theorem Reads.unique (reads : Reads parser language) {first last : α} {rest others : List τ}
    (here : language first front) (there : language last back)
    (same : front ++ rest = back ++ others) : first = last ∧ rest = others := by
  have one := (reads (front ++ rest) first rest).mpr ⟨front, here, rfl⟩
  have two := (reads (front ++ rest) last others).mpr ⟨back, there, same⟩
  have equal := Option.some.inj (one.symm.trans two)
  exact Prod.mk.inj equal

end Languages

section Records

variable {α β σ : Type}

/-- The last value that some entry has. -/
def lastOf (valueOf : α → Option β) (entries : List α) : Option β :=
  entries.foldl (fun found entry => (valueOf entry).or found) none

/-- Where each entry takes the place of an earlier one, the last one is left. -/
theorem foldl_lastOf {assign : σ → α → σ} {field : σ → Option β} {valueOf : α → Option β}
    (step : ∀ state entry, field (assign state entry) = (valueOf entry).or (field state))
    (entries : List α) {start : σ} (empty : field start = none) :
    field (entries.foldl assign start) = lastOf valueOf entries := by
  have folds (found : Option β) (state : σ) (same : field state = found) :
      field (entries.foldl assign state) =
        entries.foldl (fun found entry => (valueOf entry).or found) found := by
    induction entries generalizing found state with
    | nil => exact same
    | cons entry rest ih => exact ih _ _ (by rw [step, same])
  exact folds none start empty

/-- The last value is that of an entry. -/
theorem lastOf_mem {valueOf : α → Option β} {entries : List α} {value : β}
    (found : lastOf valueOf entries = some value) : ∃ entry ∈ entries, valueOf entry = some value := by
  induction entries using List.reverseRecOn with
  | nil => cases found
  | append_singleton entries entry ih =>
    rw [lastOf, List.foldl_append] at found
    change (valueOf entry).or (lastOf valueOf entries) = some value at found
    rcases Option.or_eq_some_iff.mp found with here | ⟨-, before⟩
    · exact ⟨entry, List.mem_append_right _ (List.mem_singleton_self entry), here⟩
    · obtain ⟨other, member, same⟩ := ih before
      exact ⟨other, List.mem_append_left _ member, same⟩

end Records

end GemSim.Lib
