import GemSim.Lib.JsonLaw

/-!
# Texts that are cut off

A text that is cut off is not taken for a whole one: what has been read of a mapping ends with its
bracket, whatever follows. Only an integer may go on, so what has been read of one stays only if
something stands behind it.

## Main results

* `scanValue_append` — what has been read stays so when the text goes on
* `eq_of_loads_prefix` — the texts of which a mapping can be read that is cut off
-/

namespace GemSim.Lib

section Prefixes

variable {input rest extra : List Char} {fuel more : ℕ}

theorem scanUnit_append {unit : ℕ} (read : scanUnit input = some (unit, rest)) :
    scanUnit (input ++ extra) = some (unit, rest ++ extra) := by
  rcases input with _ | ⟨a, _ | ⟨b, _ | ⟨c, _ | ⟨d, tail⟩⟩⟩⟩
  case cons.cons.cons.cons =>
    simp only [scanUnit, Option.bind_eq_bind, Option.bind_eq_some_iff, Option.some.injEq,
      Prod.mk.injEq] at read
    obtain ⟨first, foundFirst, second, foundSecond, third, foundThird, last, foundLast, same,
      rfl⟩ := read
    simp only [List.cons_append, scanUnit, foundFirst, foundSecond, foundThird, foundLast,
      Option.bind_eq_bind, Option.bind_some, same]
  all_goals cases read

theorem scanUnicode_append {char : Char} (read : scanUnicode input = some (char, rest)) :
    scanUnicode (input ++ extra) = some (char, rest ++ extra) := by
  simp only [scanUnicode, Option.bind_eq_bind, Option.bind_eq_some_iff] at read
  obtain ⟨⟨unit, after⟩, found, read⟩ := read
  simp only [scanUnicode, scanUnit_append found, Option.bind_eq_bind, Option.bind_some]
  dsimp only at read
  split_ifs at read ⊢ with high
  · rw [scanLow.eq_def] at read
    split at read
    · rename_i back
      simp only [Option.bind_eq_bind, Option.bind_eq_some_iff] at read
      obtain ⟨⟨low, last⟩, foundLow, read⟩ := read
      dsimp only at read
      split_ifs at read with inside
      rw [Option.some.injEq, Prod.mk.injEq] at read
      obtain ⟨same, rfl⟩ := read
      simp only [List.cons_append, scanLow, scanUnit_append foundLow, Option.bind_eq_bind,
        Option.bind_some]
      rw [if_pos inside, same]
    · cases read
  · cases read
    rfl

theorem scanChar_append {char : Char} (read : scanChar input = some (char, rest)) :
    scanChar (input ++ extra) = some (char, rest ++ extra) := by
  rw [scanChar.eq_def] at read
  split at read
  · exact scanUnicode_append read
  · rename_i letter back other
    obtain ⟨found, same, shape⟩ := Option.map_eq_some_iff.mp read
    cases shape
    rw [List.cons_append, List.cons_append, scanChar.eq_def]
    split
    · rename_i shape
      injection shape with _ shape
      injection shape with first _
      exact absurd first other
    · rename_i shape
      injection shape with _ shape
      injection shape with first rest
      rw [← first, ← rest, same]
      rfl
    · rename_i later shape
      injection shape with first last
      exact absurd last.symm (later _ _ first.symm)
    · rename_i shape
      cases shape
  · rename_i other
    split_ifs at read with refused
    cases read
    rw [not_or] at refused
    exact scanChar_plain (by omega) refused.2
  · cases read

theorem scanChars_append {chars : List Char} (read : scanChars fuel input = some (chars, rest))
    (enough : fuel ≤ more) : scanChars more (input ++ extra) = some (chars, rest ++ extra) := by
  induction fuel generalizing input chars more with
  | zero => cases read
  | succ fuel ih =>
    obtain ⟨more, rfl⟩ := Nat.exists_eq_add_of_lt (show 0 < more by omega)
    rw [Nat.zero_add]
    rw [scanChars.eq_def] at read
    dsimp only at read
    split at read
    · cases read
      rfl
    · rename_i other
      simp only [Option.bind_eq_bind, Option.bind_eq_some_iff, Option.some.injEq,
        Prod.mk.injEq] at read
      obtain ⟨⟨char, after⟩, found, ⟨later, last⟩, readLater, rfl, rfl⟩ := read
      cases input with
      | nil => cases found
      | cons first tail =>
        have ne : first ≠ '"' := fun same => other tail (by rw [same])
        have here := @scanChar_append _ _ extra _ found
        rw [List.cons_append] at here ⊢
        rw [scanChars_cons ne, here]
        simp only [Option.bind_eq_bind, Option.bind_some]
        rw [ih readLater (by omega)]
        rfl

theorem Ends.append (ends : Ends rest) (nonempty : rest ≠ []) (extra : List Char) :
    Ends (rest ++ extra) := by
  cases rest with
  | nil => exact absurd rfl nonempty
  | cons char tail =>
    intro first last shape
    injection shape with same _
    rw [← same]
    exact ends char tail rfl

theorem scanNatural_append {value : ℕ} (read : scanNatural input = some (value, rest))
    (ends : Ends rest) (nonempty : rest ≠ []) :
    scanNatural (input ++ extra) = some (value, rest ++ extra) := by
  have later := ends.append nonempty extra
  rw [scanNatural.eq_def] at read
  split at read
  · split_ifs at read with real
    cases read
    rw [List.cons_append, scanNatural, later.isReal]
    rfl
  · rename_i other
    dsimp only at read
    split_ifs at read with refused
    rw [Option.some.injEq, Prod.mk.injEq] at read
    obtain ⟨number, back⟩ := read
    cases input with
    | nil =>
      rw [← back] at nonempty
      exact absurd rfl nonempty
    | cons first tail =>
      have ne : first ≠ '0' := fun same => other tail (by rw [same])
      -- the digits end before what is left, which is not empty: more text does not change them
      have whole := @List.takeWhile_append_dropWhile _ Char.isDigit (first :: tail)
      have all : ∀ digit ∈ (first :: tail).takeWhile Char.isDigit, digit.isDigit = true :=
        fun digit member => List.all_eq_true.mp List.all_takeWhile digit member
      generalize (first :: tail).takeWhile Char.isDigit = digits at *
      rw [back] at whole
      obtain ⟨front, last⟩ := later.takeWhile all
      have shape : first :: (tail ++ extra) = digits ++ (rest ++ extra) := by
        rw [← List.append_assoc, whole, List.cons_append]
      have some : digits ≠ [] := fun empty => refused (.inl empty)
      rw [List.cons_append, scanNatural_cons ne, shape, front, last, later.isReal, number,
        if_neg (by simpa using some)]

theorem scanInteger_append {value : ℤ} (read : scanInteger input = some (value, rest))
    (ends : Ends rest) (nonempty : rest ≠ []) :
    scanInteger (input ++ extra) = some (value, rest ++ extra) := by
  rw [scanInteger.eq_def] at read
  split at read
  · obtain ⟨⟨number, last⟩, found, shape⟩ := Option.map_eq_some_iff.mp read
    cases shape
    rw [List.cons_append, scanInteger, scanNatural_append found ends nonempty]
    rfl
  · rename_i other
    obtain ⟨⟨number, last⟩, found, shape⟩ := Option.map_eq_some_iff.mp read
    cases shape
    cases input with
    | nil => cases found
    | cons first tail =>
      have ne : first ≠ '-' := fun same => other tail (by rw [same])
      have here := @scanNatural_append _ _ extra _ found ends nonempty
      rw [List.cons_append] at here ⊢
      rw [scanInteger_cons ne, here]
      rfl

/-- An integer begins with a digit or with a sign. -/
theorem scanInteger_some {value : ℤ} (read : scanInteger input = some (value, rest)) :
    ∃ first tail, input = first :: tail ∧ (first.isDigit = true ∨ first = '-') := by
  have natural {value : ℕ} {rest : List Char} (read : scanNatural input = some (value, rest)) :
      ∃ first tail, input = first :: tail ∧ first.isDigit = true := by
    rw [scanNatural.eq_def] at read
    split at read
    · exact ⟨'0', _, rfl, by decide⟩
    · dsimp only at read
      split_ifs at read with refused
      cases input with
      | nil => exact absurd (.inl rfl) refused
      | cons first tail =>
        refine ⟨first, tail, rfl, ?_⟩
        by_contra other
        rw [List.takeWhile_cons_of_neg other] at refused
        exact refused (.inl rfl)
  rw [scanInteger.eq_def] at read
  split at read
  · exact ⟨'-', _, rfl, .inr rfl⟩
  · obtain ⟨⟨number, last⟩, found, -⟩ := Option.map_eq_some_iff.mp read
    obtain ⟨first, tail, shape, digit⟩ := natural found
    exact ⟨first, tail, shape, .inl digit⟩

/-- What has been read before more text came. An integer may go on. -/
def Terminated (value : Json) (rest : List Char) : Prop :=
  ∀ number, value = .integer number → Ends rest ∧ rest ≠ []

theorem terminated_of_skipBlanks {char : Char} {value : Json} {next : List Char}
    (there : skipBlanks rest = char :: next) (digit : char.isDigit = false)
    (other : char ∉ ['.', 'e', 'E']) : Terminated value rest := by
  intro _ _
  cases rest with
  | nil => cases there
  | cons first tail =>
    refine ⟨?_, List.cons_ne_nil _ _⟩
    by_cases blank : isBlank first = true
    · simp only [isBlank, Bool.or_eq_true, decide_eq_true_eq] at blank
      rcases blank with ((rfl | rfl) | rfl) | rfl <;> exact ends_cons (by decide) (by decide)
    · rw [skipBlanks_cons (by simpa using blank)] at there
      cases there
      exact ends_cons digit other

theorem skipBlanks_append_cons {char : Char} {next : List Char}
    (there : skipBlanks input = char :: next) (extra : List Char) :
    skipBlanks (input ++ extra) = char :: (next ++ extra) := by
  rw [skipBlanks_append (by rw [there]; exact List.cons_ne_nil _ _), there, List.cons_append]

theorem scanItems_append {scan other : Scanner Json} {items : List Json} (empty : scan [] = none)
    (same : ∀ input value rest, scan input = some (value, rest) → Terminated value rest →
      other (input ++ extra) = some (value, rest ++ extra))
    (read : scanItems scan fuel input = some (items, rest)) (enough : fuel ≤ more) :
    scanItems other more (input ++ extra) = some (items, rest ++ extra) := by
  induction fuel generalizing input items more with
  | zero => cases read
  | succ fuel ih =>
    obtain ⟨more, rfl⟩ := Nat.exists_eq_add_of_lt (show 0 < more by omega)
    rw [Nat.zero_add]
    simp only [scanItems, Option.bind_eq_bind, Option.bind_eq_some_iff] at read
    obtain ⟨⟨item, after⟩, found, read⟩ := read
    dsimp only at read
    split at read
    · rename_i back there
      cases read
      exact scanItems_last
        (same _ _ _ found (terminated_of_skipBlanks there (by decide) (by decide)))
        (skipBlanks_append_cons there extra)
    · rename_i back there
      simp only [Option.bind_eq_some_iff, Option.some.injEq, Prod.mk.injEq] at read
      obtain ⟨⟨later, last⟩, readLater, rfl, rfl⟩ := read
      have nonempty : skipBlanks back ≠ [] := by
        intro gone
        rw [gone] at readLater
        cases fuel with
        | zero => cases readLater
        | succ fuel =>
          rw [scanItems, empty] at readLater
          cases readLater
      rw [scanItems_more
        (same _ _ _ found (terminated_of_skipBlanks there (by decide) (by decide)))
        (skipBlanks_append_cons there extra), skipBlanks_append nonempty,
        ih readLater (by omega)]
      rfl
    · cases read

theorem scanName_append {name : String} (read : scanName fuel input = some (name, rest))
    (nonempty : rest ≠ []) (enough : fuel ≤ more) :
    scanName more (input ++ extra) = some (name, rest ++ extra) := by
  rw [scanName.eq_def] at read
  split at read
  · simp only [Option.bind_eq_bind, Option.bind_eq_some_iff] at read
    obtain ⟨⟨chars, after⟩, found, read⟩ := read
    dsimp only at read
    split at read
    · rename_i there
      cases read
      simp only [List.cons_append, scanName, scanChars_append found enough, Option.bind_eq_bind,
        Option.bind_some, skipBlanks_append_cons there extra]
      rw [skipBlanks_append nonempty]
    · cases read
  · cases read

theorem scanFields_append {scan other : Scanner Json} {names moreNames : ℕ}
    {before fields : List (String × Json)} (empty : scan [] = none)
    (same : ∀ input value rest, scan input = some (value, rest) → Terminated value rest →
      other (input ++ extra) = some (value, rest ++ extra))
    (read : scanFields scan names fuel before input = some (fields, rest)) (enough : fuel ≤ more)
    (enoughNames : names ≤ moreNames) :
    scanFields other moreNames more before (input ++ extra) = some (fields, rest ++ extra) := by
  induction fuel generalizing input before more with
  | zero => cases read
  | succ fuel ih =>
    obtain ⟨more, rfl⟩ := Nat.exists_eq_add_of_lt (show 0 < more by omega)
    rw [Nat.zero_add]
    simp only [scanFields, Option.bind_eq_bind, Option.bind_eq_some_iff] at read
    obtain ⟨⟨name, inner⟩, named, ⟨value, after⟩, found, read⟩ := read
    have inside : inner ≠ [] := by
      intro gone
      rw [gone, empty] at found
      cases found
    dsimp only at read found
    split at read
    · rename_i back there
      cases read
      exact scanFields_last (scanName_append named inside enoughNames)
        (same _ _ _ found (terminated_of_skipBlanks there (by decide) (by decide)))
        (skipBlanks_append_cons there extra)
    · rename_i back there
      have nonempty : skipBlanks back ≠ [] := by
        intro gone
        rw [gone] at read
        cases fuel <;> cases read
      rw [scanFields_more (scanName_append named inside enoughNames)
        (same _ _ _ found (terminated_of_skipBlanks there (by decide) (by decide)))
        (skipBlanks_append_cons there extra), skipBlanks_append nonempty]
      exact ih read (by omega)
    · cases read

theorem scanValue_nil (fuel : ℕ) : scanValue fuel [] = none := by
  cases fuel <;> rfl

/-- What has been read stays so when the text goes on, if it has come to its end. -/
theorem scanValue_append {value : Json} (read : scanValue fuel input = some (value, rest))
    (terminated : Terminated value rest) (enough : fuel ≤ more) :
    scanValue more (input ++ extra) = some (value, rest ++ extra) := by
  induction fuel generalizing input value rest more with
  | zero => cases read
  | succ fuel ih =>
    obtain ⟨more, rfl⟩ := Nat.exists_eq_add_of_lt (show 0 < more by omega)
    rw [Nat.zero_add] at enough ⊢
    have inside (input : List Char) (value : Json) (rest : List Char)
        (read : scanValue fuel input = some (value, rest)) (terminated : Terminated value rest) :
        scanValue more (input ++ extra) = some (value, rest ++ extra) :=
      ih read terminated (by omega)
    rw [scanValue.eq_def] at read
    dsimp only at read
    split at read
    -- the three words
    · cases read
      rfl
    · cases read
      rfl
    · cases read
      rfl
    -- a string
    · obtain ⟨⟨chars, last⟩, found, shape⟩ := Option.map_eq_some_iff.mp read
      cases shape
      simp only [List.cons_append, scanValue, scanChars_append found (show fuel ≤ more by omega)]
      rfl
    -- an array, which is empty or has a first item
    · rename_i back
      split at read
      · rename_i there
        cases read
        simp only [List.cons_append, scanValue, skipBlanks_append_cons there extra]
      · rename_i other
        obtain ⟨⟨items, last⟩, found, shape⟩ := Option.map_eq_some_iff.mp read
        cases shape
        have read := scanItems_append (scanValue_nil fuel) inside found (show fuel ≤ more by omega)
        cases there : skipBlanks back with
        | nil =>
          rw [there] at found
          cases fuel <;> cases found
        | cons first tail =>
          rw [there] at read
          have ne : first ≠ ']' := fun same => other tail (by rw [there, same])
          rw [List.cons_append, scanValue_array (skipBlanks_append_cons there extra)
            (by simpa using ne), ← List.cons_append, read]
          rfl
    -- a mapping, which is empty or has a first entry
    · rename_i back
      split at read
      · rename_i there
        cases read
        simp only [List.cons_append, scanValue, skipBlanks_append_cons there extra]
      · rename_i other
        obtain ⟨⟨fields, last⟩, found, shape⟩ := Option.map_eq_some_iff.mp read
        cases shape
        have read := scanFields_append (scanValue_nil fuel) inside found
          (show fuel ≤ more by omega) (show fuel ≤ more by omega)
        cases there : skipBlanks back with
        | nil =>
          rw [there] at found
          cases fuel <;> cases found
        | cons first tail =>
          rw [there] at read
          have ne : first ≠ '}' := fun same => other tail (by rw [there, same])
          rw [List.cons_append, scanValue_object (skipBlanks_append_cons there extra)
            (by simpa using ne), ← List.cons_append, read]
          rfl
    -- an integer, which had ended before the text went on
    · obtain ⟨⟨number, last⟩, found, shape⟩ := Option.map_eq_some_iff.mp read
      cases shape
      obtain ⟨ends, nonempty⟩ := terminated number rfl
      obtain ⟨first, tail, rfl, starts⟩ := scanInteger_some found
      have here := @scanInteger_append _ _ extra _ found ends nonempty
      rw [List.cons_append] at here ⊢
      rw [scanValue_integer starts, here]
      rfl

/-- If a mapping can be read of a text that is cut off, nothing but blanks has been cut off. -/
theorem eq_of_loads_prefix {whole found : Json} {front back tail : List Char}
    (mapping : ∃ fields, whole = .object fields) (distinct : whole.Distinct)
    (blank : skipBlanks tail = []) (cut : front ++ back = whole.text ++ tail)
    (read : loads front = some found) : found = whole ∧ ∃ last, front = whole.text ++ last := by
  obtain ⟨fields, rfl⟩ := mapping
  simp only [loads, Option.bind_eq_bind, Option.bind_eq_some_iff] at read
  obtain ⟨⟨value, rest⟩, scanned, read⟩ := read
  cases front with
  | nil =>
    rw [show skipBlanks [] = [] from rfl, scanValue_nil] at scanned
    cases scanned
  | cons first front =>
    have brace : first = '{' := by
      have shape : first :: (front ++ back) =
          '{' :: (commas (Json.textFields fields) ++ ['}'] ++ tail) := cut
      injection shape
    subst brace
    rw [skipBlanks_cons (by decide)] at scanned
    -- no integer begins with a brace
    have terminated : Terminated value rest := by
      rintro number rfl
      simp only [scanValue] at scanned
      split at scanned
      · cases scanned
      · obtain ⟨found, -, shape⟩ := Option.map_eq_some_iff.mp scanned
        cases shape
    dsimp only at read
    split_ifs at read with done
    cases read
    have enough : ('{' :: front).length + 1 ≤ ((Json.object fields).text ++ tail).length + 1 := by
      rw [← cut, List.length_append]
      omega
    have whole := @scanValue_append _ _ back _ _ _ scanned terminated enough
    have written := @scanValue_text tail (.object fields)
      (((Json.object fields).text ++ tail).length + 1) distinct
      (by rw [List.length_append]; omega) (ends_of_blank blank)
    rw [cut, written, Option.some.injEq, Prod.mk.injEq] at whole
    -- both texts have the same value, and the same text behind it
    obtain ⟨same, last⟩ := whole
    refine ⟨same.symm, rest, ?_⟩
    rw [last, ← List.append_assoc] at cut
    exact List.append_cancel_right cut

end Prefixes

end GemSim.Lib
