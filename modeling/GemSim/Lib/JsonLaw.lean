import GemSim.Lib.Json

/-!
# What is written is read again

A value whose mappings have one entry to a name comes back from its text, whatever blanks stand
around it.

## Main results

* `scanValue_text`, `loads_text` — a value comes back from its text
* `text_ascii` — a text consists of ASCII characters
* `sorted_sorted`, `Json.Distinct.sorted` — entries are put in order once
-/

namespace GemSim.Lib

section Parts

variable {fields : List (String × Json)} {items : List Json}

theorem sizeOf_item_lt {item : Json} (member : item ∈ items) :
    sizeOf item < sizeOf (Json.array items) := by
  have smaller := List.sizeOf_lt_of_mem member
  rw [Json.array.sizeOf_spec]
  omega

theorem sizeOf_field_lt {entry : String × Json} (member : entry ∈ fields) :
    sizeOf entry.2 < sizeOf (Json.object fields) := by
  have smaller := List.sizeOf_lt_of_mem member
  have part : sizeOf entry.2 < sizeOf entry := by
    cases entry
    simp only [Prod.mk.sizeOf_spec]
    omega
  rw [Json.object.sizeOf_spec]
  omega

/-- What holds of a value if it holds of its parts, holds of all values. -/
@[elab_as_elim]
theorem Json.parts {holds : Json → Prop} (null : holds .null)
    (boolean : ∀ flag, holds (.boolean flag)) (integer : ∀ number, holds (.integer number))
    (string : ∀ text, holds (.string text))
    (array : ∀ items, (∀ item ∈ items, holds item) → holds (.array items))
    (object : ∀ fields, (∀ entry ∈ fields, holds entry.2) → holds (.object fields)) :
    ∀ value, holds value
  | .null => null
  | .boolean flag => boolean flag
  | .integer number => integer number
  | .string text => string text
  | .array items => array items fun item _ =>
    Json.parts null boolean integer string array object item
  | .object fields => object fields fun entry _ =>
    Json.parts null boolean integer string array object entry.2
termination_by value => sizeOf value
decreasing_by
  · exact sizeOf_item_lt ‹_›
  · exact sizeOf_field_lt ‹_›

theorem text_integer (number : ℤ) : (Json.integer number).text = integerText number := rfl

theorem text_string (text : String) : (Json.string text).text = quoted text := rfl

theorem text_array (items : List Json) :
    (Json.array items).text = '[' :: (commas (Json.textItems items) ++ [']']) := rfl

theorem text_object (fields : List (String × Json)) :
    (Json.object fields).text = '{' :: (commas (Json.textFields fields) ++ ['}']) := rfl

theorem textItems_cons (item : Json) (items : List Json) :
    Json.textItems (item :: items) = item.text :: Json.textItems items := rfl

theorem textFields_nil : Json.textFields [] = [] := rfl

theorem textFields_cons (entry : String × Json) (fields : List (String × Json)) :
    Json.textFields (entry :: fields) =
      (quoted entry.1 ++ ':' :: entry.2.text) :: Json.textFields fields := rfl

theorem distinctItems_iff : Json.DistinctItems items ↔ ∀ item ∈ items, item.Distinct := by
  induction items with
  | nil => simp [Json.DistinctItems]
  | cons item items ih => simp [Json.DistinctItems, ih]

theorem distinctFields_iff :
    Json.DistinctFields fields ↔ ∀ entry ∈ fields, entry.2.Distinct := by
  induction fields with
  | nil => simp [Json.DistinctFields]
  | cons entry fields ih => simp [Json.DistinctFields, ih]

end Parts

section Characters

variable {char : Char} {rest : List Char} {unit : ℕ}

theorem hexValue_hexDigit : ∀ value < 16, hexValue (hexDigit value) = some value := by decide

theorem scanUnit_hexDigits (small : unit < 65536) :
    scanUnit (hexDigit (unit / 4096 % 16) :: hexDigit (unit / 256 % 16) ::
      hexDigit (unit / 16 % 16) :: hexDigit (unit % 16) :: rest) = some (unit, rest) := by
  have digit (value : ℕ) : hexValue (hexDigit (value % 16)) = some (value % 16) :=
    hexValue_hexDigit _ (Nat.mod_lt _ (by omega))
  simp only [scanUnit, digit, Option.bind_eq_bind, Option.bind_some, Option.some.injEq,
    Prod.mk.injEq, and_true]
  omega

/-- No surrogate is a character. -/
theorem not_surrogate (char : Char) : ¬ (55296 ≤ char.toNat ∧ char.toNat ≤ 57343) := by
  have valid := char.valid
  rw [UInt32.isValidChar, Nat.isValidChar] at valid
  change ¬ (55296 ≤ char.val.toNat ∧ char.val.toNat ≤ 57343)
  omega

theorem toNat_lt (char : Char) : char.toNat < 1114112 := by
  have valid := char.valid
  rw [UInt32.isValidChar, Nat.isValidChar] at valid
  change char.val.toNat < 1114112
  omega

theorem scanChar_escapeUnit (small : char.toNat < 65536) :
    scanChar (escapeUnit char.toNat ++ rest) = some (char, rest) := by
  have outside := not_surrogate char
  simp only [escapeUnit, List.cons_append, List.nil_append, scanChar, scanUnicode,
    scanUnit_hexDigits small, Option.bind_eq_bind, Option.bind_some]
  rw [if_neg (by omega), if_neg (by omega), Char.ofNat_toNat]

/-- A pair of surrogates is read as one character. -/
theorem scanChar_pair {high low : ℕ} (highAbove : 55296 ≤ high) (highBelow : high ≤ 56319)
    (lowAbove : 56320 ≤ low) (lowBelow : low ≤ 57343) :
    scanChar (escapeUnit high ++ (escapeUnit low ++ rest)) =
      some (Char.ofNat (65536 + (high - 55296) * 1024 + (low - 56320)), rest) := by
  have highSmall : high < 65536 := by omega
  have lowSmall : low < 65536 := by omega
  simp only [escapeUnit, List.cons_append, List.nil_append, scanChar, scanUnicode, scanLow,
    scanUnit_hexDigits highSmall, scanUnit_hexDigits lowSmall, Option.bind_eq_bind,
    Option.bind_some]
  rw [if_pos ⟨highAbove, highBelow⟩, if_pos ⟨lowAbove, lowBelow⟩]

/-- A character beyond 16 bits is known by its surrogates. -/
theorem scanChar_surrogates (large : 65536 ≤ char.toNat) :
    scanChar (escapeUnit (55296 + (char.toNat - 65536) / 1024) ++
      (escapeUnit (56320 + (char.toNat - 65536) % 1024) ++ rest)) = some (char, rest) := by
  have bound := toNat_lt char
  rw [scanChar_pair (by omega) (by omega) (by omega) (by omega)]
  have whole : 65536 + (55296 + (char.toNat - 65536) / 1024 - 55296) * 1024 +
      (56320 + (char.toNat - 65536) % 1024 - 56320) = char.toNat := by omega
  rw [whole, Char.ofNat_toNat]

theorem scanChar_shortEscape {letter : Char} (short : shortEscape char = some letter) :
    scanChar ('\\' :: letter :: rest) = some (char, rest) := by
  have all : ∀ entry ∈ shortEscapes, entry.1 ≠ 'u' ∧ unescape entry.1 = some entry.2 := by decide
  obtain ⟨entry, found, rfl⟩ := Option.map_eq_some_iff.mp short
  have same : entry.2 = char := by simpa using List.find?_some found
  obtain ⟨ne, back⟩ := all entry (List.mem_of_find?_eq_some found)
  rw [scanChar.eq_def]
  split
  · rename_i shape
    injection shape with _ shape
    injection shape with first _
    exact absurd first ne
  · rename_i shape
    injection shape with _ shape
    injection shape with first rest
    rw [← first, ← rest, back, same]
    rfl
  · rename_i later shape
    injection shape with first last
    exact absurd last.symm (later _ _ first.symm)
  · rename_i shape
    cases shape

theorem scanChar_plain (above : 32 ≤ char.toNat) (other : char ≠ '\\') :
    scanChar (char :: rest) = some (char, rest) := by
  rw [scanChar.eq_def]
  split
  · rename_i shape
    injection shape with first _
    exact absurd first other
  · rename_i shape
    injection shape with first _
    exact absurd first other
  · rename_i shape
    injection shape with first last
    rw [← first, ← last, if_neg (not_or.mpr ⟨by omega, other⟩)]
  · rename_i shape
    cases shape

/-- A character is read from its escape. -/
theorem scanChar_escapeChar (char : Char) (rest : List Char) :
    scanChar (escapeChar char ++ rest) = some (char, rest) := by
  unfold escapeChar
  cases short : shortEscape char with
  | some letter => exact scanChar_shortEscape short
  | none =>
    have other : char ≠ '\\' := by
      rintro rfl
      revert short
      decide
    dsimp only
    split_ifs with printable small
    · exact scanChar_plain printable.1 other
    · exact scanChar_escapeUnit small
    · rw [List.append_assoc]
      exact scanChar_surrogates (by omega)

/-- No escape begins like the end of a string. -/
theorem escapeChar_eq_cons (char : Char) :
    ∃ first tail, escapeChar char = first :: tail ∧ first ≠ '"' := by
  unfold escapeChar
  cases short : shortEscape char with
  | some letter => exact ⟨'\\', [letter], rfl, by decide⟩
  | none =>
    have other : char ≠ '"' := by
      rintro rfl
      revert short
      decide
    dsimp only
    split_ifs
    · exact ⟨char, [], rfl, other⟩
    · exact ⟨'\\', _, rfl, by decide⟩
    · exact ⟨'\\', _, rfl, by decide⟩

theorem scanChars_cons {first : Char} {tail : List Char} (other : first ≠ '"') (fuel : ℕ) :
    scanChars (fuel + 1) (first :: tail) = (do
      let (char, rest) ← scanChar (first :: tail)
      let (chars, rest) ← scanChars fuel rest
      some (char :: chars, rest)) := by
  rw [scanChars.eq_def]
  dsimp only
  split
  · rename_i shape
    injection shape with first _
    exact absurd first other
  · rfl

/-- A string is read from its text. -/
theorem scanChars_text (chars : List Char) {fuel : ℕ} (enough : chars.length < fuel) :
    scanChars fuel (chars.flatMap escapeChar ++ '"' :: rest) = some (chars, rest) := by
  induction chars generalizing fuel with
  | nil =>
    obtain ⟨fuel, rfl⟩ := Nat.exists_eq_add_of_lt enough
    rfl
  | cons char chars ih =>
    obtain ⟨fuel, rfl⟩ := Nat.exists_eq_add_of_lt enough
    obtain ⟨first, tail, shape, other⟩ := escapeChar_eq_cons char
    have read := scanChar_escapeChar char (chars.flatMap escapeChar ++ '"' :: rest)
    rw [List.flatMap_cons, List.append_assoc, shape, List.cons_append, scanChars_cons other,
      ← List.cons_append, ← shape, read]
    simp only [Option.bind_eq_bind, Option.bind_some]
    rw [ih (by rw [List.length_cons]; omega)]
    rfl

end Characters

section Numbers

variable {rest : List Char}

/-- Nothing that would make a number longer stands at the front. -/
def Ends (rest : List Char) : Prop :=
  ∀ char tail, rest = char :: tail → char.isDigit = false ∧ char ∉ ['.', 'e', 'E']

theorem Ends.isReal (ends : Ends rest) : isReal rest = false := by
  cases rest with
  | nil => rfl
  | cons char tail =>
    obtain ⟨-, outside⟩ := ends char tail rfl
    simp only [List.mem_cons, List.not_mem_nil, or_false, not_or] at outside
    obtain ⟨dot, small, large⟩ := outside
    rw [Lib.isReal.eq_def]
    split
    · rename_i shape
      injection shape with first _
      exact absurd first dot
    · rename_i shape
      injection shape with first _
      rw [← first, decide_eq_false small, decide_eq_false large]
      rfl
    · rfl

theorem Ends.takeWhile (ends : Ends rest) {digits : List Char}
    (all : ∀ digit ∈ digits, digit.isDigit = true) :
    (digits ++ rest).takeWhile Char.isDigit = digits ∧
      (digits ++ rest).dropWhile Char.isDigit = rest := by
  rw [List.takeWhile_append_of_pos all, List.dropWhile_append_of_pos all]
  cases rest with
  | nil => exact ⟨List.append_nil _, rfl⟩
  | cons char tail =>
    have stops : ¬ char.isDigit = true := by simp [(ends char tail rfl).1]
    rw [List.takeWhile_cons_of_neg stops, List.dropWhile_cons_of_neg stops]
    exact ⟨List.append_nil _, rfl⟩

theorem digits_of_toDigits (value : ℕ) : ∀ digit ∈ Nat.toDigits 10 value, digit.isDigit = true :=
  fun _ member => Nat.isDigit_of_mem_toDigits (by omega) (by omega) member

/-- Only zero begins with a zero. -/
theorem toDigits_eq_cons : ∀ {value : ℕ}, 0 < value →
    ∃ first tail, Nat.toDigits 10 value = first :: tail ∧ first ≠ '0'
  | value, positive => by
    rw [Nat.toDigits_eq_if (by omega)]
    split_ifs with small
    · have all : ∀ digit < 10, 0 < digit → Nat.digitChar digit ≠ '0' := by decide
      exact ⟨_, [], rfl, all value small positive⟩
    · obtain ⟨first, tail, shape, other⟩ := @toDigits_eq_cons (value / 10) (by omega)
      rw [shape]
      exact ⟨first, _, rfl, other⟩

theorem scanNatural_cons {first : Char} {tail : List Char} (other : first ≠ '0') :
    scanNatural (first :: tail) =
      if (first :: tail).takeWhile Char.isDigit = [] ∨
          isReal ((first :: tail).dropWhile Char.isDigit) = true then none
      else some (Nat.ofDigitChars 10 ((first :: tail).takeWhile Char.isDigit) 0,
        (first :: tail).dropWhile Char.isDigit) := by
  rw [scanNatural.eq_def]
  split
  · rename_i shape
    injection shape with first _
    exact absurd first other
  · rfl

theorem scanNatural_toDigits (value : ℕ) (ends : Ends rest) :
    scanNatural (Nat.toDigits 10 value ++ rest) = some (value, rest) := by
  rcases Nat.eq_zero_or_pos value with rfl | positive
  · rw [Nat.toDigits_zero, List.cons_append, List.nil_append, scanNatural, ends.isReal]
    rfl
  · obtain ⟨front, back⟩ := ends.takeWhile (digits_of_toDigits value)
    have some : Nat.toDigits 10 value ≠ [] := Nat.toDigits_ne_nil
    have whole := @Nat.ofDigitChars_toDigits 10 value (by omega) (by omega)
    obtain ⟨first, tail, shape, other⟩ := toDigits_eq_cons positive
    rw [shape] at front back some whole ⊢
    rw [List.cons_append, scanNatural_cons other, ← List.cons_append, front, back, ends.isReal,
      if_neg (by simp), whole]

theorem scanInteger_cons {first : Char} {tail : List Char} (other : first ≠ '-') :
    scanInteger (first :: tail) =
      (scanNatural (first :: tail)).map fun found => ((found.1 : ℤ), found.2) := by
  rw [scanInteger.eq_def]
  split
  · rename_i shape
    injection shape with first _
    exact absurd first other
  · rfl

theorem scanInteger_text (value : ℤ) (ends : Ends rest) :
    scanInteger (integerText value ++ rest) = some (value, rest) := by
  cases value with
  | ofNat value =>
    have digits := digits_of_toDigits value
    have read := scanNatural_toDigits value ends
    cases shape : Nat.toDigits 10 value with
    | nil => exact absurd shape Nat.toDigits_ne_nil
    | cons first tail =>
      have other : first ≠ '-' := by
        rintro rfl
        have digit := digits '-' (by rw [shape]; exact List.mem_cons_self)
        revert digit
        decide
      rw [shape] at read
      rw [integerText, shape, List.cons_append, scanInteger_cons other, ← List.cons_append, read]
      rfl
  | negSucc value =>
    rw [integerText, List.cons_append, scanInteger, scanNatural_toDigits (value + 1) ends]
    rfl

end Numbers

section Values

variable {rest : List Char} {items : List Json} {fields : List (String × Json)} {name : String}
  {value : Json}

theorem skipBlanks_cons {char : Char} {tail : List Char} (other : isBlank char = false) :
    skipBlanks (char :: tail) = char :: tail := by
  rw [skipBlanks, List.dropWhile_cons_of_neg (by simp [other])]

theorem skipBlanks_append {front : List Char} (some : skipBlanks front ≠ []) :
    skipBlanks (front ++ rest) = skipBlanks front ++ rest := by
  rw [skipBlanks, List.dropWhile_append, if_neg]
  · rfl
  · rwa [List.isEmpty_iff]

/-- The characters that values begin with. -/
def opens (char : Char) : Bool :=
  char.isDigit || ['-', '"', '[', '{', 'n', 't', 'f'].contains char

theorem opens_not_blank {char : Char} (starts : opens char = true) :
    isBlank char = false ∧ char ≠ ']' ∧ char ≠ '}' := by
  by_contra other
  rw [not_and_or, not_and_or, not_not, not_not, Bool.not_eq_false] at other
  rcases other with blank | rfl | rfl
  · simp only [isBlank, Bool.or_eq_true, decide_eq_true_eq] at blank
    rcases blank with ((rfl | rfl) | rfl) | rfl <;> revert starts <;> decide
  · revert starts
    decide
  · revert starts
    decide

theorem toDigits_opens (value : ℕ) :
    ∃ first tail, Nat.toDigits 10 value = first :: tail ∧ first.isDigit = true := by
  cases shape : Nat.toDigits 10 value with
  | nil => exact absurd shape Nat.toDigits_ne_nil
  | cons first tail =>
    have digit := digits_of_toDigits value first (by rw [shape]; exact List.mem_cons_self)
    exact ⟨first, tail, rfl, digit⟩

theorem integerText_opens (number : ℤ) : ∃ first tail, integerText number = first :: tail ∧
    (first.isDigit = true ∨ first = '-') := by
  cases number with
  | ofNat number =>
    obtain ⟨first, tail, shape, digit⟩ := toDigits_opens number
    exact ⟨first, tail, shape, .inl digit⟩
  | negSucc number => exact ⟨'-', _, rfl, .inr rfl⟩

theorem text_opens (value : Json) :
    ∃ first tail, value.text = first :: tail ∧ opens first = true := by
  cases value with
  | null => exact ⟨_, _, rfl, rfl⟩
  | boolean flag => cases flag <;> exact ⟨_, _, rfl, rfl⟩
  | integer number =>
    obtain ⟨first, tail, shape, digit | rfl⟩ := integerText_opens number
    · exact ⟨first, tail, shape, by rw [opens, digit]; rfl⟩
    · exact ⟨_, tail, shape, rfl⟩
  | string text => exact ⟨_, _, rfl, rfl⟩
  | array items => exact ⟨_, _, rfl, rfl⟩
  | object fields => exact ⟨_, _, rfl, rfl⟩

theorem ends_cons {char : Char} {tail : List Char} (digit : char.isDigit = false)
    (other : char ∉ ['.', 'e', 'E']) : Ends (char :: tail) := by
  intro first rest shape
  injection shape with same _
  rw [← same]
  exact ⟨digit, other⟩

theorem putEntry_of_notMem (absent : name ∉ fields.map Prod.fst) :
    putEntry name value fields = fields ++ [(name, value)] := by
  rw [putEntry, if_neg]
  intro found
  obtain ⟨entry, member, same⟩ := List.any_eq_true.mp found
  exact absent (List.mem_map.mpr ⟨entry, member, by simpa using same⟩)

/-- What a loop over items does with one that is followed by another. -/
theorem scanItems_more {scan : Scanner Json} {fuel : ℕ} {input next : List Char} {item : Json}
    (read : scan input = some (item, rest)) (comma : skipBlanks rest = ',' :: next) :
    scanItems scan (fuel + 1) input =
      (scanItems scan fuel (skipBlanks next)).map fun found => (item :: found.1, found.2) := by
  simp only [scanItems, read, Option.bind_eq_bind, Option.bind_some, comma]
  rw [Option.map_eq_bind]
  rfl

theorem scanItems_last {scan : Scanner Json} {fuel : ℕ} {input next : List Char} {item : Json}
    (read : scan input = some (item, rest)) (bracket : skipBlanks rest = ']' :: next) :
    scanItems scan (fuel + 1) input = some ([item], next) := by
  simp only [scanItems, read, Option.bind_eq_bind, Option.bind_some, bracket]

theorem scanFields_more {scan : Scanner Json} {names fuel : ℕ} {input inner next : List Char}
    (named : scanName names input = some (name, inner)) (read : scan inner = some (value, rest))
    (comma : skipBlanks rest = ',' :: next) :
    scanFields scan names (fuel + 1) fields input =
      scanFields scan names fuel (putEntry name value fields) (skipBlanks next) := by
  simp only [scanFields, named, read, Option.bind_eq_bind, Option.bind_some, comma]

theorem scanFields_last {scan : Scanner Json} {names fuel : ℕ} {input inner next : List Char}
    (named : scanName names input = some (name, inner)) (read : scan inner = some (value, rest))
    (bracket : skipBlanks rest = '}' :: next) :
    scanFields scan names (fuel + 1) fields input = some (putEntry name value fields, next) := by
  simp only [scanFields, named, read, Option.bind_eq_bind, Option.bind_some, bracket]

theorem commas_cons (piece : List Char) (pieces : List (List Char)) :
    ∃ more, commas (piece :: pieces) = piece ++ more := by
  cases pieces with
  | nil => exact ⟨[], (List.append_nil _).symm⟩
  | cons second pieces => exact ⟨',' :: commas (second :: pieces), rfl⟩

/-- No text begins with a blank. -/
theorem skipBlanks_text (value : Json) (rest : List Char) :
    skipBlanks (value.text ++ rest) = value.text ++ rest := by
  obtain ⟨first, tail, shape, starts⟩ := text_opens value
  rw [shape]
  exact skipBlanks_cons (opens_not_blank starts).1

theorem skipBlanks_textItems (item : Json) (items : List Json) (rest : List Char) :
    skipBlanks (commas (Json.textItems (item :: items)) ++ rest) =
      commas (Json.textItems (item :: items)) ++ rest := by
  obtain ⟨more, front⟩ := commas_cons item.text (Json.textItems items)
  rw [textItems_cons, front, List.append_assoc]
  exact skipBlanks_text item _

theorem skipBlanks_textFields (entry : String × Json) (fields : List (String × Json))
    (rest : List Char) :
    skipBlanks (commas (Json.textFields (entry :: fields)) ++ rest) =
      commas (Json.textFields (entry :: fields)) ++ rest := by
  obtain ⟨more, front⟩ := commas_cons (quoted entry.1 ++ ':' :: entry.2.text)
    (Json.textFields fields)
  rw [textFields_cons, front]
  exact skipBlanks_cons (by decide)

/-- The items of an array are read one by one. -/
theorem scanItems_text {scan : Scanner Json} {fuel : ℕ} {item : Json}
    (reads : ∀ value ∈ item :: items, ∀ rest, Ends rest →
      scan (value.text ++ rest) = some (value, rest))
    (enough : items.length < fuel) :
    scanItems scan fuel (commas (Json.textItems (item :: items)) ++ ']' :: rest) =
      some (item :: items, rest) := by
  induction items generalizing item fuel with
  | nil =>
    obtain ⟨fuel, rfl⟩ := Nat.exists_eq_add_of_lt enough
    have read := reads item List.mem_cons_self (']' :: rest) (ends_cons (by decide) (by decide))
    exact scanItems_last read (skipBlanks_cons (by decide))
  | cons second items ih =>
    obtain ⟨fuel, rfl⟩ := Nat.exists_eq_add_of_lt enough
    have later := ih (fun value member => reads value (List.mem_cons_of_mem _ member))
      (show items.length < (second :: items).length + fuel by rw [List.length_cons]; omega)
    have whole : commas (Json.textItems (item :: second :: items)) ++ ']' :: rest =
        item.text ++ ',' :: (commas (Json.textItems (second :: items)) ++ ']' :: rest) := by
      simp only [textItems_cons, commas, List.append_assoc, List.cons_append]
    have read := reads item List.mem_cons_self
      (',' :: (commas (Json.textItems (second :: items)) ++ ']' :: rest))
      (ends_cons (by decide) (by decide))
    rw [whole, scanItems_more read (skipBlanks_cons (by decide)), skipBlanks_textItems, later]
    rfl

/-- The name of an entry is read from its text, up to the value. -/
theorem scanName_text {fuel : ℕ} (enough : name.toList.length < fuel) (value : Json) :
    scanName fuel (quoted name ++ ':' :: (value.text ++ rest)) =
      some (name, value.text ++ rest) := by
  have read := @scanChars_text (':' :: (value.text ++ rest)) name.toList fuel enough
  simp only [quoted, List.cons_append, List.append_assoc, List.nil_append, scanName, read,
    Option.bind_eq_bind, Option.bind_some, skipBlanks_cons (show isBlank ':' = false by decide),
    skipBlanks_text, String.ofList_toList]

/-- The entries of a mapping are read one by one, and put behind those that were there. -/
theorem scanFields_text {scan : Scanner Json} {names fuel : ℕ} {before : List (String × Json)}
    (reads : ∀ entry ∈ (name, value) :: fields, entry.1.toList.length < names ∧
      ∀ rest, Ends rest → scan (entry.2.text ++ rest) = some (entry.2, rest))
    (nodup : ((before ++ (name, value) :: fields).map Prod.fst).Nodup)
    (enough : fields.length < fuel) :
    scanFields scan names fuel before
        (commas (Json.textFields ((name, value) :: fields)) ++ '}' :: rest) =
      some (before ++ (name, value) :: fields, rest) := by
  have absent : name ∉ before.map Prod.fst := by
    rw [List.map_append, List.nodup_append] at nodup
    intro there
    exact nodup.2.2 _ there _ List.mem_cons_self rfl
  obtain ⟨short, read⟩ := reads (name, value) List.mem_cons_self
  induction fields generalizing before name value fuel with
  | nil =>
    obtain ⟨fuel, rfl⟩ := Nat.exists_eq_add_of_lt enough
    have whole : commas (Json.textFields [(name, value)]) ++ '}' :: rest =
        quoted name ++ ':' :: (value.text ++ '}' :: rest) := by
      simp only [textFields_cons, textFields_nil, commas, List.append_assoc, List.cons_append]
    rw [whole, scanFields_last (scanName_text short value)
      (read ('}' :: rest) (ends_cons (by decide) (by decide))) (skipBlanks_cons (by decide)),
      putEntry_of_notMem absent]
  | cons second fields ih =>
    obtain ⟨fuel, rfl⟩ := Nat.exists_eq_add_of_lt enough
    have whole : commas (Json.textFields ((name, value) :: second :: fields)) ++ '}' :: rest =
        quoted name ++ ':' :: (value.text ++
          ',' :: (commas (Json.textFields (second :: fields)) ++ '}' :: rest)) := by
      simp only [textFields_cons, commas, List.append_assoc, List.cons_append]
    have shape : before ++ (name, value) :: second :: fields =
        (before ++ [(name, value)]) ++ second :: fields := by
      rw [List.append_assoc]
      rfl
    rw [shape] at nodup ⊢
    obtain ⟨shortSecond, readSecond⟩ := reads second (List.mem_cons_of_mem _ List.mem_cons_self)
    rw [whole, scanFields_more (scanName_text short value)
      (read _ (ends_cons (by decide) (by decide))) (skipBlanks_cons (by decide)),
      skipBlanks_textFields, putEntry_of_notMem absent]
    refine ih (fun entry member => reads entry (List.mem_cons_of_mem _ member)) nodup ?_ ?_
      shortSecond readSecond
    · rw [List.length_cons]
      omega
    · rw [List.map_append, List.nodup_append] at nodup
      intro inside
      exact nodup.2.2 _ inside _ List.mem_cons_self rfl

theorem scanValue_string {fuel : ℕ} {input : List Char} :
    scanValue (fuel + 1) ('"' :: input) =
      (scanChars fuel input).map fun found => (.string (String.ofList found.1), found.2) := rfl

theorem scanValue_array {fuel : ℕ} {input tail : List Char} (there : skipBlanks input = tail)
    (other : tail.head? ≠ some ']') :
    scanValue (fuel + 1) ('[' :: input) =
      (scanItems (scanValue fuel) fuel tail).map fun found =>
        (.array found.1, found.2) := by
  simp only [scanValue, there]
  split
  · exact absurd rfl other
  · rfl

theorem scanValue_object {fuel : ℕ} {input tail : List Char} (there : skipBlanks input = tail)
    (other : tail.head? ≠ some '}') :
    scanValue (fuel + 1) ('{' :: input) =
      (scanFields (scanValue fuel) fuel fuel [] tail).map fun found =>
        (.object found.1, found.2) := by
  simp only [scanValue, there]
  split
  · exact absurd rfl other
  · rfl

theorem scanValue_integer {fuel : ℕ} {first : Char} {tail : List Char}
    (starts : first.isDigit = true ∨ first = '-') :
    scanValue (fuel + 1) (first :: tail) =
      (scanInteger (first :: tail)).map fun found => (.integer found.1, found.2) := by
  have other : ∀ mark ∈ ['n', 't', 'f', '"', '[', '{'], first ≠ mark := by
    rintro mark member rfl
    rcases starts with digit | dash
    · have none : ∀ mark ∈ ['n', 't', 'f', '"', '[', '{'], Char.isDigit mark = false := by
        simp
      rw [none _ member] at digit
      cases digit
    · rw [dash] at member
      revert member
      decide
  rw [scanValue.eq_def]
  dsimp only
  split
  -- the first characters of the other kinds of values are marks
  all_goals first
    | rfl
    | (rename_i shape
       injection shape with same _
       exact absurd same (other _ (by decide)))

theorem length_le_commas {piece : List Char} {pieces : List (List Char)} (member : piece ∈ pieces) :
    piece.length ≤ (commas pieces).length := by
  induction pieces with
  | nil => cases member
  | cons first pieces ih =>
    cases pieces with
    | nil => rw [List.mem_singleton.mp member, commas]
    | cons second pieces =>
      rw [commas, List.length_append, List.length_cons]
      rcases List.mem_cons.mp member with rfl | later
      · omega
      · have := ih later
        omega

theorem count_le_commas (pieces : List (List Char)) :
    pieces.length ≤ (commas pieces).length + 1 := by
  induction pieces with
  | nil => exact Nat.zero_le _
  | cons first pieces ih =>
    cases pieces with
    | nil => simp
    | cons second pieces =>
      rw [commas, List.length_append, List.length_cons]
      have longer : (',' :: commas (second :: pieces)).length =
          (commas (second :: pieces)).length + 1 := List.length_cons
      omega

theorem textItems_eq_map (items : List Json) : Json.textItems items = items.map Json.text := by
  induction items with
  | nil => rfl
  | cons item items ih => rw [textItems_cons, ih, List.map_cons]

theorem textFields_eq_map (fields : List (String × Json)) :
    Json.textFields fields = fields.map fun entry => quoted entry.1 ++ ':' :: entry.2.text := by
  induction fields with
  | nil => rfl
  | cons entry fields ih => rw [textFields_cons, ih, List.map_cons]

theorem length_le_quoted (name : String) : name.toList.length + 2 ≤ (quoted name).length := by
  have escapes (chars : List Char) : chars.length ≤ (chars.flatMap escapeChar).length := by
    induction chars with
    | nil => exact Nat.zero_le _
    | cons char chars ih =>
      obtain ⟨first, tail, shape, -⟩ := escapeChar_eq_cons char
      rw [List.flatMap_cons, shape, List.length_append, List.length_cons, List.length_cons]
      omega
  have := escapes name.toList
  simp only [quoted, List.length_cons, List.length_append, List.length_nil]
  omega

theorem item_shorter {item : Json} (member : item ∈ items) :
    item.text.length < (Json.array items).text.length := by
  have part := length_le_commas (List.mem_map_of_mem (f := Json.text) member)
  rw [← textItems_eq_map] at part
  simp only [text_array, List.length_cons, List.length_append, List.length_nil]
  omega

theorem items_shorter (items : List Json) : items.length < (Json.array items).text.length := by
  have count := count_le_commas (Json.textItems items)
  rw [textItems_eq_map, List.length_map, ← textItems_eq_map] at count
  simp only [text_array, List.length_cons, List.length_append, List.length_nil]
  omega

theorem entry_shorter {entry : String × Json} (member : entry ∈ fields) :
    entry.1.toList.length < (Json.object fields).text.length ∧
      entry.2.text.length < (Json.object fields).text.length := by
  have part := length_le_commas (List.mem_map_of_mem
    (f := fun entry => quoted entry.1 ++ ':' :: entry.2.text) member)
  have long := length_le_quoted entry.1
  rw [← textFields_eq_map, List.length_append, List.length_cons] at part
  simp only [text_object, List.length_cons, List.length_append, List.length_nil]
  omega

theorem entries_shorter (fields : List (String × Json)) :
    fields.length < (Json.object fields).text.length := by
  have count := count_le_commas (Json.textFields fields)
  rw [textFields_eq_map, List.length_map, ← textFields_eq_map] at count
  simp only [text_object, List.length_cons, List.length_append, List.length_nil]
  omega

/-- An array is read from its text if its items are. -/
theorem scanValue_arrayText {fuel : ℕ} {item : Json}
    (reads : ∀ value ∈ item :: items, ∀ rest, Ends rest →
      scanValue fuel (value.text ++ rest) = some (value, rest))
    (enough : items.length < fuel) :
    scanValue (fuel + 1) ((Json.array (item :: items)).text ++ rest) =
      some (.array (item :: items), rest) := by
  have whole : (Json.array (item :: items)).text ++ rest =
      '[' :: (commas (Json.textItems (item :: items)) ++ ']' :: rest) := by
    simp only [text_array, List.cons_append, List.append_assoc, List.nil_append]
  obtain ⟨first, tail, shape, starts⟩ := text_opens item
  obtain ⟨more, front⟩ := commas_cons item.text (Json.textItems items)
  have opened : commas (Json.textItems (item :: items)) = first :: (tail ++ more) := by
    rw [textItems_cons, front, shape]
    rfl
  have other := (opens_not_blank starts).2.1
  rw [whole, scanValue_array (skipBlanks_textItems item items _)
    (by rw [opened]; simpa using other), scanItems_text reads enough]
  rfl

/-- A mapping is read from its text if its entries are. -/
theorem scanValue_objectText {fuel : ℕ} {entry : String × Json}
    (reads : ∀ field ∈ entry :: fields, field.1.toList.length < fuel ∧
      ∀ rest, Ends rest → scanValue fuel (field.2.text ++ rest) = some (field.2, rest))
    (nodup : ((entry :: fields).map Prod.fst).Nodup) (enough : fields.length < fuel) :
    scanValue (fuel + 1) ((Json.object (entry :: fields)).text ++ rest) =
      some (.object (entry :: fields), rest) := by
  obtain ⟨name, value⟩ := entry
  have whole : (Json.object ((name, value) :: fields)).text ++ rest =
      '{' :: (commas (Json.textFields ((name, value) :: fields)) ++ '}' :: rest) := by
    simp only [text_object, List.cons_append, List.append_assoc, List.nil_append]
  obtain ⟨more, front⟩ := commas_cons (quoted name ++ ':' :: value.text) (Json.textFields fields)
  have opened : ∃ tail, commas (Json.textFields ((name, value) :: fields)) = '"' :: tail := by
    rw [textFields_cons, front]
    exact ⟨_, rfl⟩
  obtain ⟨tail, opened⟩ := opened
  have read := @scanFields_text rest fields name value (scanValue fuel) fuel fuel [] reads nodup
    enough
  rw [whole, scanValue_object (skipBlanks_textFields (name, value) fields _)
    (by rw [opened]; simp), read]
  rfl

/-- A value is read from its text, whatever follows. -/
theorem scanValue_text (value : Json) {fuel : ℕ} (distinct : value.Distinct)
    (enough : value.text.length < fuel) (ends : Ends rest) :
    scanValue fuel (value.text ++ rest) = some (value, rest) := by
  obtain ⟨fuel, rfl⟩ := Nat.exists_eq_add_of_lt (Nat.zero_lt_of_lt enough)
  rw [Nat.zero_add] at enough ⊢
  induction value using Json.parts generalizing fuel rest with
  | null => rfl
  | boolean flag => cases flag <;> rfl
  | integer number =>
    have read := scanInteger_text number ends
    obtain ⟨first, tail, shape, starts⟩ := integerText_opens number
    rw [shape] at read
    rw [text_integer, shape, List.cons_append, scanValue_integer starts, ← List.cons_append, read]
    rfl
  | string text =>
    have length := length_le_quoted text
    rw [text_string] at enough
    have read := @scanChars_text rest text.toList fuel (by omega)
    simp only [text_string, quoted, List.cons_append, List.append_assoc, List.nil_append,
      scanValue_string, read, Option.map_some, String.ofList_toList]
  | array items parts =>
    cases items with
    | nil => rfl
    | cons item items =>
      have count := items_shorter (item :: items)
      rw [List.length_cons] at count
      refine scanValue_arrayText (fun value member rest ends => ?_) (by omega)
      have short := item_shorter member
      obtain ⟨fuel, rfl⟩ := Nat.exists_eq_add_of_lt (show 0 < fuel by omega)
      rw [Nat.zero_add]
      exact parts value member (distinctItems_iff.mp distinct value member) ends _ (by omega)
  | object fields parts =>
    cases fields with
    | nil => rfl
    | cons entry fields =>
      have count := entries_shorter (entry :: fields)
      rw [List.length_cons] at count
      refine scanValue_objectText (fun field member => ?_) distinct.1 (by omega)
      obtain ⟨long, short⟩ := entry_shorter member
      refine ⟨by omega, fun rest ends => ?_⟩
      obtain ⟨fuel, rfl⟩ := Nat.exists_eq_add_of_lt (show 0 < fuel by omega)
      rw [Nat.zero_add]
      exact parts field member (distinctFields_iff.mp distinct.2 field member) ends _ (by omega)

theorem ends_of_blank (blank : skipBlanks rest = []) : Ends rest := by
  intro char tail shape
  rw [shape] at blank
  by_contra other
  have visible : isBlank char = false := by
    by_contra found
    simp only [isBlank, Bool.or_eq_false_iff, decide_eq_false_iff_not, not_and_or, not_not] at found
    rcases found with ((rfl | rfl) | rfl) | rfl <;> exact other (by decide)
  rw [skipBlanks_cons visible] at blank
  cases blank

/-- A value is read from its text, with blanks behind it. -/
theorem loads_text (value : Json) (distinct : value.Distinct) (blank : skipBlanks rest = []) :
    loads (value.text ++ rest) = some value := by
  have enough : value.text.length < (value.text ++ rest).length + 1 := by
    rw [List.length_append]
    omega
  rw [loads, skipBlanks_text, scanValue_text value distinct enough (ends_of_blank blank)]
  simp only [Option.bind_eq_bind, Option.bind_some, blank, if_true]

end Values

section Ascii

variable {rest : List Char}

theorem hexDigit_ascii (value : ℕ) : (hexDigit (value % 16)).toNat < 128 := by
  have all : ∀ value < 16, (hexDigit value).toNat < 128 := by decide
  exact all _ (Nat.mod_lt _ (by omega))

theorem escapeUnit_ascii {unit : ℕ} : ∀ char ∈ escapeUnit unit, char.toNat < 128 := by
  intro char member
  simp only [escapeUnit, List.mem_cons, List.not_mem_nil, or_false] at member
  rcases member with rfl | rfl | rfl | rfl | rfl | rfl
  · decide
  · decide
  all_goals exact hexDigit_ascii _

theorem escapeChar_ascii {char : Char} : ∀ part ∈ escapeChar char, part.toNat < 128 := by
  intro part member
  unfold escapeChar at member
  cases short : shortEscape char with
  | some letter =>
    have all : ∀ entry ∈ shortEscapes, entry.1.toNat < 128 := by decide
    obtain ⟨entry, found, rfl⟩ := Option.map_eq_some_iff.mp short
    rw [short] at member
    simp only [List.mem_cons, List.not_mem_nil, or_false] at member
    rcases member with rfl | rfl
    · decide
    · exact all entry (List.mem_of_find?_eq_some found)
  | none =>
    rw [short] at member
    dsimp only at member
    split_ifs at member with printable small
    · rw [List.mem_singleton.mp member]
      omega
    · exact escapeUnit_ascii part member
    · rcases List.mem_append.mp member with high | low
      · exact escapeUnit_ascii part high
      · exact escapeUnit_ascii part low

theorem quoted_ascii {name : String} : ∀ char ∈ quoted name, char.toNat < 128 := by
  intro char member
  simp only [quoted, List.mem_cons, List.mem_append, List.mem_flatMap, List.not_mem_nil,
    or_false] at member
  rcases member with rfl | ⟨source, -, member⟩ | rfl
  · decide
  · exact escapeChar_ascii char member
  · decide

theorem toDigits_ascii {value : ℕ} : ∀ char ∈ Nat.toDigits 10 value, char.toNat < 128 := by
  intro char member
  have digit := digits_of_toDigits value char member
  rw [Char.isDigit, Bool.and_eq_true, decide_eq_true_eq, decide_eq_true_eq] at digit
  have below : char.val.toNat ≤ '9'.val.toNat := digit.2
  have small : '9'.val.toNat < 128 := by decide
  change char.val.toNat < 128
  omega

theorem commas_ascii {pieces : List (List Char)}
    (all : ∀ piece ∈ pieces, ∀ char ∈ piece, char.toNat < 128) :
    ∀ char ∈ commas pieces, char.toNat < 128 := by
  induction pieces with
  | nil => simp [commas]
  | cons first pieces ih =>
    have later := ih fun piece member => all piece (List.mem_cons_of_mem _ member)
    cases pieces with
    | nil => exact all first List.mem_cons_self
    | cons second pieces =>
      intro char member
      rw [commas, List.mem_append, List.mem_cons] at member
      rcases member with here | rfl | there
      · exact all first List.mem_cons_self char here
      · decide
      · exact later char there

/-- A text consists of ASCII characters. -/
theorem text_ascii (value : Json) : ∀ char ∈ value.text, char.toNat < 128 := by
  induction value using Json.parts with
  | null => simp [Json.text]
  | boolean flag => cases flag <;> simp [Json.text]
  | integer number =>
    cases number with
    | ofNat number => exact toDigits_ascii
    | negSucc number =>
      intro char member
      rcases List.mem_cons.mp member with rfl | member
      · decide
      · exact toDigits_ascii char member
  | string text => exact quoted_ascii
  | array items parts =>
    intro char member
    simp only [text_array, textItems_eq_map, List.mem_cons, List.mem_append, List.not_mem_nil,
      or_false] at member
    rcases member with rfl | inside | rfl
    · decide
    · refine commas_ascii ?_ char inside
      intro piece there
      obtain ⟨item, listed, rfl⟩ := List.mem_map.mp there
      exact parts item listed
    · decide
  | object fields parts =>
    intro char member
    simp only [text_object, textFields_eq_map, List.mem_cons, List.mem_append, List.not_mem_nil,
      or_false] at member
    rcases member with rfl | inside | rfl
    · decide
    · refine commas_ascii ?_ char inside
      intro piece there
      obtain ⟨entry, listed, rfl⟩ := List.mem_map.mp there
      intro char member
      rcases List.mem_append.mp member with name | member
      · exact quoted_ascii char name
      · rcases List.mem_cons.mp member with rfl | value
        · decide
        · exact parts entry listed char value
    · decide

end Ascii

section Order

variable {fields : List (String × Json)} {items : List Json}

theorem sortedItems_eq_map (items : List Json) :
    Json.sortedItems items = items.map Json.sorted := by
  induction items with
  | nil => rfl
  | cons item items ih => rw [Json.sortedItems, ih, List.map_cons]

theorem sortedFields_eq_map (fields : List (String × Json)) :
    Json.sortedFields fields = fields.map fun entry => (entry.1, entry.2.sorted) := by
  induction fields with
  | nil => rfl
  | cons entry fields ih => rw [Json.sortedFields, ih, List.map_cons]

theorem perm_sortFields (fields : List (String × Json)) : (sortFields fields).Perm fields :=
  List.perm_insertionSort _ _

theorem mem_sortFields {entry : String × Json} : entry ∈ sortFields fields ↔ entry ∈ fields :=
  (perm_sortFields fields).mem_iff

instance : Std.Total fun first second : String × Json => first.1 ≤ second.1 :=
  ⟨fun first second => le_total first.1 second.1⟩

instance : IsTrans (String × Json) fun first second => first.1 ≤ second.1 :=
  ⟨fun _ _ _ below above => le_trans below above⟩

theorem sortFields_sortFields (fields : List (String × Json)) :
    sortFields (sortFields fields) = sortFields fields :=
  (List.pairwise_insertionSort _ fields).insertionSort_eq

/-- Sorting adds no second entry to a name. -/
theorem Json.Distinct.sorted {value : Json} (distinct : value.Distinct) :
    value.sorted.Distinct := by
  induction value using Json.parts with
  | null | boolean | integer | string => trivial
  | array items parts =>
    rw [Json.sorted, Json.Distinct, distinctItems_iff, sortedItems_eq_map]
    intro item member
    obtain ⟨before, there, rfl⟩ := List.mem_map.mp member
    exact parts before there (distinctItems_iff.mp distinct before there)
  | object fields parts =>
    rw [Json.sorted, Json.Distinct, distinctFields_iff, sortedFields_eq_map]
    constructor
    · refine ((perm_sortFields _).map Prod.fst).nodup_iff.mpr ?_
      rw [List.map_map]
      exact distinct.1
    · intro entry member
      obtain ⟨before, there, rfl⟩ := List.mem_map.mp (mem_sortFields.mp member)
      exact parts before there (distinctFields_iff.mp distinct.2 before there)

/-- What is in order is not sorted again. -/
theorem sorted_sorted (value : Json) : value.sorted.sorted = value.sorted := by
  induction value using Json.parts with
  | null | boolean | integer | string => rfl
  | array items parts =>
    rw [Json.sorted, Json.sorted, sortedItems_eq_map, sortedItems_eq_map, List.map_map]
    congr 1
    exact List.map_congr_left parts
  | object fields parts =>
    have fixed : Json.sortedFields (sortFields (Json.sortedFields fields)) =
        sortFields (Json.sortedFields fields) := by
      rw [sortedFields_eq_map (sortFields _)]
      conv_rhs => rw [← List.map_id (sortFields _)]
      refine List.map_congr_left fun entry member => ?_
      rw [mem_sortFields, sortedFields_eq_map] at member
      obtain ⟨before, there, rfl⟩ := List.mem_map.mp member
      rw [parts before there]
      rfl
    rw [Json.sorted, Json.sorted, fixed, sortFields_sortFields]

end Order

end GemSim.Lib
