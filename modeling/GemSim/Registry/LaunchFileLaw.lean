import GemSim.Lib.Checks
import GemSim.Lib.JsonLaw
import GemSim.Registry.LaunchFile

/-!
# A launch descriptor comes back from its file

The checks of a descriptor do not depend on the order of its entries, so a descriptor that was
accepted when it was written is accepted when it is read, and stands for the same ranks and paths.
A file that is accepted holds the bytes that are written for what has been read of it.

## Main definitions

* `LaunchFileLaw` — what is written is read again, and nothing else is read

## Main results

* `validate_sorted` — the checks do not depend on the order of the entries
* `decodeJson_canonicalJson` — a mapping comes back from its bytes
* `launchFileLaw` — the law holds
-/

namespace GemSim.Registry

open GemSim.Lib GemSim.Lib.Checks

section Laws

/-- What is written of a descriptor is read again, with its entries in order, unless it is too
long. It names the same rank, group and paths. What is read of a file would be written as the
bytes of the file. -/
structure LaunchFileLaw (path : String) : Prop where
  reads : ∀ value data, value.Distinct → write_rank_launch value = .ok data →
    (load_rank_launch path data = .ok value.sorted ↔ data.length ≤ MAX_DOCUMENT_BYTES) ∧
      validate_rank_launch (documentOf value.sorted) = validate_rank_launch (documentOf value)
  canonical : ∀ value data, load_rank_launch path data = .ok value →
    write_rank_launch value = .ok data ∧ data.length ≤ MAX_DOCUMENT_BYTES

end Laws

section Bytes

variable {text : List Char} {value : Json} {context : String}

theorem decodeAscii_encodeAscii (ascii : ∀ char ∈ text, char.toNat < 128) :
    decodeAscii (encodeAscii text) = some text := by
  have back (char : Char) (member : char ∈ text) :
      (UInt8.ofNat char.toNat).toNat = char.toNat := by
    rw [UInt8.toNat_ofNat']
    exact Nat.mod_eq_of_lt (by have := ascii char member; omega)
  rw [decodeAscii, encodeAscii, if_pos, List.map_map]
  · congr 1
    conv_rhs => rw [← List.map_id text]
    refine List.map_congr_left fun char member => ?_
    rw [Function.comp_apply, back char member, Char.ofNat_toNat]
    rfl
  · rw [List.all_map, List.all_eq_true]
    intro char member
    rw [Function.comp_apply, decide_eq_true_eq, UInt8.lt_iff_toNat_lt, back char member]
    exact ascii char member

theorem dumps_ascii (value : Json) : ∀ char ∈ dumps value ++ ['\n'], char.toNat < 128 := by
  intro char member
  rcases List.mem_append.mp member with inside | last
  · exact text_ascii _ char inside
  · rw [List.mem_singleton.mp last]
    decide

theorem decode_canonicalJson (distinct : value.Distinct) :
    (decodeAscii (canonicalJson value)).bind loads = some value.sorted := by
  rw [canonicalJson, decodeAscii_encodeAscii (dumps_ascii value), Option.bind_some]
  exact loads_text value.sorted distinct.sorted (by decide)

/-- A mapping comes back from its bytes. -/
theorem decodeJson_canonicalJson {fields : List (String × Json)}
    (distinct : (Json.object fields).Distinct) :
    decodeJson (canonicalJson (.object fields)) context = .ok (Json.object fields).sorted := by
  rw [decodeJson, decode_canonicalJson distinct]
  rfl

end Bytes

section Entries

variable {Value : Type} {fields others : List (String × Value)} {name : String}

theorem lookup_perm (perm : fields.Perm others) (nodup : (fields.map Prod.fst).Nodup) :
    fields.lookup name = others.lookup name := by
  have nodupOthers := (perm.map Prod.fst).nodup_iff.mp nodup
  cases found : fields.lookup name with
  | some value => exact (lookup_of_mem nodupOthers (perm.mem_iff.mp (mem_of_lookup found))).symm
  | none =>
    cases other : others.lookup name with
    | none => rfl
    | some value =>
      rw [lookup_of_mem nodup (perm.mem_iff.mpr (mem_of_lookup other))] at found
      cases found

theorem lookup_map {Image : Type} (image : Value → Image) (fields : List (String × Value)) :
    (fields.map fun entry => (entry.1, image entry.2)).lookup name =
      (fields.lookup name).map image := by
  induction fields with
  | nil => rfl
  | cons entry fields ih =>
    rw [List.map_cons, List.lookup_cons, List.lookup_cons]
    cases name == entry.1 with
    | true => rfl
    | false => exact ih

theorem names_map {Image : Type} (image : Value → Image) (fields : List (String × Value)) :
    (fields.map fun entry => (entry.1, image entry.2)).map Prod.fst = fields.map Prod.fst := by
  rw [List.map_map]
  rfl

theorem sortedNames_perm {names texts : List String} (perm : names.Perm texts) :
    sortedNames names = sortedNames texts := by
  have total : Std.Total fun first second : String => first ≤ second := ⟨le_total⟩
  refine List.Perm.eq_of_pairwise (fun first second _ _ below above => le_antisymm below above)
    (List.pairwise_insertionSort _ _) (List.pairwise_insertionSort _ _) ?_
  exact (List.perm_insertionSort _ _).trans (perm.trans (List.perm_insertionSort _ _).symm)

/-- Whether the names are the wanted ones does not depend on their order. -/
theorem exactKeys_perm {actual other : List String} (perm : actual.Perm other)
    (wanted : List String) (context : String) :
    exactKeys actual wanted context = exactKeys other wanted context := by
  have missing : (wanted.filter fun name => name ∉ actual) =
      wanted.filter fun name => name ∉ other := by
    refine List.filter_congr fun name _ => ?_
    rw [decide_eq_decide, perm.mem_iff]
  have extra := sortedNames_perm (perm.filter fun name => name ∉ wanted)
  rw [exactKeys, exactKeys, missing, extra]

end Entries

section Checks

variable {fields : List (String × Json)} {name : String}

theorem scalarOfJson_sorted (value : Json) : scalarOfJson value.sorted = scalarOfJson value := by
  cases value <;> rfl

/-- An entry is found under its name after sorting, with its own entries in order. -/
theorem lookup_sorted (nodup : (fields.map Prod.fst).Nodup) :
    (sortFields (Json.sortedFields fields)).lookup name = (fields.lookup name).map Json.sorted := by
  rw [← lookup_map, ← sortedFields_eq_map]
  refine lookup_perm (perm_sortFields _) ?_
  refine ((perm_sortFields _).map Prod.fst).nodup_iff.mpr ?_
  rw [sortedFields_eq_map, List.map_map]
  exact nodup

theorem names_sorted (fields : List (String × Json)) :
    ((sortFields (Json.sortedFields fields)).map Prod.fst).Perm (fields.map Prod.fst) := by
  refine ((perm_sortFields _).map Prod.fst).trans ?_
  rw [sortedFields_eq_map, List.map_map]
  rfl

/-- The checks do not depend on the order of the entries. -/
theorem validate_sorted {value : Json} (distinct : value.Distinct) :
    validate_rank_launch (documentOf value.sorted) = validate_rank_launch (documentOf value) := by
  cases value with
  | null | boolean | integer | string | array => rfl
  | object fields =>
    have names := exactKeys_perm (names_sorted fields)
    have scalars (name : String) :
        scalarOf ((sortFields (Json.sortedFields fields)).map fun entry =>
          (entry.1, fieldOfJson entry.2)) name =
        scalarOf (fields.map fun entry => (entry.1, fieldOfJson entry.2)) name := by
      rw [scalarOf, scalarOf, lookup_map, lookup_map, lookup_sorted distinct.1]
      cases fields.lookup name with
      | none => rfl
      | some value => cases value <;> rfl
    have outer := @lookup_sorted fields "paths" distinct.1
    simp only [Json.sorted, documentOf, validate_rank_launch, pure_bind, scalars, names_map, names,
      lookup_map, outer]
    cases found : fields.lookup "paths" with
    | none => rfl
    | some value =>
      cases value with
      | null | boolean | integer | string | array => rfl
      | object paths =>
        have distinctPaths := distinctFields_iff.mp distinct.2 _ (mem_of_lookup found)
        have namesPaths := exactKeys_perm (names_sorted paths)
        have inner (name : String) := @lookup_sorted paths name distinctPaths.1
        have same (found : Option Json) : (found.map Json.sorted).map scalarOfJson =
            found.map scalarOfJson := by
          cases found with
          | none => rfl
          | some value => exact congrArg some (scalarOfJson_sorted value)
        simp only [Option.map_some, Json.sorted, fieldOfJson, names_map, namesPaths, lookup_map,
          inner, same]

end Checks

section Files

variable {path : String} {value : Json} {data bytes : List UInt8}

theorem readRegular_eq_ok : readRegular bytes path = .ok data ↔
    bytes.length ≤ MAX_DOCUMENT_BYTES ∧ bytes = data := by
  unfold readRegular
  split_ifs with long
  · constructor
    · intro failed
      cases failed
    · intro short
      omega
  · rw [Except.ok.injEq]
    exact (and_iff_right (by omega)).symm

theorem write_eq_ok : write_rank_launch value = .ok data ↔
    (∃ launch, validate_rank_launch (documentOf value) = .ok launch) ∧
      canonicalJson value = data := by
  simp only [write_rank_launch, bind_eq_ok, exists_unit, discard_eq_ok, pure_eq_ok]

theorem load_eq_ok : load_rank_launch path bytes = .ok value ↔
    bytes.length ≤ MAX_DOCUMENT_BYTES ∧ decodeJson bytes path = .ok value ∧
      (∃ launch, validate_rank_launch (documentOf value) = .ok launch) ∧
      canonicalJson value = bytes := by
  simp only [load_rank_launch, bind_eq_ok, exists_unit, discard_eq_ok, throw_bind,
    ite_throw_eq_ok, pure_eq_ok, readRegular_eq_ok, not_not]
  constructor
  · rintro ⟨_, ⟨short, rfl⟩, _, decoded, accepted, same, rfl⟩
    exact ⟨short, decoded, accepted, same.symm⟩
  · rintro ⟨short, decoded, accepted, same⟩
    exact ⟨bytes, ⟨short, rfl⟩, value, decoded, accepted, same.symm, rfl⟩

theorem canonicalJson_sorted (value : Json) : canonicalJson value.sorted = canonicalJson value := by
  rw [canonicalJson, canonicalJson, dumps, dumps, sorted_sorted]

/-- Launch descriptors come back from their files. -/
theorem launchFileLaw (path : String) : LaunchFileLaw path where
  reads value data distinct written := by
    obtain ⟨⟨launch, accepted⟩, rfl⟩ := write_eq_ok.mp written
    have same := validate_sorted distinct
    refine ⟨?_, same⟩
    cases value with
    | null | boolean | integer | string | array => cases accepted
    | object fields =>
      -- what is read back is the document with its entries in order, which is written the same way
      rw [load_eq_ok, decodeJson_canonicalJson distinct, canonicalJson_sorted, same]
      exact ⟨fun loaded => loaded.1, fun short => ⟨short, rfl, ⟨launch, accepted⟩, rfl⟩⟩
  canonical value data loaded := by
    obtain ⟨short, -, accepted, same⟩ := load_eq_ok.mp loaded
    exact ⟨write_eq_ok.mpr ⟨accepted, same⟩, short⟩

end Files

end GemSim.Registry
