import GemSim.Lib.Records
import GemSim.Lib.Tiling
import GemSim.Lib.Words

/-!
# Notes of an image

A note section is a sequence of notes, each with its sizes and its type in front, and with a name
and a description that are padded to a multiple of four bytes. The sizes come from the image and
may say anything. Over all note sections of an image there is to be one note with the metadata of
its kernels.

## Main definitions

* `findMetadataNote` — the search of one section
* `noteSections` — the search of one section after the other
* `Note` — a note, by its parts

## Main results

* `findMetadataNote_searched` — a search ends inside its section, and a section is tiled by notes
* `noteLaw` — the description that is found is that of the only metadata note
-/

namespace GemSim.CodeObject

open GemSim.Lib

section Definitions

def AmdgpuMetadataNoteType : UInt32 := 32

/-- The name of a metadata note, with the zero at its end. -/
def AmdgpuNoteName : List UInt8 := [0x41, 0x4d, 0x44, 0x47, 0x50, 0x55, 0x00]

/-- The byte at a place of some data. -/
def dataAt (data : List UInt8) (index : ℕ) : UInt32 := (data.getD index 0).toUInt32

def loadLittle32 (data : List UInt8) : UInt32 :=
  dataAt data 0 ||| dataAt data 1 <<< 8 ||| dataAt data 2 <<< 16 ||| dataAt data 3 <<< 24

def rangeWithinImage (offset size : UInt64) (image : List UInt8) : Bool :=
  offset.toNat ≤ image.length && size.toNat ≤ image.length - offset.toNat

/-- What a search has found: where a description starts, its size, and whether there is one. -/
structure NoteSearch where
  cursor : ℕ := 0
  metadata : ℕ := 0
  metadataSize : UInt32 := 0
  found : Bool := false

/-- An access to a part of the image. There is none outside of the section. -/
def within (image : List UInt8) (first last cursor count : ℕ) : Option (List UInt8) :=
  if first ≤ cursor ∧ cursor + count ≤ last then some (bytesAt image cursor count) else none

def padded4 (size : UInt32) : UInt64 := (size.toUInt64 + 3) &&& ~~~3

/-- One note of the section. The three words at its start are read together. -/
def notePass (image : List UInt8) (first last : ℕ) (search : NoteSearch) :
    Pass NoteSearch (Except Unit NoteSearch) :=
  let cursor := search.cursor
  if cursor < last then
    if last - cursor < 12 then .finish (.error ())
    else
      match within image first last cursor 12 with
      | none => .overrun
      | some header =>
        let nameSize := loadLittle32 header
        let descriptionSize := loadLittle32 (header.drop 4)
        let type := loadLittle32 (header.drop 8)
        let cursor := cursor + 12
        if padded4 nameSize > u64Max ∨ padded4 descriptionSize > u64Max then .finish (.error ())
        else
          let paddedName := (padded4 nameSize).toNat
          let paddedDescription := (padded4 descriptionSize).toNat
          if paddedName > last - cursor then .finish (.error ())
          else
            let name := cursor
            let cursor := cursor + paddedName
            if paddedDescription > last - cursor then .finish (.error ())
            else if type = AmdgpuMetadataNoteType ∧ nameSize = 7 then
              match within image first last name 7 with
              | none => .overrun
              | some bytes =>
                if bytes = AmdgpuNoteName then
                  if search.found then .finish (.error ())
                  else
                    .next { cursor := cursor + paddedDescription, metadata := cursor
                            metadataSize := descriptionSize, found := true }
                else .next { search with cursor := cursor + paddedDescription }
            else .next { search with cursor := cursor + paddedDescription }
  else if cursor = last then .finish (.ok search)
  else .finish (.error ())

def findMetadataNote (image : List UInt8) (offset size : UInt64) (search : NoteSearch)
    (passes : ℕ) : Ending (Except Unit NoteSearch) :=
  if !rangeWithinImage offset size image then .finished (.error ())
  else
    loop (notePass image offset.toNat (offset.toNat + size.toNat)) passes
      { search with cursor := offset.toNat }

/-- The search of the note sections, in their order, each with some passes to spare. -/
def noteSections (image : List UInt8) (extra : ℕ) :
    List (UInt64 × UInt64) → NoteSearch → Ending (Except Unit NoteSearch)
  | [], search => .finished (.ok search)
  | (offset, size) :: rest, search =>
    match findMetadataNote image offset size search (size.toNat + 1 + extra) with
    | .finished (.ok after) => noteSections image extra rest after
    | ending => ending

end Definitions

section Notes

/-- A note, by its parts. -/
structure Note where
  type : UInt32
  name : List UInt8
  namePadding : List UInt8
  description : List UInt8
  descriptionPadding : List UInt8
  name_lt : name.length < 2 ^ 32
  description_lt : description.length < 2 ^ 32
  namePadded : namePadding.length < 4 ∧ 4 ∣ name.length + namePadding.length
  descriptionPadded :
    descriptionPadding.length < 4 ∧ 4 ∣ description.length + descriptionPadding.length

namespace Note

/-- The words in front of a note. -/
def header (note : Note) : List UInt8 :=
  littleEndian 4 note.name.length ++ littleEndian 4 note.description.length ++
    littleEndian 4 note.type.toNat

def bytes (note : Note) : List UInt8 :=
  note.header ++ (note.name ++ note.namePadding) ++ (note.description ++ note.descriptionPadding)

/-- The note that the search is after. -/
def isMetadata (note : Note) : Bool :=
  note.type = AmdgpuMetadataNoteType && note.name = AmdgpuNoteName

variable {note : Note}

theorem length_header (note : Note) : note.header.length = 12 := by
  simp [header]

theorem length_name_append (note : Note) :
    (note.name ++ note.namePadding).length = (note.name.length + 3) / 4 * 4 := by
  have padded := note.namePadded
  rw [List.length_append]
  omega

theorem length_description_append (note : Note) :
    (note.description ++ note.descriptionPadding).length =
      (note.description.length + 3) / 4 * 4 := by
  have padded := note.descriptionPadded
  rw [List.length_append]
  omega

end Note

end Notes

section Words

variable {data : List UInt8}

/-- The word is the number of its four bytes. -/
theorem toNat_loadLittle32 (enough : 4 ≤ data.length) :
    (loadLittle32 data).toNat = ofLittleEndian (data.take 4) := by
  have words : (loadLittle32 data).toNat = (data.getD 0 0).toNat ||| (data.getD 1 0).toNat <<< 8 |||
      (data.getD 2 0).toNat <<< 16 ||| (data.getD 3 0).toNat <<< 24 := by
    simp only [loadLittle32, UInt32.toNat_or]
    rw [dataAt, dataAt, dataAt, dataAt, toNat_toUInt32_shiftLeft _ (by decide),
      toNat_toUInt32_shiftLeft _ (by decide), toNat_toUInt32_shiftLeft _ (by decide)]
    rfl
  rw [words]
  clear words
  rcases data with _ | ⟨a, _ | ⟨b, _ | ⟨c, _ | ⟨d, rest⟩⟩⟩⟩
  case cons.cons.cons.cons =>
    have first := a.toNat_lt
    have second := b.toNat_lt
    have third := c.toNat_lt
    change a.toNat ||| b.toNat <<< 8 ||| c.toNat <<< 16 ||| d.toNat <<< 24 =
      256 * (256 * (256 * (256 * 0 + d.toNat) + c.toNat) + b.toNat) + a.toNat
    have low : a.toNat ||| b.toNat <<< 8 = b.toNat * 2 ^ 8 + a.toNat := or_shiftLeft_eq_add first
    have middle : (b.toNat * 2 ^ 8 + a.toNat) ||| c.toNat <<< 16 =
        c.toNat * 2 ^ 16 + (b.toNat * 2 ^ 8 + a.toNat) := or_shiftLeft_eq_add (by omega)
    rw [low, middle, or_shiftLeft_eq_add (by omega)]
    omega
  all_goals exact absurd enough (by simp)

theorem toNat_padded4 (size : UInt32) : (padded4 size).toNat = (size.toNat + 3) / 4 * 4 := by
  have below := size.toNat_lt
  have sum : (size.toUInt64 + 3).toNat = size.toNat + 3 := by
    rw [toNat_add_exact, UInt32.toNat_toUInt64]
    · rfl
    · rw [UInt32.toNat_toUInt64]
      change size.toNat + 3 < 2 ^ 64
      omega
  have shape : (3 : UInt64).toNat = 2 ^ 2 - 1 := rfl
  rw [padded4, toNat_and_not_mask _ 3 shape, sum]
  omega

end Words

section Walk

variable {image header tail before part rest : List UInt8} {first last : ℕ} {search : NoteSearch}
  {note : Note}

/-- What is left of a section. -/
def left (image : List UInt8) (last : ℕ) (search : NoteSearch) : List UInt8 :=
  (image.take last).drop search.cursor

/-- The search is inside its section, and the section inside the image. -/
structure Inside (image : List UInt8) (first last : ℕ) (search : NoteSearch) : Prop where
  lower : first ≤ search.cursor
  upper : search.cursor ≤ last
  image : last ≤ image.length

theorem Inside.length_left (inside : Inside image first last search) :
    (left image last search).length = last - search.cursor := by
  have upper := inside.image
  rw [left, List.length_drop, List.length_take, Nat.min_eq_left upper]

/-- A part of what is left is read where it stands. -/
theorem Inside.bytesAt_eq (inside : Inside image first last search)
    (split : left image last search = before ++ part ++ rest) :
    search.cursor + before.length + part.length ≤ last ∧
      bytesAt image (search.cursor + before.length) part.length = part := by
  have size := inside.length_left
  have upper := inside.upper
  rw [split, List.length_append, List.length_append] at size
  have fits : search.cursor + before.length + part.length ≤ last := by omega
  refine ⟨fits, ?_⟩
  have there : part = (((image.take last).drop search.cursor).drop before.length).take part.length := by
    rw [left] at split
    rw [split, List.append_assoc, List.drop_left, List.take_left]
  rw [bytesAt]
  conv_rhs => rw [there]
  rw [List.drop_drop, List.drop_take, List.take_take, Nat.min_eq_left (by omega)]

theorem Inside.within_eq (inside : Inside image first last search)
    (split : left image last search = before ++ part ++ rest) :
    within image first last (search.cursor + before.length) part.length = some part := by
  obtain ⟨fits, read⟩ := inside.bytesAt_eq split
  have lower := inside.lower
  rw [within, if_pos ⟨by omega, fits⟩, read]

/-- One pass at the words in front of a note. -/
theorem notePass_eq (inside : Inside image first last search)
    (split : left image last search = header ++ tail) (size : header.length = 12) {n d : ℕ}
    (name : (loadLittle32 header).toNat = n)
    (description : (loadLittle32 (header.drop 4)).toNat = d) :
    notePass image first last search =
      if tail.length < (n + 3) / 4 * 4 + (d + 3) / 4 * 4 then .finish (.error ())
      else if loadLittle32 (header.drop 8) = AmdgpuMetadataNoteType ∧ n = 7 ∧
          tail.take 7 = AmdgpuNoteName then
        if search.found then .finish (.error ())
        else .next
          { cursor := search.cursor + 12 + (n + 3) / 4 * 4 + (d + 3) / 4 * 4
            metadata := search.cursor + 12 + (n + 3) / 4 * 4
            metadataSize := loadLittle32 (header.drop 4)
            found := true }
      else .next
        { search with cursor := search.cursor + 12 + (n + 3) / 4 * 4 + (d + 3) / 4 * 4 } := by
  have length := inside.length_left
  have upper := inside.upper
  rw [split, List.length_append, size] at length
  have read : within image first last search.cursor 12 = some header := by
    have start : left image last search = [] ++ header ++ tail := split
    have found := inside.within_eq start
    rwa [List.length_nil, Nat.add_zero, size] at found
  have seven : loadLittle32 header = 7 ↔ n = 7 := by
    rw [← UInt32.toNat_inj, name]
    rfl
  have whole : ∀ size, ¬ padded4 size > u64Max := by
    intro size
    have below := (padded4 size).toNat_lt
    rw [gt_iff_lt, UInt64.lt_iff_toNat_lt, toNat_u64Max]
    omega
  rw [notePass]
  dsimp only
  rw [if_pos (by omega), if_neg (by omega), read]
  dsimp only
  rw [if_neg (not_or.mpr ⟨whole _, whole _⟩), toNat_padded4, toNat_padded4, name, description]
  by_cases fits : tail.length < (n + 3) / 4 * 4 + (d + 3) / 4 * 4
  · -- one of the two does not fit
    rw [if_pos fits]
    by_cases named : (n + 3) / 4 * 4 > last - (search.cursor + 12)
    · rw [if_pos named]
    · rw [if_neg named, if_pos (by omega)]
  · rw [if_neg fits, if_neg (by omega), if_neg (by omega)]
    by_cases named : loadLittle32 (header.drop 8) = AmdgpuMetadataNoteType ∧ loadLittle32 header = 7
    · have sized := seven.mp named.2
      have enough : 8 ≤ tail.length := by omega
      have seventh : (tail.take 7).length = 7 := by
        rw [List.length_take]
        omega
      have start : left image last search = header ++ tail.take 7 ++ tail.drop 7 := by
        rw [split, List.append_assoc, List.take_append_drop]
      have found := inside.within_eq start
      rw [size, seventh] at found
      rw [if_pos named, found]
      dsimp only
      by_cases same : tail.take 7 = AmdgpuNoteName
      · have both : loadLittle32 (header.drop 8) = AmdgpuMetadataNoteType ∧ n = 7 ∧
            tail.take 7 = AmdgpuNoteName := ⟨named.1, sized, same⟩
        rw [if_pos same, if_pos both]
      · rw [if_neg same, if_neg fun all => same all.2.2]
    · rw [if_neg named, if_neg fun all => named ⟨all.1, seven.mpr all.2.1⟩]

/-- What is made of a note. -/
def absorb (search : NoteSearch) (note : Note) : Except Unit NoteSearch :=
  let next := search.cursor + note.bytes.length
  if note.isMetadata then
    if search.found then .error ()
    else
      .ok
        { cursor := next
          metadata := search.cursor + 12 + (note.name ++ note.namePadding).length
          metadataSize := UInt32.ofNat note.description.length
          found := true }
  else .ok { search with cursor := next }

theorem Note.loads (note : Note) :
    (loadLittle32 note.header).toNat = note.name.length ∧
      (loadLittle32 (note.header.drop 4)).toNat = note.description.length ∧
      loadLittle32 (note.header.drop 8) = note.type := by
  have name := note.name_lt
  have description := note.description_lt
  have type := note.type.toNat_lt
  have four : ∀ value, (littleEndian 4 value).length = 4 := fun _ => length_littleEndian 4 _
  have words : note.header = littleEndian 4 note.name.length ++
      (littleEndian 4 note.description.length ++ littleEndian 4 note.type.toNat) :=
    List.append_assoc _ _ _
  have second : note.header.drop 4 =
      littleEndian 4 note.description.length ++ littleEndian 4 note.type.toNat := by
    rw [words, List.drop_left' (four _)]
  have third : note.header.drop 8 = littleEndian 4 note.type.toNat := by
    rw [← List.drop_drop (i := 4) (j := 4), second, List.drop_left' (four _)]
  refine ⟨?_, ?_, ?_⟩
  · rw [toNat_loadLittle32 (by rw [Note.length_header]; decide), words, List.take_left' (four _),
      ofLittleEndian_littleEndian]
    exact Nat.mod_eq_of_lt name
  · rw [second, toNat_loadLittle32 (by simp), List.take_left' (four _), ofLittleEndian_littleEndian]
    exact Nat.mod_eq_of_lt description
  · rw [← UInt32.toNat_inj, third, toNat_loadLittle32 (by simp), List.take_of_length_le (by simp),
      ofLittleEndian_littleEndian]
    exact Nat.mod_eq_of_lt type

/-- A note is its words, its name and its description. -/
theorem Note.bytes_append (note : Note) (rest : List UInt8) :
    note.bytes ++ rest = note.header ++ ((note.name ++ note.namePadding) ++
      ((note.description ++ note.descriptionPadding) ++ rest)) := by
  rw [Note.bytes, List.append_assoc, List.append_assoc]

theorem Note.length_bytes (note : Note) :
    note.bytes.length =
      12 + (note.name.length + 3) / 4 * 4 + (note.description.length + 3) / 4 * 4 := by
  rw [Note.bytes, List.length_append, List.length_append, Note.length_header,
    Note.length_name_append, Note.length_description_append]

/-- The parts of a note are its own. -/
theorem Note.ext_of_parts {note other : Note} (type : note.type = other.type)
    (name : note.name = other.name) (namePadding : note.namePadding = other.namePadding)
    (description : note.description = other.description)
    (descriptionPadding : note.descriptionPadding = other.descriptionPadding) : note = other := by
  cases note
  cases other
  dsimp only at type name namePadding description descriptionPadding
  subst type name namePadding description descriptionPadding
  rfl

/-- A note says itself where it ends. -/
theorem delimited_bytes : Delimited Note.bytes := by
  refine ⟨?_, ?_⟩
  · intro note empty
    have size := note.length_bytes
    rw [empty, List.length_nil] at size
    omega
  · intro note other rest others same
    rw [note.bytes_append, other.bytes_append] at same
    obtain ⟨header, same⟩ :=
      List.append_inj same (by rw [Note.length_header, Note.length_header])
    obtain ⟨name, description, type⟩ := note.loads
    obtain ⟨nameAlso, descriptionAlso, typeAlso⟩ := other.loads
    rw [← header] at nameAlso descriptionAlso typeAlso
    have names := name.symm.trans nameAlso
    have descriptions := description.symm.trans descriptionAlso
    obtain ⟨first, same⟩ := List.append_inj same
      (by rw [Note.length_name_append, Note.length_name_append, names])
    obtain ⟨second, -⟩ := List.append_inj same
      (by rw [Note.length_description_append, Note.length_description_append, descriptions])
    obtain ⟨sameName, samePadding⟩ := List.append_inj first names
    obtain ⟨sameDescription, sameRest⟩ := List.append_inj second descriptions
    exact Note.ext_of_parts (type.symm.trans typeAlso) sameName samePadding sameDescription sameRest

/-- The words of a note determine what a pass makes of it. -/
theorem notePass_note (inside : Inside image first last search)
    (split : left image last search = note.bytes ++ rest) :
    notePass image first last search =
      if note.isMetadata then
        if search.found then .finish (.error ())
        else .next
          { cursor := search.cursor + note.bytes.length
            metadata := search.cursor + 12 + (note.name ++ note.namePadding).length
            metadataSize := UInt32.ofNat note.description.length
            found := true }
      else .next { search with cursor := search.cursor + note.bytes.length } := by
  obtain ⟨name, description, type⟩ := note.loads
  have whole := split
  rw [note.bytes_append] at whole
  have nameSize := note.length_name_append
  have descriptionSize := note.length_description_append
  have size : UInt32.ofNat note.description.length = loadLittle32 (note.header.drop 4) := by
    rw [← UInt32.toNat_inj, description, UInt32.toNat_ofNat']
    exact Nat.mod_eq_of_lt note.description_lt
  have marked : (loadLittle32 (note.header.drop 8) = AmdgpuMetadataNoteType ∧ note.name.length = 7 ∧
      ((note.name ++ note.namePadding) ++
        ((note.description ++ note.descriptionPadding) ++ rest)).take 7 = AmdgpuNoteName) ↔
      note.isMetadata = true := by
    rw [type, Note.isMetadata, Bool.and_eq_true, decide_eq_true_eq, decide_eq_true_eq]
    constructor
    · rintro ⟨kind, seven, bytes⟩
      rw [List.append_assoc, List.take_left' seven] at bytes
      exact ⟨kind, bytes⟩
    · rintro ⟨kind, bytes⟩
      have seven : note.name.length = 7 := by rw [bytes]; rfl
      refine ⟨kind, seven, ?_⟩
      rw [List.append_assoc, List.take_left' seven, bytes]
  have next : search.cursor + 12 + (note.name.length + 3) / 4 * 4 +
      (note.description.length + 3) / 4 * 4 = search.cursor + note.bytes.length := by
    rw [note.length_bytes]
    omega
  rw [notePass_eq inside whole note.length_header name description, if_neg]
  · rw [next, size, nameSize]
    by_cases metadata : note.isMetadata = true
    · rw [if_pos (marked.mpr metadata), if_pos metadata]
    · rw [if_neg (mt marked.mp metadata), if_neg metadata]
  · simp only [List.length_append] at nameSize descriptionSize ⊢
    omega

/-- Four bytes are those of the word that is loaded from them. -/
theorem littleEndian_loadLittle32 {data : List UInt8} (size : data.length = 4) :
    littleEndian 4 (loadLittle32 data).toNat = data := by
  rw [toNat_loadLittle32 size.ge, ← size, List.take_length, littleEndian_ofLittleEndian]

theorem loadLittle32_take {data : List UInt8} (size : 4 ≤ data.length) :
    loadLittle32 (data.take 4) = loadLittle32 data := by
  rw [← UInt32.toNat_inj, toNat_loadLittle32 size, toNat_loadLittle32 (by simp [size]),
    List.take_take, Nat.min_self]

/-- Twelve bytes are those of the three words that are loaded from them. -/
theorem header_eq_words (size : header.length = 12) :
    littleEndian 4 (loadLittle32 header).toNat ++
      littleEndian 4 (loadLittle32 (header.drop 4)).toNat ++
      littleEndian 4 (loadLittle32 (header.drop 8)).toNat = header := by
  have first : 4 ≤ header.length := by omega
  have second : 4 ≤ (header.drop 4).length := by
    rw [List.length_drop]
    omega
  have third : (header.drop 8).length = 4 := by
    rw [List.length_drop]
    omega
  rw [← loadLittle32_take first, ← loadLittle32_take second,
    littleEndian_loadLittle32 (by rw [List.length_take]; omega),
    littleEndian_loadLittle32 (by rw [List.length_take]; omega), littleEndian_loadLittle32 third,
    List.append_assoc, ← List.drop_drop (i := 4) (j := 4), List.take_append_drop,
    List.take_append_drop]

/-- Words whose name and description fit are those of a note. -/
theorem exists_note (size : header.length = 12)
    (fits : ((loadLittle32 header).toNat + 3) / 4 * 4 +
      ((loadLittle32 (header.drop 4)).toNat + 3) / 4 * 4 ≤ tail.length) :
    ∃ note : Note, ∃ rest, header ++ tail = note.bytes ++ rest := by
  have nameBelow := (loadLittle32 header).toNat_lt
  have descriptionBelow := (loadLittle32 (header.drop 4)).toNat_lt
  have words := header_eq_words size
  generalize (loadLittle32 header).toNat = n at fits nameBelow words
  generalize (loadLittle32 (header.drop 4)).toNat = d at fits descriptionBelow words
  have name : (tail.take n).length = n := by
    rw [List.length_take]
    omega
  have namePadding : ((tail.drop n).take ((n + 3) / 4 * 4 - n)).length = (n + 3) / 4 * 4 - n := by
    rw [List.length_take, List.length_drop]
    omega
  have description : ((tail.drop ((n + 3) / 4 * 4)).take d).length = d := by
    rw [List.length_take, List.length_drop]
    omega
  have descriptionPadding :
      ((tail.drop ((n + 3) / 4 * 4 + d)).take ((d + 3) / 4 * 4 - d)).length =
        (d + 3) / 4 * 4 - d := by
    rw [List.length_take, List.length_drop]
    omega
  refine ⟨
    { type := loadLittle32 (header.drop 8)
      name := tail.take n
      namePadding := (tail.drop n).take ((n + 3) / 4 * 4 - n)
      description := (tail.drop ((n + 3) / 4 * 4)).take d
      descriptionPadding := (tail.drop ((n + 3) / 4 * 4 + d)).take ((d + 3) / 4 * 4 - d)
      name_lt := name.trans_lt nameBelow
      description_lt := description.trans_lt descriptionBelow
      namePadded := by
        rw [name, namePadding]
        omega
      descriptionPadded := by
        rw [description, descriptionPadding]
        omega }, tail.drop ((n + 3) / 4 * 4 + (d + 3) / 4 * 4), ?_⟩
  rw [Note.bytes_append, Note.header]
  dsimp only
  have padded : n + ((n + 3) / 4 * 4 - n) = (n + 3) / 4 * 4 := by omega
  have paddedAlso : d + ((d + 3) / 4 * 4 - d) = (d + 3) / 4 * 4 := by omega
  rw [name, description, words, ← List.take_add, padded, ← List.drop_drop (i := d), ← List.take_add,
    paddedAlso, ← List.drop_drop (i := (d + 3) / 4 * 4), List.take_append_drop,
    List.take_append_drop]

/-- The walk of a section takes its notes one by one. -/
theorem walk_notePass (image : List UInt8) (first last : ℕ) :
    Walk Note.bytes (Inside image first last) (left image last) absorb id
      (notePass image first last) where
  delimited := delimited_bytes
  finish := by
    intro search inside empty
    have size := inside.length_left
    rw [empty, List.length_nil] at size
    have upper := inside.upper
    rw [notePass]
    dsimp only
    rw [if_neg (by omega), if_pos (by omega)]
    rfl
  reject := by
    intro search inside more none
    have size := inside.length_left
    have some := List.length_pos_of_ne_nil more
    by_cases short : (left image last search).length < 12
    · refine ⟨(), ?_⟩
      rw [notePass]
      dsimp only
      rw [if_pos (by omega), if_pos (by omega)]
    · have header : ((left image last search).take 12).length = 12 := by
        rw [List.length_take]
        omega
      have split := (List.take_append_drop 12 (left image last search)).symm
      rw [notePass_eq inside split header rfl rfl]
      refine ⟨(), if_pos ?_⟩
      by_contra fits
      obtain ⟨note, rest, whole⟩ := exists_note header (not_lt.mp fits)
      exact none note rest (split.trans whole)
  refuse := by
    intro search note rest failure inside split refused
    rw [notePass_note inside split]
    rw [absorb] at refused
    by_cases metadata : note.isMetadata = true
    · by_cases found : search.found = true
      · rw [if_pos metadata, if_pos found]
      · rw [if_pos metadata, if_neg found] at refused
        cases refused
    · rw [if_neg metadata] at refused
      cases refused
  take := by
    intro search note rest after inside split taken
    have size := inside.length_left
    rw [split, List.length_append] at size
    have lower := inside.lower
    have upper := inside.upper
    have moved : notePass image first last search = .next after ∧
        after.cursor = search.cursor + note.bytes.length := by
      rw [notePass_note inside split]
      rw [absorb] at taken
      by_cases metadata : note.isMetadata = true
      · by_cases found : search.found = true
        · rw [if_pos metadata, if_pos found] at taken
          cases taken
        · rw [if_pos metadata, if_neg found] at taken
          rw [if_pos metadata, if_neg found]
          cases taken
          exact ⟨rfl, rfl⟩
      · rw [if_neg metadata] at taken
        rw [if_neg metadata]
        cases taken
        exact ⟨rfl, rfl⟩
    refine ⟨moved.1, ⟨?_, ?_, inside.image⟩, ?_⟩
    · rw [moved.2]
      omega
    · rw [moved.2]
      omega
    · rw [left, moved.2, ← List.drop_drop]
      rw [left] at split
      rw [split, List.drop_left]

end Walk

section Law

variable {image : List UInt8} {first last : ℕ} {search after : NoteSearch} {note : Note}
  {notes : List Note} {found all : List (List UInt8)}

/-- The descriptions that a search has found, as they stand in the image. -/
def Holds (image : List UInt8) (search : NoteSearch) (found : List (List UInt8)) : Prop :=
  if search.found then
    found = [bytesAt image search.metadata search.metadataSize.toNat] ∧
      search.metadata + search.metadataSize.toNat ≤ image.length
  else found = []

/-- The descriptions of the metadata notes. -/
def descriptions (notes : List Note) : List (List UInt8) :=
  (notes.filter Note.isMetadata).map Note.description

theorem descriptions_cons (note : Note) (notes : List Note) :
    descriptions (note :: notes) = descriptions [note] ++ descriptions notes := by
  rw [descriptions, descriptions, descriptions, ← List.map_append, ← List.filter_append,
    List.singleton_append]

/-- A search holds what it has found, and nothing else. -/
theorem Holds.unique (holds : Holds image search found) (also : Holds image search all) :
    found = all := by
  rw [Holds] at holds also
  by_cases any : search.found = true
  · rw [if_pos any] at holds also
    rw [holds.1, also.1]
  · rw [if_neg any] at holds also
    rw [holds, also]

theorem Holds.length_le (holds : Holds image search found) : found.length ≤ 1 := by
  rw [Holds] at holds
  by_cases any : search.found = true
  · rw [if_pos any] at holds
    rw [holds.1, List.length_singleton]
  · rw [if_neg any] at holds
    rw [holds]
    exact Nat.zero_le _

/-- The description of a note, where it stands in the image. -/
theorem Inside.description_eq (inside : Inside image first last search) {rest : List UInt8}
    (split : left image last search = note.bytes ++ rest) :
    bytesAt image (search.cursor + 12 + (note.name ++ note.namePadding).length)
        note.description.length = note.description ∧
      search.cursor + 12 + (note.name ++ note.namePadding).length + note.description.length ≤
        image.length := by
  have start : left image last search = (note.header ++ (note.name ++ note.namePadding)) ++
      note.description ++ (note.descriptionPadding ++ rest) := by
    rw [split, Note.bytes]
    simp only [List.append_assoc]
  have size : (note.header ++ (note.name ++ note.namePadding)).length =
      12 + (note.name ++ note.namePadding).length := by
    rw [List.length_append, Note.length_header]
  obtain ⟨fits, read⟩ := inside.bytesAt_eq start
  rw [size, ← Nat.add_assoc] at fits read
  exact ⟨read, fits.trans inside.image⟩

/-- What a search holds after a note. -/
theorem holds_absorb (inside : Inside image first last search) {rest : List UInt8}
    (split : left image last search = note.bytes ++ rest) (holds : Holds image search found) :
    (absorb search note = .error () ∧ 1 < (found ++ descriptions [note]).length) ∨
      ∃ after, absorb search note = .ok after ∧ Holds image after (found ++ descriptions [note]) := by
  rw [absorb]
  by_cases metadata : note.isMetadata = true
  · have one : descriptions [note] = [note.description] := by
      rw [descriptions, List.filter_cons_of_pos metadata]
      rfl
    rw [Holds] at holds
    by_cases any : search.found = true
    · left
      rw [if_pos any] at holds
      rw [if_pos metadata, if_pos any, one, holds.1]
      exact ⟨rfl, Nat.lt_add_one 1⟩
    · right
      rw [if_neg any] at holds
      rw [if_pos metadata, if_neg any, one, holds]
      have size : (UInt32.ofNat note.description.length).toNat = note.description.length := by
        rw [UInt32.toNat_ofNat']
        exact Nat.mod_eq_of_lt note.description_lt
      obtain ⟨read, fits⟩ := inside.description_eq split
      refine ⟨_, rfl, ?_⟩
      rw [Holds]
      dsimp only
      rw [if_pos rfl, size, read]
      exact ⟨rfl, fits⟩
  · have none : descriptions [note] = [] := by
      rw [descriptions, List.filter_cons_of_neg metadata]
      rfl
    right
    rw [if_neg metadata, none, List.append_nil]
    exact ⟨_, rfl, holds⟩

/-- What a search holds at the end of a section. -/
theorem holds_foldlM (inside : Inside image first last search)
    (tiling : Tiling Note.bytes (left image last search) notes)
    (holds : Holds image search found) :
    (notes.foldlM absorb search = .error () ∧ 1 < (found ++ descriptions notes).length) ∨
      ∃ after, notes.foldlM absorb search = .ok after ∧
        Holds image after (found ++ descriptions notes) := by
  induction notes generalizing search found with
  | nil =>
    right
    refine ⟨search, rfl, ?_⟩
    rw [descriptions, List.filter_nil, List.map_nil, List.append_nil]
    exact holds
  | cons note notes ih =>
    have split : left image last search = note.bytes ++ (notes.map Note.bytes).flatten :=
      tiling.symm
    rw [descriptions_cons, ← List.append_assoc, List.foldlM_cons]
    rcases holds_absorb inside split holds with ⟨refused, many⟩ | ⟨after, taken, held⟩
    · left
      rw [refused]
      refine ⟨rfl, ?_⟩
      rw [List.length_append]
      omega
    · obtain ⟨-, insideAfter, rested⟩ :=
        (walk_notePass image first last).take search note _ after inside split taken
      rw [taken]
      exact ih insideAfter rested.symm held

/-- A section is tiled by notes. -/
def Noted (image : List UInt8) (range : UInt64 × UInt64) (notes : List Note) : Prop :=
  range.1.toNat + range.2.toNat ≤ image.length ∧
    Tiling Note.bytes (bytesAt image range.1.toNat range.2.toNat) notes

/-- What the search of a section comes to. -/
structure Searched (image : List UInt8) (range : UInt64 × UInt64) (search : NoteSearch)
    (outcome : Except Unit NoteSearch) : Prop where
  noted : ∀ after, outcome = .ok after → ∃ notes, Noted image range notes
  held : ∀ found notes, Holds image search found → Noted image range notes →
    (outcome = .error () ∧ 1 < (found ++ descriptions notes).length) ∨
      ∃ after, outcome = .ok after ∧ Holds image after (found ++ descriptions notes)

/-- The search of a section ends after at most as many passes as the section has bytes, and never
reads outside of it. -/
theorem findMetadataNote_searched (image : List UInt8) (offset size : UInt64)
    (search : NoteSearch) :
    ∃ outcome,
      (∀ extra, findMetadataNote image offset size search (size.toNat + 1 + extra) =
        .finished outcome) ∧
      Searched image (offset, size) search outcome := by
  have range : rangeWithinImage offset size image = true ↔
      offset.toNat + size.toNat ≤ image.length := by
    rw [rangeWithinImage, Bool.and_eq_true, decide_eq_true_eq, decide_eq_true_eq]
    omega
  by_cases fits : rangeWithinImage offset size image = true
  · have inside : Inside image offset.toNat (offset.toNat + size.toNat)
        { search with cursor := offset.toNat } :=
      ⟨le_rfl, Nat.le_add_right _ _, range.mp fits⟩
    have window : left image (offset.toNat + size.toNat) { search with cursor := offset.toNat } =
        bytesAt image offset.toNat size.toNat := by
      rw [left, List.drop_take, Nat.add_sub_cancel_left, bytesAt]
    have enough : (left image (offset.toNat + size.toNat)
        { search with cursor := offset.toNat }).length < size.toNat + 1 := by
      rw [inside.length_left]
      change offset.toNat + size.toNat - offset.toNat < _
      omega
    obtain ⟨outcome, ends, accepts⟩ := (walk_notePass image _ _).finished inside enough
    refine ⟨outcome, fun extra => ?_, ?_, ?_⟩
    · rw [findMetadataNote, fits]
      exact loop_add ends (by simp) extra
    · intro after same
      obtain ⟨notes, -, tiling, -⟩ := (accepts after).mp same
      rw [window] at tiling
      exact ⟨notes, range.mp fits, tiling⟩
    · intro found notes holds noted
      have start : Holds image { search with cursor := offset.toNat } found := holds
      have tiling := noted.2
      rw [← window] at tiling
      rcases holds_foldlM inside tiling start with ⟨refused, many⟩ | ⟨after, taken, held⟩
      · left
        refine ⟨?_, many⟩
        cases outcome with
        | error failure => rfl
        | ok after =>
          obtain ⟨others, last, also, folded, -⟩ := (accepts after).mp rfl
          rw [also.unique delimited_bytes tiling, refused] at folded
          cases folded
      · right
        exact ⟨after, (accepts after).mpr ⟨notes, after, tiling, taken, rfl⟩, held⟩
  · refine ⟨.error (), fun extra => ?_, ?_, ?_⟩
    · rw [findMetadataNote, if_pos (by simp [fits])]
    · intro after same
      cases same
    · intro found notes holds noted
      exact absurd (range.mpr noted.1) fits

theorem descriptions_append (first second : List Note) :
    descriptions (first ++ second) = descriptions first ++ descriptions second := by
  rw [descriptions, List.filter_append, List.map_append, descriptions, descriptions]

/-- The searches of several sections, one after the other. -/
theorem noteSections_of_holds (image : List UInt8) (sections : List (UInt64 × UInt64))
    (holds : Holds image search found) :
    ∃ outcome, (∀ extra, noteSections image extra sections search = .finished outcome) ∧
      ∀ all, (∃ after, outcome = .ok after ∧ Holds image after all) ↔
        ∃ notes, List.Forall₂ (Noted image) sections notes ∧
          all = found ++ descriptions notes.flatten ∧ all.length ≤ 1 := by
  induction sections generalizing search found with
  | nil =>
    refine ⟨.ok search, fun extra => rfl, fun all => ?_⟩
    have nothing : found ++ descriptions [] = found := List.append_nil found
    constructor
    · rintro ⟨after, same, held⟩
      cases same
      have unique := held.unique holds
      rw [unique]
      exact ⟨[], .nil, nothing.symm, holds.length_le⟩
    · rintro ⟨notes, noted, same, -⟩
      cases noted
      rw [same, List.flatten_nil, nothing]
      exact ⟨search, rfl, holds⟩
  | cons range sections ih =>
    obtain ⟨offset, size⟩ := range
    obtain ⟨first, ends, searched⟩ := findMetadataNote_searched image offset size search
    cases first with
    | error failure =>
      refine ⟨.error failure, fun extra => ?_, fun all => ?_⟩
      · rw [noteSections, ends extra]
      · constructor
        · rintro ⟨after, same, -⟩
          cases same
        · rintro ⟨notes, noted, same, few⟩
          cases noted with
          | cons here rest =>
            rcases searched.held found _ holds here with ⟨-, many⟩ | ⟨after, taken, -⟩
            · rw [same, List.flatten_cons, descriptions_append, ← List.append_assoc,
                List.length_append] at few
              omega
            · cases taken
    | ok after =>
      obtain ⟨here, noted⟩ := searched.noted after rfl
      rcases searched.held found here holds noted with ⟨refused, -⟩ | ⟨_, taken, held⟩
      · cases refused
      · cases taken
        obtain ⟨outcome, endsAfter, law⟩ := ih held
        refine ⟨outcome, fun extra => ?_, fun all => ?_⟩
        · rw [noteSections, ends extra]
          exact endsAfter extra
        · rw [law all]
          constructor
          · rintro ⟨notes, rest, same, few⟩
            refine ⟨here :: notes, .cons noted rest, ?_, few⟩
            rw [same, List.flatten_cons, descriptions_append, List.append_assoc]
          · rintro ⟨notes, all, same, few⟩
            cases all with
            | cons also rest =>
              rw [also.2.unique delimited_bytes noted.2, List.flatten_cons, descriptions_append,
                ← List.append_assoc] at same
              exact ⟨_, rest, same, few⟩

/-- Over all note sections of an image, the search reports a description exactly when every
section is tiled by notes and it is that of the only metadata note among them. -/
theorem noteLaw (image : List UInt8) :
    (∀ offset size search, ∃ outcome,
      (∀ extra, findMetadataNote image offset size search (size.toNat + 1 + extra) =
        .finished outcome) ∧
      ∀ after, outcome = .ok after → ∃ notes, Noted image (offset, size) notes) ∧
    ∀ sections, ∃ outcome,
      (∀ extra, noteSections image extra sections {} = .finished outcome) ∧
      ∀ description, (∃ after, outcome = .ok after ∧ Holds image after [description]) ↔
        ∃ notes, List.Forall₂ (Noted image) sections notes ∧
          descriptions notes.flatten = [description] := by
  refine ⟨?_, ?_⟩
  · intro offset size search
    obtain ⟨outcome, ends, searched⟩ := findMetadataNote_searched image offset size search
    exact ⟨outcome, ends, searched.noted⟩
  · intro sections
    have start : Holds image {} [] := rfl
    obtain ⟨outcome, ends, law⟩ := noteSections_of_holds image sections start
    refine ⟨outcome, ends, fun description => ?_⟩
    rw [law [description]]
    constructor
    · rintro ⟨notes, noted, same, -⟩
      exact ⟨notes, noted, same.symm⟩
    · rintro ⟨notes, noted, same⟩
      exact ⟨notes, noted, same.symm, le_rfl⟩

end Law

end GemSim.CodeObject
