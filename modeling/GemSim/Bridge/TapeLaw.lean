import GemSim.Bridge.Tape
import Mathlib.Data.Bool.Count

/-!
# What a tape holds

Whatever the system answers to the calls of the tape, its file holds its header and the records
of the appends that returned true, in the order of the calls and under consecutive numbers. A
record whose append has failed may have left some of its bytes behind them, and is then the last
one. The decoder finds the records again.

## Main definitions

* `accepted` — the appends that returned true
* `encoded`, `Torn` — their records, and what may follow them
* `Recorded` — the file and the counters after a sequence of appends
* `TapeAgrees` — what holds of a tape

## Main results

* `writeLoop_cases` — everything that a loop over vectors can leave
* `append_cases` — everything that an append can do
* `tapeAgrees` — every sequence of appends to a tape that has been adopted
-/

namespace GemSim.Bridge.HostGPUBridgeTape

open GemSim.Lib

section Laws

/-- The calls that returned true. -/
def accepted (calls : List Append) (results : List Bool) : List Append :=
  ((calls.zip results).filter Prod.snd).map Prod.fst

def Append.frame (call : Append) (sequence : UInt64) : List UInt8 × List UInt8 :=
  (call.header sequence, call.record)

def Append.encoding (call : Append) (sequence : UInt64) : List UInt8 :=
  call.header sequence ++ call.record

/-- The records of some calls, under consecutive numbers. -/
def numbered : UInt64 → List Append → List (List UInt8 × List UInt8)
  | _, [] => []
  | sequence, call :: rest => call.frame sequence :: numbered (sequence + 1) rest

def encoded (sequence : UInt64) (calls : List Append) : List UInt8 :=
  ((numbered sequence calls).map fun frame => frame.1 ++ frame.2).flatten

/-- The record has the length it says, and the length fits its field. -/
structure Append.Whole (call : Append) : Prop where
  length : call.record.length = call.length
  fits : call.length < UInt32.size

/-- What follows the last whole record: nothing, or the start of a record after whose call no
other one has returned true. -/
def Torn (sequence : UInt64) (calls : List Append) (results : List Bool) (torn : List UInt8) :
    Prop :=
  torn = [] ∨ ∃ before call later, calls = before ++ call :: later ∧ call.Whole ∧
    (∀ index, before.length ≤ index → results[index]? ≠ some true) ∧
    torn <+: call.encoding sequence ∧ torn ≠ call.encoding sequence

/-- What the decoder says of a record. -/
def Append.entry (call : Append) (sequence : UInt64) : Entry where
  sequence := sequence.toNat
  direction := some call.direction
  carrier := call.carrier
  flags := 0
  client_fd := call.clientFd.toUInt32.toNat
  generation := call.generation.toNat
  sim_tick := call.simulatedTick.toNat
  monotonic_ns := call.monotonicNs.toNat
  record_bytes := call.length
  record := call.record

def entries : UInt64 → List Append → List Entry
  | _, [] => []
  | sequence, call :: rest => call.entry sequence :: entries (sequence + 1) rest

def Identity.header (identity : Identity) : FileHeader where
  format_major := FormatMajor
  format_minor := FormatMinor
  record_header_bytes := RecordHeaderBytes
  tick_frequency_hz := identity.tickFrequencyHz.toNat
  epoch := identity.epoch.toNat
  rank := identity.rank.toNat
  world_size := identity.worldSize.toNat
  maximum_record := identity.maximumRecord.toNat
  daemon_uuid := identity.daemonUuid.toList
  job_uuid := identity.jobUuid.toList

/-- The file and the counters after a sequence of appends to a tape. -/
structure Recorded (tape : HostGPUBridgeTape) (identity : Identity) (calls : List Append)
    (results : List Bool) (after : Recording) : Prop where
  file : ∃ torn, after.file = encodeFileHeader identity ++
      encoded (tape.sequence + 1) (accepted calls results) ++ torn ∧
    Torn (after.tape.sequence + 1) calls results torn ∧
    iter_records (after.file.drop FileHeaderBytes) =
      (entries (tape.sequence + 1) (accepted calls results), decide (torn.length ≠ 0))
  header : read_file_header (after.file.take FileHeaderBytes) = .ok identity.header
  sequence : after.tape.sequence =
    tape.sequence + UInt64.ofNat (accepted calls results).length
  counts : after.tape.appendedRecords + after.tape.droppedRecords =
    tape.appendedRecords + tape.droppedRecords + UInt64.ofNat results.length
  exact :
    tape.appendedRecords.toNat + tape.droppedRecords.toNat + results.length < UInt64.size →
      after.tape.appendedRecords.toNat + after.tape.droppedRecords.toNat =
        tape.appendedRecords.toNat + tape.droppedRecords.toNat + results.length

/-- A call that is interrupted is made again. -/
def Writev.interrupted : Writev → Bool
  | .wrote _ => false
  | .failed errno => errno = EINTR

/-- The system answers often enough: each answer but an interruption takes a byte or fails. -/
def Append.Answered (call : Append) : Prop :=
  RecordHeaderBytes + call.length ≤ call.calls.countP fun answer => !answer.interrupted

/-- Nothing is written for these calls. -/
def Append.Refused (call : Append) (tape : HostGPUBridgeTape) : Prop :=
  tape.descriptor < 0 ∨ call.length > UInt32.size - 1 ∨ call.length ≠ 0 ∧ call.bytes = none

structure TapeAgrees : Prop where
  recorded : ∀ (tape : HostGPUBridgeTape) (fd : ℤ) (identity : Identity) (answers : List Writev)
    (calls : List Append) (opened : Recording),
    adopt fd identity answers ⟨tape, []⟩ = (some (.ok ()), opened) →
      Recorded tape identity calls (runAppends calls opened).1 (runAppends calls opened).2
  /-- A failure in the middle of a record closes the tape. -/
  tears : ∀ (call : Append) (recording after : Recording), ¬ call.Refused recording.tape →
    append call recording = (some false, after) → after.tape.descriptor < 0
  /-- Nothing more is written to a tape that is closed. -/
  stops : ∀ (calls : List Append) (recording : Recording), recording.tape.descriptor < 0 →
    (runAppends calls recording).2.file = recording.file ∧
      true ∉ (runAppends calls recording).1
  returns : ∀ (calls : List Append) (recording : Recording),
    (∀ call ∈ calls, call.Answered) → (runAppends calls recording).1.length = calls.length

end Laws

section Loop

variable {vectors : List (List UInt8)} {calls : List Writev} {recording : Recording}

theorem isEmpty_ne (full : ∀ vector ∈ vectors, vector ≠ []) (more : ¬ vectors.isEmpty = true) :
    ([] : List UInt8) ≠ vectors.flatten := by
  cases vectors with
  | nil => simp at more
  | cons vector rest =>
    have first := full vector List.mem_cons_self
    intro empty
    rw [List.flatten_cons, eq_comm, List.append_eq_nil_iff] at empty
    exact first empty.1

/-- A loop writes all of its vectors, or it stops with some of their bytes: before the answers
that it still needs, or at an error. -/
theorem writeLoop_cases (full : ∀ vector ∈ vectors, vector ≠ []) :
    writeLoop calls vectors recording =
        (some true, { recording with file := recording.file ++ vectors.flatten }) ∨
      ∃ torn, torn <+: vectors.flatten ∧ torn ≠ vectors.flatten ∧
        (writeLoop calls vectors recording =
            (none, { recording with file := recording.file ++ torn }) ∨
          ∃ errno, writeLoop calls vectors recording =
            (some false,
              Recording.fail { recording with file := recording.file ++ torn } errno)) := by
  induction calls generalizing vectors recording with
  | nil =>
    rw [writeLoop]
    by_cases done : vectors.isEmpty = true
    · left
      rw [if_pos done, List.isEmpty_iff.mp done, List.flatten_nil, List.append_nil]
    · right
      rw [if_neg done]
      exact ⟨[], List.nil_prefix, isEmpty_ne full done, .inl (by rw [List.append_nil])⟩
  | cons answer calls ih =>
    by_cases done : vectors.isEmpty = true
    · left
      cases answer with
      | failed errno =>
        rw [writeLoop, if_pos done, List.isEmpty_iff.mp done, List.flatten_nil, List.append_nil]
      | wrote count =>
        rw [writeLoop, if_pos done, List.isEmpty_iff.mp done, List.flatten_nil, List.append_nil]
    · cases answer with
      | failed errno =>
        rw [writeLoop, if_neg done]
        by_cases again : errno = EINTR
        · rw [if_pos again]
          exact ih full
        · right
          rw [if_neg again]
          exact ⟨[], List.nil_prefix, isEmpty_ne full done,
            .inr ⟨errno, by rw [List.append_nil]⟩⟩
      | wrote count =>
        rw [writeLoop, if_neg done]
        dsimp only
        generalize taken : min count vectors.flatten.length = written
        by_cases none : written = 0
        · right
          rw [if_pos none]
          exact ⟨[], List.nil_prefix, isEmpty_ne full done,
            .inr ⟨ENOSPC, by rw [List.append_nil]⟩⟩
        · rw [if_neg none]
          have whole : vectors.flatten.take written ++ (advance vectors written).flatten =
              vectors.flatten := by
            rw [flatten_advance, List.take_append_drop]
          rcases @ih (advance vectors written)
            { recording with file := recording.file ++ vectors.flatten.take written }
            (ne_nil_of_mem_advance full written) with all | ⟨torn, start, short, stopped⟩
          · left
            rw [all, List.append_assoc, whole]
          · right
            refine ⟨vectors.flatten.take written ++ torn, ?_, ?_, ?_⟩
            · obtain ⟨rest, remainder⟩ := start
              exact ⟨rest, by rw [List.append_assoc, remainder, whole]⟩
            · intro same
              exact short (List.append_cancel_left (same.trans whole.symm))
            · rw [← List.append_assoc]
              exact stopped

/-- A loop with an answer for every byte returns. -/
theorem writeLoop_ne_none
    (answered : vectors.flatten.length ≤ calls.countP fun answer => !answer.interrupted)
    (full : ∀ vector ∈ vectors, vector ≠ []) :
    (writeLoop calls vectors recording).1 ≠ none := by
  induction calls generalizing vectors recording with
  | nil =>
    rw [writeLoop]
    have none : vectors.flatten = [] := by
      rw [← List.length_eq_zero_iff]
      exact Nat.le_zero.mp answered
    by_cases done : vectors.isEmpty = true
    · rw [if_pos done]
      exact Option.some_ne_none _
    · exact absurd none.symm (isEmpty_ne full done)
  | cons answer calls ih =>
    cases answer with
    | failed errno =>
      rw [writeLoop]
      by_cases done : vectors.isEmpty = true
      · rw [if_pos done]
        exact Option.some_ne_none _
      · rw [if_neg done]
        by_cases again : errno = EINTR
        · rw [if_pos again]
          refine ih ?_ full
          rwa [List.countP_cons_of_neg (by simp [Writev.interrupted, again])] at answered
        · rw [if_neg again]
          exact Option.some_ne_none _
    | wrote count =>
      rw [writeLoop]
      by_cases done : vectors.isEmpty = true
      · rw [if_pos done]
        exact Option.some_ne_none _
      · rw [if_neg done]
        dsimp only
        by_cases none : min count vectors.flatten.length = 0
        · rw [if_pos none]
          exact Option.some_ne_none _
        · rw [if_neg none]
          refine ih ?_ (ne_nil_of_mem_advance full _)
          rw [List.countP_cons_of_pos (by rfl)] at answered
          rw [flatten_advance, List.length_drop]
          omega

end Loop

section Records

variable {call : Append} {recording : Recording} {sequence : UInt64}

@[simp] theorem length_storeBigEndian (record : List UInt8) (offset value width : ℕ) :
    (storeBigEndian record offset value width).length = record.length := length_storeAt _ _ _

@[simp] theorem length_header : (call.header sequence).length = RecordHeaderBytes := by
  simp [Append.header, encodeRecordHeader]

/-- A call that is not refused comes with as many bytes as it says. -/
theorem whole_of_admitted (admitted : ¬ call.Refused recording.tape) : call.Whole := by
  have fits : call.length < UInt32.size := by
    by_contra long
    refine admitted (.inr (.inl ?_))
    have positive : 0 < UInt32.size := by decide
    omega
  refine ⟨?_, fits⟩
  rw [Append.record]
  cases given : call.bytes with
  | none =>
    have empty : call.length = 0 := by
      by_contra some
      exact admitted (.inr (.inr ⟨some, given⟩))
    rw [empty]
    rfl
  | some record => exact call.backed record given

/-- The vectors of a record are its header and, unless there are none, its bytes. -/
theorem flatten_vectors (header bytes : List UInt8) :
    (header :: if bytes.length ≠ 0 then [bytes] else []).flatten = header ++ bytes := by
  by_cases empty : bytes.length = 0
  · rw [if_neg (not_not.mpr empty), List.length_eq_zero_iff.mp empty]
    simp
  · rw [if_pos empty]
    simp

theorem ne_nil_of_mem_vectors {header bytes : List UInt8} (some : header ≠ []) :
    ∀ vector ∈ header :: (if bytes.length ≠ 0 then [bytes] else []), vector ≠ [] := by
  intro vector member
  rcases List.mem_cons.mp member with rfl | member
  · exact some
  · by_cases empty : bytes.length = 0
    · simp [empty] at member
    · rw [if_pos empty, List.mem_singleton] at member
      rw [member, ne_eq, ← List.length_eq_zero_iff]
      exact empty

theorem header_ne_nil : call.header sequence ≠ [] := by
  rw [ne_eq, ← List.length_eq_zero_iff, length_header]
  exact NeZero.ne _

/-- The tape after a record has been appended. -/
def Recording.appended (recording : Recording) (call : Append) : Recording where
  tape :=
    { recording.tape with
      sequence := recording.tape.sequence + 1
      appendedRecords := recording.tape.appendedRecords + 1 }
  file := recording.file ++ call.encoding (recording.tape.sequence + 1)

/-- The tape after a call that failed. -/
def Recording.torn (recording : Recording) (errno : ℤ) (torn : List UInt8) : Recording :=
  (Recording.fail { recording with file := recording.file ++ torn } errno).drop

theorem append_refused (refused : call.Refused recording.tape) :
    append call recording = (some false, recording.drop) := if_pos refused

/-- A call that is not refused writes its record. -/
theorem append_admitted (admitted : ¬ call.Refused recording.tape) :
    append call recording =
      let result := writeAll call.calls (call.header (recording.tape.sequence + 1)) call.record
        recording
      if result.1 = none then result
      else if result.1 = some false then (some false, result.2.drop)
      else
        (some true,
          { result.2 with
            tape :=
              { result.2.tape with
                sequence := result.2.tape.sequence + 1
                appendedRecords := result.2.tape.appendedRecords + 1 } }) := by
  rw [Append.Refused] at admitted
  rw [append, if_neg admitted]
  dsimp only
  generalize writeAll call.calls _ call.record recording = result
  obtain ⟨outcome, after⟩ := result
  cases outcome with
  | none => rfl
  | some written =>
    cases written with
    | false => rfl
    | true => rfl

/-- Everything that an append can do. -/
theorem append_cases (call : Append) (recording : Recording) :
    (call.Refused recording.tape ∧ append call recording = (some false, recording.drop)) ∨
      ¬ call.Refused recording.tape ∧
        (append call recording = (some true, recording.appended call) ∨
          ∃ torn, torn <+: call.encoding (recording.tape.sequence + 1) ∧
            torn ≠ call.encoding (recording.tape.sequence + 1) ∧
            (append call recording =
                (none, { recording with file := recording.file ++ torn }) ∨
              ∃ errno, append call recording = (some false, recording.torn errno torn))) := by
  by_cases refused : call.Refused recording.tape
  · exact .inl ⟨refused, append_refused refused⟩
  · refine .inr ⟨refused, ?_⟩
    have written := @writeLoop_cases _ call.calls recording (@ne_nil_of_mem_vectors _ call.record
      (@header_ne_nil call (recording.tape.sequence + 1)))
    rw [flatten_vectors] at written
    rw [append_admitted refused, writeAll]
    rcases written with all | ⟨torn, start, short, stopped⟩
    · left
      rw [all]
      rfl
    · right
      refine ⟨torn, start, short, ?_⟩
      rcases stopped with waiting | ⟨errno, failed⟩
      · left
        rw [waiting]
        rfl
      · right
        refine ⟨errno, ?_⟩
        rw [failed]
        rfl

/-- A call with enough answers returns. -/
theorem append_returns (answered : call.Answered) : (append call recording).1 ≠ none := by
  by_cases refused : call.Refused recording.tape
  · rw [append_refused refused]
    exact Option.some_ne_none _
  · have returned := @writeLoop_ne_none
      (call.header (recording.tape.sequence + 1) ::
        if call.record.length ≠ 0 then [call.record] else []) call.calls recording
      (by rw [flatten_vectors, List.length_append, length_header, (whole_of_admitted refused).length]
          exact answered)
      (ne_nil_of_mem_vectors header_ne_nil)
    rw [append_admitted refused, writeAll]
    generalize writeLoop call.calls _ recording = result at returned ⊢
    dsimp only
    rw [if_neg returned]
    split
    · exact Option.some_ne_none _
    · exact Option.some_ne_none _

end Records

section Runs

variable {call : Append} {calls : List Append} {recording next : Recording} {appended : Bool}
  {results : List Bool} {sequence : UInt64} {torn : List UInt8}

theorem runAppends_cons (returned : append call recording = (some appended, next)) :
    runAppends (call :: calls) recording =
      (appended :: (runAppends calls next).1, (runAppends calls next).2) := by
  rw [runAppends, returned]

theorem runAppends_waiting (waiting : append call recording = (none, next)) :
    runAppends (call :: calls) recording = ([], next) := by
  rw [runAppends, waiting]

@[simp] theorem sequence_close (tape : HostGPUBridgeTape) :
    (close tape).sequence = tape.sequence := by
  rw [close]
  split
  · rfl
  · rfl

@[simp] theorem appendedRecords_close (tape : HostGPUBridgeTape) :
    (close tape).appendedRecords = tape.appendedRecords := by
  rw [close]
  split
  · rfl
  · rfl

@[simp] theorem droppedRecords_close (tape : HostGPUBridgeTape) :
    (close tape).droppedRecords = tape.droppedRecords := by
  rw [close]
  split
  · rfl
  · rfl

theorem descriptor_close (tape : HostGPUBridgeTape) : (close tape).descriptor < 0 := by
  rw [close]
  split
  · assumption
  · change (-1 : ℤ) < 0
    decide

theorem ofNat_succ (count : ℕ) (value : UInt64) :
    value + UInt64.ofNat (count + 1) = value + 1 + UInt64.ofNat count := by
  rw [UInt64.ofNat_add, UInt64.add_comm (UInt64.ofNat count), ← UInt64.add_assoc]
  rfl

/-- Calls on a tape that is closed. -/
theorem runAppends_closed (calls : List Append) {recording : Recording}
    (closed : recording.tape.descriptor < 0) :
    runAppends calls recording =
      (List.replicate calls.length false,
        { recording with
          tape :=
            { recording.tape with
              droppedRecords :=
                recording.tape.droppedRecords + UInt64.ofNat calls.length } }) := by
  induction calls generalizing recording with
  | nil =>
    have zero : UInt64.ofNat 0 = 0 := rfl
    rw [runAppends, List.length_nil, zero, UInt64.add_zero]
    rfl
  | cons call calls ih =>
    have rest := @ih recording.drop closed
    rw [runAppends_cons (append_refused (.inl closed)), rest, List.length_cons,
      List.replicate_succ, ofNat_succ]
    rfl

/-- A call before the others. -/
theorem Torn.cons (rest : Torn sequence calls results torn) (call : Append) (appended : Bool) :
    Torn sequence (call :: calls) (appended :: results) torn := by
  rcases rest with none | ⟨before, last, later, rfl, whole, fails, start, short⟩
  · exact .inl none
  · refine .inr ⟨call :: before, last, later, rfl, whole, ?_, start, short⟩
    intro index beyond
    cases index with
    | zero => simp at beyond
    | succ index =>
      rw [List.getElem?_cons_succ]
      exact fails index (Nat.le_of_succ_le_succ beyond)

theorem encoded_cons : encoded sequence (call :: calls) =
    call.encoding sequence ++ encoded (sequence + 1) calls := by
  simp only [encoded, numbered, Append.frame, Append.encoding, List.map_cons, List.flatten_cons]

theorem accepted_true : accepted (call :: calls) (true :: results) = call :: accepted calls results :=
  rfl

theorem accepted_nil : accepted calls [] = [] := by
  rw [accepted, List.zip_nil_right]
  rfl

theorem accepted_replicate (calls : List Append) (count : ℕ) :
    accepted calls (List.replicate count false) = [] := by
  induction calls generalizing count with
  | nil => rfl
  | cons call calls ih =>
    cases count with
    | zero => exact accepted_nil
    | succ count => exact ih count

/-- What a sequence of appends adds to a recording. -/
structure Continued (recording : Recording) (calls : List Append) (results : List Bool)
    (after : Recording) : Prop where
  file : ∃ torn, after.file = recording.file ++
      encoded (recording.tape.sequence + 1) (accepted calls results) ++ torn ∧
    Torn (after.tape.sequence + 1) calls results torn
  whole : ∀ call ∈ accepted calls results, call.Whole
  sequence : after.tape.sequence =
    recording.tape.sequence + UInt64.ofNat (accepted calls results).length
  appended : after.tape.appendedRecords =
    recording.tape.appendedRecords + UInt64.ofNat (results.count true)
  dropped : after.tape.droppedRecords =
    recording.tape.droppedRecords + UInt64.ofNat (results.count false)

/-- A call that is dropped, with nothing written. -/
theorem Continued.refused {after : Recording}
    (rest : Continued recording.drop calls results after) :
    Continued recording (call :: calls) (false :: results) after := by
  obtain ⟨⟨torn, file, tail⟩, whole, sequence, appended, dropped⟩ := rest
  refine ⟨⟨torn, file, tail.cons call false⟩, whole, sequence, ?_, ?_⟩
  · rw [List.count_cons_of_ne (by decide)]
    exact appended
  · rw [List.count_cons_self, ofNat_succ]
    exact dropped

/-- A call that appends its record. -/
theorem Continued.appends {after : Recording} (first : call.Whole)
    (rest : Continued (recording.appended call) calls results after) :
    Continued recording (call :: calls) (true :: results) after := by
  obtain ⟨⟨torn, file, tail⟩, whole, sequence, appended, dropped⟩ := rest
  refine ⟨⟨torn, ?_, tail.cons call true⟩, ?_, ?_, ?_, ?_⟩
  · rw [file, accepted_true, encoded_cons, Recording.appended]
    dsimp only
    rw [List.append_assoc recording.file]
  · intro other member
    rcases List.mem_cons.mp member with rfl | member
    · exact first
    · exact whole other member
  · rw [sequence]
    exact (ofNat_succ _ _).symm
  · rw [List.count_cons_self, ofNat_succ]
    exact appended
  · rw [List.count_cons_of_ne (by decide)]
    exact dropped

/-- A call that leaves the start of its record, after which nothing is written. -/
theorem Continued.tears {after : Recording} {count : ℕ} (whole : call.Whole)
    (start : torn <+: call.encoding (recording.tape.sequence + 1))
    (short : torn ≠ call.encoding (recording.tape.sequence + 1))
    (file : after.file = recording.file ++ torn)
    (sequence : after.tape.sequence = recording.tape.sequence)
    (appended : after.tape.appendedRecords = recording.tape.appendedRecords)
    (dropped : after.tape.droppedRecords =
      recording.tape.droppedRecords + UInt64.ofNat count) :
    Continued recording (call :: calls) (List.replicate count false) after := by
  have none := accepted_replicate (call :: calls) count
  refine ⟨⟨torn, ?_, .inr ⟨[], call, calls, rfl, whole, ?_, ?_, ?_⟩⟩, ?_, ?_, ?_, ?_⟩
  · rw [file, none, encoded, numbered, List.map_nil, List.flatten_nil, List.append_nil]
  · intro index _ appended
    have member := List.mem_of_getElem? appended
    exact Bool.false_ne_true (List.eq_of_mem_replicate member).symm
  · rw [sequence]
    exact start
  · rw [sequence]
    exact short
  · rw [none]
    intro other member
    cases member
  · rw [sequence, none]
    exact (UInt64.add_zero _).symm
  · rw [appended, List.count_replicate]
    exact (UInt64.add_zero _).symm
  · rw [dropped, List.count_replicate_self]

theorem continued_runAppends (calls : List Append) (recording : Recording) :
    Continued recording calls (runAppends calls recording).1 (runAppends calls recording).2 := by
  induction calls generalizing recording with
  | nil =>
    have unchanged : recording.file ++ [] ++ [] = recording.file := by simp
    refine ⟨⟨[], unchanged.symm, .inl rfl⟩, ?_, (UInt64.add_zero _).symm,
      (UInt64.add_zero _).symm, (UInt64.add_zero _).symm⟩
    intro call member
    cases member
  | cons call calls ih =>
    rcases append_cases call recording with ⟨refused, same⟩ | ⟨admitted, returned | torn⟩
    · rw [runAppends_cons same]
      exact (ih recording.drop).refused
    · rw [runAppends_cons returned]
      exact (ih (recording.appended call)).appends (whole_of_admitted admitted)
    · obtain ⟨torn, start, short, waiting | ⟨errno, failed⟩⟩ := torn
      · rw [runAppends_waiting waiting]
        exact @Continued.tears call calls recording torn _ 0 (whole_of_admitted admitted) start
          short rfl rfl rfl (UInt64.add_zero _).symm
      · have closed : (recording.torn errno torn).tape.descriptor < 0 := descriptor_close _
        rw [runAppends_cons failed, runAppends_closed calls closed]
        refine @Continued.tears call calls recording torn _ (calls.length + 1)
          (whole_of_admitted admitted) start short rfl ?_ ?_ ?_
        · exact sequence_close _
        · exact appendedRecords_close _
        · rw [ofNat_succ]
          exact congrArg (fun dropped => dropped + 1 + UInt64.ofNat calls.length)
            (droppedRecords_close _)

end Runs

section Decoding

variable {record : List UInt8} {place offset value width count : ℕ} {call : Append}
  {sequence : UInt64}

theorem fieldAt_store (inside : place + width ≤ record.length) (fits : value < 256 ^ width) :
    fieldAt (storeBigEndian record place value width) place width = value := by
  rw [fieldAt, storeBigEndian, bytesAt_storeAt_bigEndian value inside, ofBigEndian_bigEndian,
    Nat.mod_eq_of_lt fits]

theorem fieldAt_store_of_apart (apart : offset + count ≤ place ∨ place + width ≤ offset) :
    fieldAt (storeBigEndian record place value width) offset count =
      fieldAt record offset count := by
  rw [fieldAt, storeBigEndian, bytesAt_storeAt_of_apart (by rwa [length_bigEndian]), fieldAt]

/-- The decoder reads what the header of a record was given. -/
theorem entryOf_frame (whole : call.Whole) : entryOf (call.frame sequence) = call.entry sequence := by
  have length := whole.fits
  have fd := call.clientFd.toUInt32.toNat_lt
  have generation := call.generation.toNat_lt
  have number := sequence.toNat_lt
  have tick := call.simulatedTick.toNat_lt
  have clock := call.monotonicNs.toNat_lt
  have carried : (if call.carrier then 1 else 0) < 256 ^ 1 := by
    split
    · decide
    · decide
  have code : call.direction.code < 256 ^ 1 := by
    cases call.direction with
    | Ingress => decide
    | Egress => decide
  have blank : fieldAt (List.replicate RecordHeaderBytes 0) 2 2 = 0 := by decide
  simp only [entryOf, recordBytes, Append.frame, Append.header, encodeRecordHeader, Append.entry]
  simp (disch := first | omega | simp [RecordHeaderBytes]) only
    [fieldAt_store_of_apart, fieldAt_store]
  have kind : DIRECTIONS call.direction.code = some call.direction := by
    cases call.direction with
    | Ingress => rfl
    | Egress => rfl
  have flag : decide ((if call.carrier then 1 else 0) ≠ 0) = call.carrier := by
    cases call.carrier with
    | false => rfl
    | true => rfl
  rw [blank, kind, flag]

theorem framed_frame (whole : call.Whole) (sequence : UInt64) :
    Framed RecordHeaderBytes recordBytes (call.frame sequence) := by
  have announced := congrArg Entry.record_bytes (@entryOf_frame call sequence whole)
  rw [entryOf, Append.entry] at announced
  dsimp only at announced
  refine ⟨?_, ?_⟩
  · rw [Append.frame, length_header]
  · rw [announced, Append.frame, whole.length]

/-- The decoder finds the records that are whole. -/
theorem iter_records_encoded {calls : List Append} (whole : ∀ call ∈ calls, call.Whole)
    (sequence : UInt64) {torn : List UInt8} {cut : Bool}
    (rest : frames RecordHeaderBytes recordBytes torn = ([], cut)) :
    iter_records (encoded sequence calls ++ torn) = (entries sequence calls, cut) := by
  have framed : ∀ frame ∈ numbered sequence calls,
      Framed RecordHeaderBytes recordBytes frame := by
    clear rest
    induction calls generalizing sequence with
    | nil =>
      intro frame member
      cases member
    | cons call calls ih =>
      intro frame member
      rcases List.mem_cons.mp member with rfl | member
      · exact framed_frame (whole call List.mem_cons_self) sequence
      · exact ih (fun other later => whole other (List.mem_cons_of_mem _ later)) _ frame member
  have decoded : (numbered sequence calls).map entryOf = entries sequence calls := by
    clear rest framed
    induction calls generalizing sequence with
    | nil => rfl
    | cons call calls ih =>
      rw [numbered, List.map_cons, entries, entryOf_frame (whole call List.mem_cons_self),
        ih fun other later => whole other (List.mem_cons_of_mem _ later)]
  rw [iter_records, encoded, frames_flatten_append framed rest, decoded]

/-- The start of a record is not read. -/
theorem frames_of_torn {calls : List Append} {results : List Bool} {torn : List UInt8}
    (tail : Torn sequence calls results torn) :
    frames RecordHeaderBytes recordBytes torn =
      ([], decide (torn.length ≠ 0)) := by
  rcases tail with rfl | ⟨_, call, _, _, whole, _, start, short⟩
  · exact frames_nil
  · have bytes : call.encoding sequence = (call.frame sequence).1 ++ (call.frame sequence).2 := by
      rw [Append.encoding, Append.frame]
    rw [bytes] at start short
    exact frames_torn (framed_frame whole sequence) start short

@[simp] theorem length_encodeFileHeader (identity : Identity) :
    (encodeFileHeader identity).length = FileHeaderBytes := by
  simp [encodeFileHeader, length_storeAt]

/-- The decoder reads the identity of the run. -/
theorem read_file_header_encode (identity : Identity) :
    read_file_header (encodeFileHeader identity) = .ok identity.header := by
  have frequency := identity.tickFrequencyHz.toNat_lt
  have epoch := identity.epoch.toNat_lt
  have rank := identity.rank.toNat_lt
  have world := identity.worldSize.toNat_lt
  have maximum := identity.maximumRecord.toNat_lt
  rw [read_file_header, length_encodeFileHeader, if_neg (not_not.mpr rfl)]
  simp (disch := first | omega | simp [FileHeaderBytes, Magic]) only [encodeFileHeader, fieldAt,
    storeBigEndian, bytesAt_storeAt_of_apart, bytesAt_storeAt_self, ofBigEndian_bigEndian,
    Nat.mod_eq_of_lt]
  have major : FormatMajor % 256 ^ 2 = FormatMajor := by decide
  have minor : FormatMinor % 256 ^ 2 = FormatMinor := by decide
  have file : FileHeaderBytes % 256 ^ 2 = FileHeaderBytes := by decide
  have record : RecordHeaderBytes % 256 ^ 2 = RecordHeaderBytes := by decide
  simp only [major, minor, file, record, ne_eq, not_true_eq_false, if_false]
  rfl

end Decoding

section Tapes

variable {tape : HostGPUBridgeTape} {fd : ℤ} {identity : Identity} {answers : List Writev}
  {opened : Recording}

/-- A tape that has been adopted holds its header. -/
theorem adopt_ok (adopted : adopt fd identity answers ⟨tape, []⟩ = (some (.ok ()), opened)) :
    opened = ⟨{ tape with descriptor := fd }, encodeFileHeader identity⟩ := by
  have full : ∀ vector ∈ [encodeFileHeader identity], vector ≠ [] := by
    intro vector member
    rw [List.mem_singleton.mp member, ne_eq, ← List.length_eq_zero_iff, length_encodeFileHeader]
    decide
  rw [adopt] at adopted
  by_cases bad : fd < 0
  · rw [if_pos bad] at adopted
    cases adopted
  by_cases busy : tape.descriptor ≥ 0
  · rw [if_neg bad, if_pos busy] at adopted
    cases adopted
  rw [if_neg bad, if_neg busy] at adopted
  dsimp only at adopted
  rw [writeAll, if_neg (by simp)] at adopted
  rcases @writeLoop_cases _ answers ⟨{ tape with descriptor := fd }, []⟩ full with
    all | ⟨torn, _, _, waiting | ⟨errno, failed⟩⟩
  · rw [all] at adopted
    simpa using (congrArg Prod.snd adopted).symm
  · rw [waiting] at adopted
    cases adopted
  · rw [failed] at adopted
    cases adopted

/-- What has been added to two counters is the sum of what has been added to each. -/
theorem add_counts (first second : UInt64) (true_ false_ : ℕ) :
    first + UInt64.ofNat true_ + (second + UInt64.ofNat false_) =
      first + second + UInt64.ofNat (true_ + false_) := by
  rw [UInt64.ofNat_add]
  ac_rfl

theorem recorded_runAppends (calls : List Append) :
    Recorded tape identity calls
      (runAppends calls ⟨{ tape with descriptor := fd }, encodeFileHeader identity⟩).1
      (runAppends calls ⟨{ tape with descriptor := fd }, encodeFileHeader identity⟩).2 := by
  have continued := continued_runAppends calls
    ⟨{ tape with descriptor := fd }, encodeFileHeader identity⟩
  generalize runAppends calls _ = run at continued ⊢
  obtain ⟨results, after⟩ := run
  obtain ⟨⟨torn, file, tail⟩, whole, sequence, appended, dropped⟩ := continued
  dsimp only at file tail whole sequence appended dropped ⊢
  have all := List.count_false_add_count_true results
  have body : after.file.drop FileHeaderBytes =
      encoded (tape.sequence + 1) (accepted calls results) ++ torn := by
    rw [file, List.append_assoc, ← length_encodeFileHeader identity, List.drop_left]
  refine ⟨⟨torn, file, tail, ?_⟩, ?_, sequence, ?_, ?_⟩
  · rw [body, iter_records_encoded whole _ (frames_of_torn tail)]
  · rw [file, List.append_assoc, ← length_encodeFileHeader identity, List.take_left,
      read_file_header_encode]
  · rw [appended, dropped, add_counts, Nat.add_comm, all]
  · intro few
    rw [appended, dropped, UInt64.toNat_add, UInt64.toNat_add, UInt64.toNat_ofNat',
      UInt64.toNat_ofNat']
    simp only [UInt64.size] at few
    omega

end Tapes

/-- Every sequence of appends to a tape that has been adopted, whatever the system answers. -/
theorem tapeAgrees : TapeAgrees where
  recorded _ _ _ _ calls _ adopted := by
    rw [adopt_ok adopted]
    exact recorded_runAppends calls
  tears call recording after admitted failed := by
    rcases append_cases call recording with ⟨refused, -⟩ | ⟨-, returned | ⟨torn, -, -, stopped⟩⟩
    · exact absurd refused admitted
    · rw [returned] at failed
      cases failed
    · rcases stopped with waiting | ⟨errno, torn⟩
      · rw [waiting] at failed
        cases failed
      · rw [torn] at failed
        cases failed
        exact descriptor_close _
  stops calls recording closed := by
    rw [runAppends_closed calls closed]
    refine ⟨rfl, fun appended => ?_⟩
    exact Bool.false_ne_true (List.eq_of_mem_replicate appended).symm
  returns calls recording answered := by
    induction calls generalizing recording with
    | nil => rfl
    | cons call calls ih =>
      have returned := @append_returns call recording (answered call List.mem_cons_self)
      obtain ⟨appended, result⟩ := Option.ne_none_iff_exists'.mp returned
      rw [runAppends_cons (Prod.ext result rfl : append call recording = (some appended, _)),
        List.length_cons, List.length_cons,
        ih _ fun other later => answered other (List.mem_cons_of_mem _ later)]

end GemSim.Bridge.HostGPUBridgeTape
