import RemoteCrowd.Proofs.Wire.Splitting

/-!
Arbitrary bytes as frames. Every byte string is, in one way, whole frames one after another and a
tail that begins with none. Splitting gives these frames, and tells what is wrong with the tail if
anything is left.
-/

namespace RemoteCrowd.Wire

/-- The bytes begin with the whole frame of a command. -/
def BeginsWithFrame (bytes : Bytes) : Prop :=
  ∃ (front : Bytes) (frame : Frame) (rest : Bytes), IsFrame front frame.body ∧ bytes = front ++ rest

/-- Why no frame begins here, and the fault that is told for it. -/
inductive Undelimited : Bytes → FramingFault → Prop where
  /-- The length field is cut off. -/
  | cutField {word : Bytes} (short : word.length < 4) :
    Undelimited (0 :: word) (.truncated "integer" 4 word.length)
  /-- The length does not even count its own field. -/
  | uncounted {extended : Int32} {rest : Bytes} (small : extended < 5) :
    Undelimited (0 :: (writeInt32 extended ++ rest)) (.extendedLength extended)
  /-- More bytes are announced than there are. -/
  | cutBody {field rest : Bytes} {length : Nat} (announced : IsLengthField field length)
    (short : rest.length < length) :
    Undelimited (field ++ rest) (.truncated "framed command" length rest.length)
  /-- An empty body is announced. -/
  | noOpcode {field rest : Bytes} (announced : IsLengthField field 0) :
    Undelimited (field ++ rest) .missingOpcode

theorem beginsWithFrame_iff {bytes : Bytes} :
    BeginsWithFrame bytes ↔ ∃ frame rest, readFrame.run bytes = .ok frame rest := by
  constructor
  · intro begins
    obtain ⟨front, frame, rest, form, same⟩ := begins
    exact ⟨frame, rest, (accepts_frame ..).mpr ⟨front, form, same⟩⟩
  · intro read
    obtain ⟨frame, rest, read⟩ := read
    obtain ⟨front, form, same⟩ := (accepts_frame ..).mp read
    exact ⟨front, frame, rest, form, same⟩

theorem run_readFrameLength_of_isLengthField {field : Bytes} {length : Nat}
    (announced : IsLengthField field length) (rest : Bytes) :
    readFrameLength.run (field ++ rest) = .ok length rest :=
  (accepts_frameLength ..).mpr ⟨field, announced, rfl⟩

/-- Behind a whole length field stands a frame, or the bytes for it are missing, or it is to
be empty. -/
theorem begins_or_undelimited_of_isLengthField {field : Bytes} {length : Nat}
    (announced : IsLengthField field length) (rest : Bytes) :
    BeginsWithFrame (field ++ rest) ∨ ∃ fault, Undelimited (field ++ rest) fault := by
  by_cases short : rest.length < length
  · exact .inr ⟨_, .cutBody announced short⟩
  · cases length with
    | zero => exact .inr ⟨_, .noOpcode announced⟩
    | succ size =>
      left
      have split : rest.take (size + 1) ≠ [] := by
        apply List.ne_nil_of_length_pos
        rw [List.length_take]
        omega
      obtain ⟨opcode, payload, body⟩ := List.exists_cons_of_ne_nil split
      refine ⟨field ++ rest.take (size + 1), ⟨opcode, payload⟩, rest.drop (size + 1), ?_, ?_⟩
      · refine isFrame_iff.mpr ⟨field, ?_, by rw [body]; rfl⟩
        have length : (Frame.body ⟨opcode, payload⟩).length = size + 1 := by
          show (opcode :: payload).length = size + 1
          rw [← body, List.length_take]
          omega
        rw [length]
        exact announced
      · rw [List.append_assoc, List.take_append_drop]

theorem run_readFrameLength_of_ne {first : UInt8} (counted : first ≠ 0) (rest : Bytes) :
    readFrameLength.run (first :: rest) = .ok (first.toNat - 1) rest := by
  have byte : readUInt8.run (first :: rest) = .ok first rest := rfl
  rw [readFrameLength, EStateM.run_bind, byte]
  simp only [counted, ↓reduceIte, ne_eq, not_false_eq_true]
  rfl

theorem run_readFrameLength_zero (word : Bytes) :
    readFrameLength.run (0 :: word) =
      match readInt32.run word with
      | .ok extended rest =>
        if extended < 5 then .error (.framing (.extendedLength extended)) rest
        else .ok (extended.toInt.toNat - extendedField) rest
      | .error cause rest => .error cause rest := by
  have byte : readUInt8.run (0 :: word) = .ok 0 word := rfl
  rw [readFrameLength, EStateM.run_bind, byte]
  simp only [ne_eq, not_true_eq_false, ↓reduceIte]
  rw [EStateM.run_bind]
  cases readInt32.run word with
  | ok extended rest =>
    simp only
    split <;> rfl
  | error cause rest => rfl

theorem undelimited_of_readFrameLength {bytes rest : Bytes} {cause : Error} (begun : bytes ≠ [])
    (failed : readFrameLength.run bytes = .error cause rest) :
    ∃ fault, Undelimited bytes fault := by
  obtain ⟨first, word, rfl⟩ := List.exists_cons_of_ne_nil begun
  by_cases counted : first ≠ 0
  · rw [run_readFrameLength_of_ne counted] at failed
    cases failed
  · obtain rfl := Decidable.not_not.mp counted
    by_cases short : word.length < 4
    · exact ⟨_, .cutField short⟩
    · obtain ⟨extended, after, rfl⟩ := exists_eq_writeInt32_append short
      by_cases small : extended < 5
      · exact ⟨_, .uncounted small⟩
      · rw [run_readFrameLength_zero, run_readInt32_append] at failed
        simp only [small, ↓reduceIte] at failed
        cases failed

/-- Where no frame begins, one of the four faults is found. -/
theorem begins_or_undelimited {bytes : Bytes} (begun : bytes ≠ []) :
    BeginsWithFrame bytes ∨ ∃ fault, Undelimited bytes fault := by
  cases read : readFrameLength.run bytes with
  | ok length rest =>
    obtain ⟨field, announced, rfl⟩ := (accepts_frameLength ..).mp read
    exact begins_or_undelimited_of_isLengthField announced rest
  | error cause rest => exact .inr (undelimited_of_readFrameLength begun read)

theorem Undelimited.ne_nil {bytes : Bytes} {fault : FramingFault}
    (undelimited : Undelimited bytes fault) : bytes ≠ [] := by
  have counted {field : Bytes} {length : Nat} (announced : IsLengthField field length) :
      field ≠ [] := by
    rcases announced with ⟨-, rfl⟩ | ⟨-, rfl⟩ <;> exact List.cons_ne_nil _ _
  cases undelimited with
  | cutField | uncounted => exact List.cons_ne_nil _ _
  | cutBody announced | noOpcode announced =>
    exact List.append_ne_nil_of_left_ne_nil (counted announced) _

theorem Undelimited.run_readFrame {bytes : Bytes} {fault : FramingFault}
    (undelimited : Undelimited bytes fault) :
    ∃ rest, readFrame.run bytes = .error (.framing fault) rest := by
  rw [readFrame, readFrameBody, EStateM.run_bind, EStateM.run_bind]
  cases undelimited with
  | cutField short =>
    rw [run_readFrameLength_zero, run_readInt32_of_short short]
    exact ⟨_, rfl⟩
  | uncounted small =>
    rw [run_readFrameLength_zero, run_readInt32_append]
    simp only [small, ↓reduceIte]
    exact ⟨_, rfl⟩
  | @cutBody field rest length announced short =>
    have refused : (take length "framed command").run rest =
        .error (.framing (.truncated "framed command" length rest.length)) rest :=
      if_neg (Nat.not_le.mpr short)
    rw [run_readFrameLength_of_isLengthField announced]
    simp only [refused]
    exact ⟨_, rfl⟩
  | @noOpcode field rest announced =>
    have empty : (take 0 "framed command").run rest = .ok [] rest := rfl
    rw [run_readFrameLength_of_isLengthField announced]
    simp only [empty]
    exact ⟨_, rfl⟩

theorem not_beginsWithFrame_iff {bytes : Bytes} :
    ¬BeginsWithFrame bytes ↔ bytes = [] ∨ ∃ fault, Undelimited bytes fault := by
  rw [beginsWithFrame_iff]
  constructor
  · intro none
    by_cases empty : bytes = []
    · exact .inl empty
    · have begins := begins_or_undelimited empty
      rw [beginsWithFrame_iff] at begins
      exact .inr (begins.resolve_left none)
  · intro bare read
    obtain ⟨frame, rest, read⟩ := read
    obtain rfl | ⟨fault, undelimited⟩ := bare
    · cases readFrame_shrinks read
    · obtain ⟨rest', failed⟩ := undelimited.run_readFrame
      cases read.symm.trans failed

/-- The bytes are whole frames, one after another, and a tail that begins with none. Each frame
comes with the bytes that it stands in. -/
structure Cut (bytes : Bytes) (pieces : List (Bytes × Frame)) (tail : Bytes) : Prop where
  forms : ∀ piece ∈ pieces, IsFrame piece.1 piece.2.body
  whole : bytes = (pieces.map Prod.fst).flatten ++ tail
  last : ¬BeginsWithFrame tail

theorem splitFrames_of_readFrame_error {bytes rest : Bytes} {cause : Error} (begun : bytes ≠ [])
    (failed : readFrame.run bytes = .error cause rest) : splitFrames bytes = ([], some cause) := by
  have begun' : bytes.isEmpty = false := List.isEmpty_eq_false_iff.mpr begun
  rw [splitFrames, begun', if_neg Bool.false_ne_true]
  split
  · next failed' =>
    obtain ⟨rfl, -⟩ := EStateM.Result.error.inj (failed.symm.trans failed')
    rfl
  · next read => cases failed.symm.trans read

/-- Everything that splitting gives: the frames, and the fault behind them if there is one. -/
def splitItems (bytes : Bytes) : List (Except Error Frame) :=
  (splitFrames bytes).1.map .ok ++ (splitFrames bytes).2.toList.map .error

theorem exists_cut (bytes : Bytes) : ∃ pieces tail, Cut bytes pieces tail := by
  by_cases begins : BeginsWithFrame bytes
  · obtain ⟨frame, rest, read⟩ := beginsWithFrame_iff.mp begins
    have shorter := readFrame_shrinks read
    obtain ⟨front, form, rfl⟩ := (accepts_frame ..).mp read
    obtain ⟨pieces, tail, cut⟩ := exists_cut rest
    refine ⟨(front, frame) :: pieces, tail, ⟨List.forall_mem_cons.mpr ⟨form, cut.forms⟩, ?_,
      cut.last⟩⟩
    rw [List.map_cons, List.flatten_cons, List.append_assoc, ← cut.whole]
  · exact ⟨[], bytes, ⟨List.forall_mem_nil _, rfl, begins⟩⟩
termination_by bytes.length

/-- Frames in front are split off one by one, whatever stands behind them. -/
theorem splitFrames_of_forms {pieces : List (Bytes × Frame)}
    (forms : ∀ piece ∈ pieces, IsFrame piece.1 piece.2.body) (later : Bytes) :
    splitFrames ((pieces.map Prod.fst).flatten ++ later) =
      (pieces.map Prod.snd ++ (splitFrames later).1, (splitFrames later).2) := by
  induction pieces with
  | nil => rfl
  | cons piece rest ih =>
    obtain ⟨form, forms'⟩ := List.forall_mem_cons.mp forms
    have read : readFrame.run (piece.1 ++ ((rest.map Prod.fst).flatten ++ later)) =
        .ok piece.2 _ := (accepts_frame ..).mpr ⟨piece.1, form, rfl⟩
    rw [List.map_cons, List.flatten_cons, List.append_assoc, splitFrames_of_readFrame read,
      ih forms']
    rfl

theorem splitItems_of_forms {pieces : List (Bytes × Frame)}
    (forms : ∀ piece ∈ pieces, IsFrame piece.1 piece.2.body) (later : Bytes) :
    splitItems ((pieces.map Prod.fst).flatten ++ later) =
      (pieces.map Prod.snd).map .ok ++ splitItems later := by
  rw [splitItems, splitFrames_of_forms forms, splitItems, List.map_append, List.append_assoc]

namespace Cut

variable {bytes tail : Bytes} {piece : Bytes × Frame} {pieces : List (Bytes × Frame)}

/-- The first piece is the first frame read. -/
theorem read_first (cut : Cut bytes (piece :: pieces) tail) :
    ∃ rest, bytes = piece.1 ++ rest ∧ readFrame.run bytes = .ok piece.2 rest ∧
      Cut rest pieces tail := by
  obtain ⟨form, forms⟩ := List.forall_mem_cons.mp cut.forms
  have whole := cut.whole
  rw [List.map_cons, List.flatten_cons, List.append_assoc] at whole
  exact ⟨_, whole, (accepts_frame ..).mpr ⟨piece.1, form, whole⟩, ⟨forms, rfl, cut.last⟩⟩

theorem not_beginsWithFrame (cut : Cut bytes [] tail) : bytes = tail ∧ ¬BeginsWithFrame bytes := by
  obtain rfl : bytes = tail := cut.whole
  exact ⟨rfl, cut.last⟩

/-- Bytes are cut in one way only. -/
theorem unique (cut : Cut bytes pieces tail) {tail' : Bytes} {pieces' : List (Bytes × Frame)}
    (cut' : Cut bytes pieces' tail') : pieces' = pieces ∧ tail' = tail := by
  induction pieces generalizing bytes pieces' with
  | nil =>
    obtain ⟨rfl, none⟩ := cut.not_beginsWithFrame
    cases pieces' with
    | nil => exact ⟨rfl, cut'.not_beginsWithFrame.1.symm⟩
    | cons piece' rest' =>
      obtain ⟨rest, -, read, -⟩ := cut'.read_first
      exact absurd (beginsWithFrame_iff.mpr ⟨_, rest, read⟩) none
  | cons piece pieces ih =>
    obtain ⟨rest, same, read, later⟩ := cut.read_first
    cases pieces' with
    | nil =>
      exact absurd (beginsWithFrame_iff.mpr ⟨_, rest, read⟩) cut'.not_beginsWithFrame.2
    | cons piece' pieces' =>
      obtain ⟨rest', same', read', later'⟩ := cut'.read_first
      obtain ⟨frame, rfl⟩ := EStateM.Result.ok.inj (read.symm.trans read')
      have front : piece.1 = piece'.1 := List.append_cancel_right (same.symm.trans same')
      obtain ⟨rfl, tails⟩ := ih later later'
      exact ⟨congrArg (· :: pieces') (Prod.ext front frame).symm, tails⟩

/-- The fault in the tail, where there is one. -/
theorem exists_fault (cut : Cut bytes pieces tail) :
    ∃ fault?, splitFrames bytes = (pieces.map Prod.snd, fault?.map .framing) ∧
      (tail = [] ↔ fault? = none) ∧ ∀ fault, fault? = some fault → Undelimited tail fault := by
  have split := splitFrames_of_forms cut.forms tail
  rw [← cut.whole] at split
  obtain rfl | ⟨fault, undelimited⟩ := not_beginsWithFrame_iff.mp cut.last
  · refine ⟨none, ?_, ⟨fun _ => rfl, fun _ => rfl⟩, nofun⟩
    rw [split, splitFrames_nil, List.append_nil]
    rfl
  · have begun := undelimited.ne_nil
    obtain ⟨rest, failed⟩ := undelimited.run_readFrame
    refine ⟨some fault, ?_, ⟨fun empty => absurd empty begun, nofun⟩, ?_⟩
    · rw [split, splitFrames_of_readFrame_error begun failed, List.append_nil]
      rfl
    · intro fault' same
      obtain rfl := Option.some.inj same
      exact undelimited

end Cut

namespace Splitting

theorem answer_of_ended {splitting : Splitting}
    (ended : (splitting.failed || splitting.rest.isEmpty) = true) (call : Nat) :
    splitting.answer call = none := by
  have stays : splitting.next = (none, splitting) := by rw [next, if_pos ended]
  induction call with
  | zero => rw [answer, stays]
  | succ call ih => rw [answer, stays, ih]

theorem next_of_read {bytes rest : Bytes} {frame : Frame} (begun : ¬bytes.isEmpty = true)
    (read : readFrame.run bytes = .ok frame rest) :
    next ⟨bytes, false⟩ = (some (.ok frame), ⟨rest, false⟩) := by
  rw [next, Bool.false_or, if_neg begun, read]

theorem next_of_failed {bytes rest : Bytes} {cause : Error} (begun : ¬bytes.isEmpty = true)
    (failed : readFrame.run bytes = .error cause rest) :
    next ⟨bytes, false⟩ = (some (.error cause), ⟨rest, true⟩) := by
  rw [next, Bool.false_or, if_neg begun, failed]

/-- The calls get the frames in their order, then the fault if there is one, and then nothing. -/
theorem answer_eq (bytes : Bytes) (call : Nat) :
    answer call ⟨bytes, false⟩ = (splitItems bytes)[call]? := by
  induction bytes using splitFrames.induct generalizing call with
  | case1 bytes empty =>
    obtain rfl := List.isEmpty_iff.mp empty
    rw [answer_of_ended rfl, splitItems, splitFrames_nil]
    rfl
  | case2 bytes begun cause rest failed =>
    have split := splitFrames_of_readFrame_error (mt List.isEmpty_iff.mpr begun) failed
    rw [splitItems, split]
    cases call with
    | zero => rw [answer, next_of_failed begun failed]; rfl
    | succ call => rw [answer, next_of_failed begun failed, answer_of_ended rfl]; rfl
  | case3 bytes begun frame rest read ih =>
    rw [splitItems, splitFrames_of_readFrame read]
    cases call with
    | zero => rw [answer, next_of_read begun read]; rfl
    | succ call => rw [answer, next_of_read begun read, ih]; rfl

end Splitting

/-- Every byte string is cut in one way into whole frames and a tail in which no frame begins.
Splitting on demand gives the commands in these frames, then the fault in the tail if there is one,
and then nothing for ever. What stands in place of the tail has no part in the frames in front of
it. All frames are given at once just where no fault is found. -/
theorem split_of_bytes (bytes : Bytes) :
    ∃ pieces tail fault?, Cut bytes pieces tail ∧
      (∀ pieces' tail', Cut bytes pieces' tail' → pieces' = pieces ∧ tail' = tail) ∧
      (∀ call, (Splitting.mk bytes false).answer call =
        ((pieces.map Prod.snd).map .ok ++ (fault?.map .framing).toList.map .error)[call]?) ∧
      (tail = [] ↔ fault? = none) ∧
      (∀ fault, fault? = some fault → Undelimited tail fault) ∧
      (∀ later call, (Splitting.mk ((pieces.map Prod.fst).flatten ++ later) false).answer call =
        ((pieces.map Prod.snd).map .ok ++ splitItems later)[call]?) ∧
      ∀ frames, readFrames bytes = .ok frames ↔ fault? = none ∧ frames = pieces.map Prod.snd := by
  obtain ⟨pieces, tail, cut⟩ := exists_cut bytes
  obtain ⟨fault?, split, complete, undelimited⟩ := cut.exists_fault
  refine ⟨pieces, tail, fault?, cut, fun _ _ => cut.unique, ?_, complete, undelimited, ?_, ?_⟩
  · intro call
    rw [Splitting.answer_eq, splitItems, split]
  · intro later call
    rw [Splitting.answer_eq, splitItems_of_forms cut.forms]
  · intro frames
    rw [readFrames, split]
    cases fault? with
    | none => simp [eq_comm]
    | some fault => simp

end RemoteCrowd.Wire
