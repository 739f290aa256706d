import RemoteCrowd.Proofs.Wire.Framing

/-!
Frames one after another. A whole frame in front is split off before anything behind it is
looked at, so byte strings put one after another are split one after the other. Bodies that
were written are split off as they were, in the short and in the extended form.
-/

namespace RemoteCrowd.Wire

@[simp] theorem splitFrames_nil : splitFrames [] = ([], none) := by
  rw [splitFrames]
  rfl

theorem splitFrames_of_readFrame {bytes rest : Bytes} {frame : Frame}
    (read : readFrame.run bytes = .ok frame rest) :
    splitFrames bytes = (frame :: (splitFrames rest).1, (splitFrames rest).2) := by
  have shorter := readFrame_shrinks read
  have begun : bytes.isEmpty = false := by
    cases bytes with
    | nil => cases shorter
    | cons first later => rfl
  rw [splitFrames, begun, if_neg Bool.false_ne_true]
  split
  · next failed => cases read.symm.trans failed
  · next again =>
    obtain ⟨rfl, rfl⟩ := EStateM.Result.ok.inj (read.symm.trans again)
    rfl

/-- What stands behind a frame has no part in reading it. -/
theorem run_readFrame_append {bytes rest : Bytes} {frame : Frame}
    (read : readFrame.run bytes = .ok frame rest) (later : Bytes) :
    readFrame.run (bytes ++ later) = .ok frame (rest ++ later) := by
  obtain ⟨front, form, rfl⟩ := (accepts_frame ..).mp read
  exact (accepts_frame ..).mpr ⟨front, form, List.append_assoc ..⟩

/-- Bytes in which all frames are whole are split as if nothing stood behind them. -/
theorem splitFrames_append {front : Bytes} (whole : (splitFrames front).2 = none) (later : Bytes) :
    splitFrames (front ++ later) =
      ((splitFrames front).1 ++ (splitFrames later).1, (splitFrames later).2) := by
  induction front using splitFrames.induct with
  | case1 bytes empty =>
    obtain rfl := List.isEmpty_iff.mp empty
    simp
  | case2 bytes begun cause rest failed =>
    rw [splitFrames, if_neg begun] at whole
    split at whole
    · cases whole
    · next read => cases failed.symm.trans read
  | case3 bytes begun frame rest read ih =>
    rw [splitFrames_of_readFrame read] at whole ⊢
    rw [splitFrames_of_readFrame (run_readFrame_append read later), ih whole]
    rfl

theorem splitFrames_of_writeFrame {front : Bytes} (frame : Frame)
    (written : writeFrame frame.body = .ok front) (rest : Bytes) :
    splitFrames (front ++ rest) = (frame :: (splitFrames rest).1, (splitFrames rest).2) :=
  splitFrames_of_readFrame (run_readFrame_of_writeFrame written rfl)

/-- Frames that were written one after another are split off in their order. -/
theorem splitFrames_of_writeMany_frames {bodies : List Bytes} (begun : ∀ body ∈ bodies, body ≠ [])
    {bytes : Bytes} (written : writeMany writeFrame bodies = .ok bytes) :
    ∃ frames, splitFrames bytes = (frames, none) ∧ frames.map Frame.body = bodies := by
  induction bodies generalizing bytes with
  | nil =>
    obtain rfl := Except.ok.inj written
    exact ⟨[], splitFrames_nil, rfl⟩
  | cons body rest ih =>
    obtain ⟨front, tail, writtenFirst, writtenRest, rfl⟩ := writeMany_cons_eq_ok_iff.mp written
    obtain ⟨nonempty, begun'⟩ := List.forall_mem_cons.mp begun
    obtain ⟨opcode, payload, rfl⟩ := List.exists_cons_of_ne_nil nonempty
    obtain ⟨frames, split, bodies⟩ := ih begun' writtenRest
    refine ⟨⟨opcode, payload⟩ :: frames, ?_, ?_⟩
    · rw [splitFrames_of_writeFrame ⟨opcode, payload⟩ writtenFirst, split]
    · rw [List.map_cons, bodies]
      rfl

theorem frameSize_le (length : Nat) : frameSize length ≤ length + extendedField := by
  unfold frameSize extendedField
  split <;> omega

/-- A length field takes one byte for the lengths that fit it. -/
theorem exists_writeFrameLength_byte_iff {length : Nat} (counted : length ≠ 0) :
    (∃ field, writeFrameLength length = .ok [field]) ↔ length ≤ maxShortFrame := by
  rw [writeFrameLength, if_neg counted]
  constructor
  · intro written
    obtain ⟨field, written⟩ := written
    by_cases short : length ≤ maxShortFrame
    · exact short
    · rw [if_neg short] at written
      obtain ⟨word, fits, made⟩ := bind_eq_ok_iff.mp written
      obtain ⟨-, rfl⟩ := writeLength_eq_ok_iff.mp fits
      have size := congrArg List.length (pure_eq_ok_iff.mp made)
      simp at size
  · intro short
    rw [if_pos short]
    exact ⟨_, rfl⟩

theorem exists_writeFrameLength_extended {length : Nat} (long : maxShortFrame < length)
    (fits : length + 4 ≤ maxLength) :
    ∃ field, writeFrameLength length = .ok field ∧ field.length = extendedField := by
  have counted : length ≠ 0 := Nat.ne_zero_of_lt long
  have word := writeLength_eq_ok_iff.mpr ⟨fits, rfl⟩
  refine ⟨0 :: bigEndian 4 (length + 4), ?_, by simp [extendedField]⟩
  rw [writeFrameLength, if_neg counted, if_neg (Nat.not_le.mpr long), word]
  rfl

/-- Bodies with an opcode are written one after another in frames of their sizes, and split off
again as they were. Any body, also an empty one, is read back from its frame, whatever stands
behind it. A length field that does not count itself is refused, and one byte is enough for it
exactly up to the greatest short frame. What is written must fit an extended frame, as do bodies
of up to 2147483642 bytes. -/
theorem split_of_written :
    (∀ bodies : List Bytes,
      (∀ body ∈ bodies, body ≠ [] ∧ body.length + extendedField ≤ maxLength) →
      ∃ bytes frames, writeMany writeFrame bodies = .ok bytes ∧
        bytes.length = (bodies.map fun body => frameSize body.length).sum ∧
        readFrames bytes = .ok frames ∧ frames.map Frame.body = bodies) ∧
    (∀ body : Bytes, body.length + extendedField ≤ maxLength →
      ∃ front, writeFrame body = .ok front ∧
        ∀ later, readFrameBody.run (front ++ later) = .ok body later) ∧
    writeFrameLength 0 = .error (.framing .uncountedLength) ∧
    (∀ length, length ≠ 0 →
      ((∃ field, writeFrameLength length = .ok [field]) ↔ length ≤ maxShortFrame)) ∧
    ∀ length, maxShortFrame < length → length + 4 ≤ maxLength →
      ∃ field, writeFrameLength length = .ok field ∧ field.length = extendedField := by
  have each : ∀ body : Bytes, body.length + extendedField ≤ maxLength →
      ∃ front, writeFrame body = .ok front ∧ front.length = frameSize body.length :=
    fun body fits => exists_writeFrame ((frameSize_le body.length).trans fits)
  refine ⟨?_, ?_, rfl, ?_, ?_⟩
  · intro bodies fit
    obtain ⟨bytes, written, size⟩ := exists_writeMany fun body member =>
      each body (fit body member).2
    obtain ⟨frames, split, same⟩ :=
      splitFrames_of_writeMany_frames (fun body member => (fit body member).1) written
    refine ⟨bytes, frames, written, size, ?_, same⟩
    rw [readFrames, split]
  · intro body fits
    obtain ⟨front, written, -⟩ := each body fits
    refine ⟨front, written, ?_⟩
    intro later
    exact (accepts_frameBody ..).mpr ⟨front, isFrame_of_writeFrame_eq_ok written, rfl⟩
  · intro length counted
    exact exists_writeFrameLength_byte_iff counted
  · intro length long fits
    exact exists_writeFrameLength_extended long fits

/-- The longest body in a short frame, the shortest in an extended one, and no body at all. -/
theorem split_of_written_boundary :
    let bodies : List Bytes := [List.replicate 254 1, List.replicate 255 2]
    (∃ bytes frames, writeMany writeFrame bodies = .ok bytes ∧ bytes.length = 255 + 260 ∧
      readFrames bytes = .ok frames ∧ frames.map Frame.body = bodies) ∧
      (∃ front, writeFrame [] = .ok front ∧
        ∀ later, readFrameBody.run (front ++ later) = .ok [] later) ∧
      (∃ field, writeFrameLength 255 = .ok [field]) ∧
      ∃ field, writeFrameLength 256 = .ok field ∧ field.length = 5 := by
  intro bodies
  obtain ⟨many, one, -, short, extended⟩ := split_of_written
  refine ⟨?_, one [] (by decide), (short 255 (by decide)).mpr (by decide),
    extended 256 (by decide) (by decide +kernel)⟩
  obtain ⟨bytes, frames, written, size, split, same⟩ := many bodies (by decide +kernel)
  have total : (bodies.map fun body => frameSize body.length).sum = 255 + 260 := by decide +kernel
  exact ⟨bytes, frames, written, size.trans total, split, same⟩

end RemoteCrowd.Wire
