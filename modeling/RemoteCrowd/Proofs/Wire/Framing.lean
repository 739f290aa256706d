import RemoteCrowd.Proofs.Wire.Counted
import RemoteCrowd.Wire.Frame

/-!
Frames on the wire. Bodies are read from exactly the byte strings that are frames around
them, in the short or in the extended form, and writing a body gives one of these.
-/

namespace RemoteCrowd.Wire

/-- The field announces a body of the given length, in the short or in the extended form. -/
def IsLengthField (field : Bytes) (length : Nat) : Prop :=
  (length + 1 ≤ maxShortFrame ∧ field = [UInt8.ofNat (length + 1)]) ∨
    (length + extendedField ≤ maxLength ∧ field = 0 :: bigEndian 4 (length + extendedField))

private theorem accepts_extendedField :
    Accepts (do
      let extended ← readInt32
      if extended < 5 then throw (.framing (.extendedLength extended))
      else return extended.toInt.toNat - extendedField) fun length field =>
      length + extendedField ≤ maxLength ∧ field = bigEndian 4 (length + extendedField) := by
  refine (accepts_int32.bind fun extended => Accepts.unless (extended < 5)
    (.pure (extended.toInt.toNat - extendedField))).congr ?_
  intro length field
  have five : (5 : Int32).toInt = 5 := rfl
  constructor
  · intro formed
    obtain ⟨extended, _, _, rfl, ⟨large, rfl, rfl⟩, rfl⟩ := formed
    rw [Int32.lt_iff_toInt_lt, five] at large
    obtain ⟨n, short, rfl⟩ := exists_ofNat_of_nonneg (by omega : 0 ≤ extended.toInt)
    rw [toInt_ofNat short] at large ⊢
    have same : (n : Int).toNat - extendedField + extendedField = n := by
      unfold extendedField
      omega
    rw [same, writeInt32_ofNat short, List.append_nil]
    exact ⟨short, rfl⟩
  · intro formed
    obtain ⟨short, rfl⟩ := formed
    refine ⟨Int32.ofNat (length + extendedField), _, [], rfl, ⟨?_, ?_, rfl⟩, ?_⟩
    · rw [Int32.lt_iff_toInt_lt, five, toInt_ofNat short]
      unfold extendedField
      omega
    · rw [toInt_ofNat short, Int.toNat_natCast, Nat.add_sub_cancel]
    · rw [writeInt32_ofNat short, List.append_nil]

/-- A length field gives the length of the body behind it, and counts itself too. -/
theorem accepts_frameLength : Accepts readFrameLength fun length field =>
    IsLengthField field length := by
  refine (accepts_uint8.bind fun short => Accepts.choose (short ≠ 0) (.pure (short.toNat - 1))
    accepts_extendedField).congr ?_
  intro length field
  constructor
  · intro formed
    obtain ⟨short, _, _, rfl, ⟨counted, rfl, rfl⟩ | ⟨zero, fits, rfl⟩, rfl⟩ := formed
    · have positive : short.toNat ≠ 0 := fun zero => counted (UInt8.toNat_inj.mp zero)
      have same : short.toNat - 1 + 1 = short.toNat := by omega
      left
      rw [same, UInt8.ofNat_toNat]
      exact ⟨Nat.le_of_lt_succ short.toNat_lt, rfl⟩
    · obtain rfl := Decidable.not_not.mp zero
      exact .inr ⟨fits, rfl⟩
  · intro formed
    rcases formed with ⟨short, rfl⟩ | ⟨fits, rfl⟩
    · unfold maxShortFrame at short
      have same : (UInt8.ofNat (length + 1)).toNat = length + 1 := by
        rw [UInt8.toNat_ofNat', Nat.mod_eq_of_lt (by omega)]
      refine ⟨UInt8.ofNat (length + 1), _, [], rfl, .inl ⟨?_, ?_, rfl⟩, rfl⟩
      · intro zero
        rw [zero] at same
        cases same
      · rw [same, Nat.add_sub_cancel]
    · exact ⟨0, _, _, rfl, .inr ⟨fun counted => counted rfl, fits, rfl⟩, rfl⟩

theorem isFrame_iff {bytes body : Bytes} :
    IsFrame bytes body ↔ ∃ field, IsLengthField field body.length ∧ bytes = field ++ body := by
  constructor
  · intro frame
    rcases frame with ⟨short, rfl⟩ | ⟨fits, rfl⟩
    · exact ⟨_, .inl ⟨short, rfl⟩, rfl⟩
    · exact ⟨_, .inr ⟨fits, rfl⟩, rfl⟩
  · intro announced
    obtain ⟨field, ⟨short, rfl⟩ | ⟨fits, rfl⟩, rfl⟩ := announced
    · exact .inl ⟨short, rfl⟩
    · exact .inr ⟨fits, rfl⟩

/-- The next body is read from exactly the frames around it. -/
theorem accepts_frameBody : Accepts readFrameBody fun body front => IsFrame front body := by
  refine (accepts_frameLength.bind fun length => accepts_take length "framed command").congr ?_
  intro body front
  rw [isFrame_iff]
  constructor
  · intro formed
    obtain ⟨length, field, _, announced, ⟨rfl, rfl⟩, rfl⟩ := formed
    exact ⟨field, announced, rfl⟩
  · intro framed
    obtain ⟨field, announced, rfl⟩ := framed
    exact ⟨body.length, field, body, announced, ⟨rfl, rfl⟩, rfl⟩

theorem frameBody_eq_ok_iff {body : Bytes} {frame : Frame} :
    Frame.ofBody body = .ok frame ↔ body = frame.body := by
  cases body with
  | nil => simp [Frame.ofBody, Frame.body]
  | cons opcode payload =>
    rw [Frame.ofBody, Except.ok.injEq, Frame.body, List.cons.injEq]
    constructor
    · intro same
      subst same
      exact ⟨rfl, rfl⟩
    · intro same
      obtain ⟨rfl, rfl⟩ := same
      rfl

theorem accepts_frame : Accepts readFrame fun frame front => IsFrame front frame.body := by
  refine (accepts_frameBody.bind fun body => accepts_orThrow (Frame.ofBody body)).congr ?_
  intro frame front
  constructor
  · intro formed
    obtain ⟨body, _, _, framed, ⟨split, rfl⟩, rfl⟩ := formed
    obtain rfl := frameBody_eq_ok_iff.mp split
    rw [List.append_nil]
    exact framed
  · intro framed
    exact ⟨frame.body, front, [], framed, ⟨frameBody_eq_ok_iff.mpr rfl, rfl⟩,
      (List.append_nil _).symm⟩

/-- A body is written in the short form where its frame has at most 255 bytes, and in the
extended form above that, unless the length does not fit its field. -/
theorem writeFrame_eq_ok_iff {body front : Bytes} :
    writeFrame body = .ok front ↔
      frameSize body.length ≤ maxLength ∧
        front = if body.length + 1 ≤ maxShortFrame then UInt8.ofNat (body.length + 1) :: body
          else 0 :: bigEndian 4 (body.length + extendedField) ++ body := by
  rw [writeFrame, bind_eq_ok_iff, frameSize, writeFrameLength, if_neg (Nat.succ_ne_zero _)]
  by_cases short : body.length + 1 ≤ maxShortFrame
  · have fits : body.length + 1 ≤ maxLength := Nat.le_trans short (by decide)
    simp only [short, fits, ↓reduceIte, true_and, pure_eq_ok_iff, Except.ok.injEq,
      exists_eq_left', List.singleton_append]
    exact eq_comm
  · simp only [short, ↓reduceIte, bind_eq_ok_iff, writeLength_eq_ok_iff, pure_eq_ok_iff]
    constructor
    · intro written
      obtain ⟨_, ⟨_, ⟨fits, rfl⟩, rfl⟩, rfl⟩ := written
      exact ⟨fits, rfl⟩
    · intro written
      obtain ⟨fits, rfl⟩ := written
      exact ⟨_, ⟨_, ⟨fits, rfl⟩, rfl⟩, rfl⟩

/-- What can be put into a frame fits a length field itself. -/
theorem length_le_of_writeFrame_eq_ok {body front : Bytes} (written : writeFrame body = .ok front) :
    body.length ≤ maxLength := by
  have fits := (writeFrame_eq_ok_iff.mp written).1
  unfold frameSize extendedField at fits
  split at fits <;> omega

theorem isFrame_of_writeFrame_eq_ok {body front : Bytes} (written : writeFrame body = .ok front) :
    IsFrame front body := by
  obtain ⟨fits, rfl⟩ := writeFrame_eq_ok_iff.mp written
  unfold frameSize at fits
  split at fits
  · next short =>
    rw [if_pos short]
    exact .inl ⟨short, rfl⟩
  · next long =>
    rw [if_neg long]
    exact .inr ⟨fits, rfl⟩

theorem run_readFrame_of_writeFrame {body front rest : Bytes} {frame : Frame}
    (written : writeFrame body = .ok front) (same : body = frame.body) :
    readFrame.run (front ++ rest) = .ok frame rest := by
  subst same
  exact (accepts_frame ..).mpr ⟨front, isFrame_of_writeFrame_eq_ok written, rfl⟩

theorem length_of_writeFrame_eq_ok {body front : Bytes} (written : writeFrame body = .ok front) :
    front.length = frameSize body.length := by
  obtain ⟨-, rfl⟩ := writeFrame_eq_ok_iff.mp written
  unfold frameSize
  split
  · rfl
  · simp [extendedField]
    omega

theorem ne_nil_of_writeFrame_eq_ok {body front : Bytes} (written : writeFrame body = .ok front) :
    front ≠ [] := by
  have length := length_of_writeFrame_eq_ok written
  apply List.ne_nil_of_length_pos
  unfold frameSize extendedField at length
  split at length <;> omega

/-- A body whose frame fits a length field can be written. -/
theorem exists_writeFrame {body : Bytes} (fits : frameSize body.length ≤ maxLength) :
    ∃ front, writeFrame body = .ok front ∧ front.length = frameSize body.length := by
  have written := writeFrame_eq_ok_iff.mpr ⟨fits, rfl⟩
  exact ⟨_, written, length_of_writeFrame_eq_ok written⟩

end RemoteCrowd.Wire
