import RemoteCrowd.Proofs.Outcome
import RemoteCrowd.Reply.Packet

/-!
What cannot be written. A writer refuses what is too long or too many for the field that counts
it, and text that is not ASCII, and nothing else.
-/

namespace RemoteCrowd

open Wire

/-- The error is about too many elements. -/
def Error.IsCapacity (error : Error) : Prop := ∃ what length max, error = capacity what length max

/-- The error is about the characters of a text. -/
def Error.IsEncoding (error : Error) : Prop := ∃ fault, error = encoding fault

/-- The error is one of a writer. -/
def Error.IsUnwritable (error : Error) : Prop := error.IsCapacity ∨ error.IsEncoding

theorem Error.IsCapacity.not_isEncoding {error : Error} (capacity : error.IsCapacity) :
    ¬ error.IsEncoding := by
  intro encoding
  obtain ⟨_, _, _, rfl⟩ := capacity
  obtain ⟨_, same⟩ := encoding
  cases same

theorem failsOnly_writeLength (length : Nat) : FailsOnly Error.IsCapacity (writeLength length) := by
  unfold writeLength
  split
  · exact .ok _
  · exact .error ⟨_, _, _, rfl⟩

theorem failsOnly_fieldLength (length : Nat) : FailsOnly Error.IsCapacity (fieldLength length) := by
  unfold fieldLength
  split
  · exact .ok _
  · exact .error ⟨_, _, _, rfl⟩

theorem failsOnly_checkCount (what : String) (count : Nat) :
    FailsOnly Error.IsCapacity (checkCount what count) := by
  unfold checkCount
  split
  · exact .ok _
  · exact .error ⟨_, _, _, rfl⟩

theorem failsOnly_checkAscii (text : String) : FailsOnly Error.IsEncoding (checkAscii text) := by
  unfold checkAscii
  split
  · exact .ok _
  · exact .error ⟨_, rfl⟩

theorem failsOnly_forM {α : Type} {Cause : Error → Prop} {check : α → Except Error Unit}
    (fails : ∀ item, FailsOnly Cause (check item)) (items : List α) :
    FailsOnly Cause (forM items check) := by
  induction items with
  | nil => exact .ok _
  | cons first rest ih =>
    rw [List.forM_cons]
    exact (fails first).bind fun _ => ih

theorem failsOnly_writeString (text : String) :
    FailsOnly Error.IsUnwritable (writeString text) := by
  unfold writeString
  split
  · exact ((failsOnly_writeLength _).mono fun _ => .inl).bind fun _ => .ok _
  · exact .error (.inr ⟨_, rfl⟩)

theorem Value.failsOnly_check (value : Value) : FailsOnly Error.IsUnwritable value.check := by
  have count (what : String) (count : Nat) : FailsOnly Error.IsUnwritable (checkCount what count) :=
    (failsOnly_checkCount what count).mono fun _ => .inl
  have ascii (text : String) : FailsOnly Error.IsUnwritable (checkAscii text) :=
    (failsOnly_checkAscii text).mono fun _ => .inr
  cases value with
  | string text => exact ascii text
  | stringList texts =>
    have length : FailsOnly Error.IsUnwritable (fieldLength texts.length) :=
      (failsOnly_fieldLength _).mono fun _ => .inl
    exact (length.bind fun _ => .ok _).bind fun _ => failsOnly_forM ascii texts
  | roadMapPosition road position lane => exact ascii road
  | polygon points => exact count _ _
  | signalPhases phases =>
    have phase (phase : SignalPhase) : FailsOnly Error.IsUnwritable phase.check :=
      (ascii _).bind fun _ => ascii _
    exact (count _ _).bind fun _ => failsOnly_forM phase phases
  | _ => exact .ok _

theorem Value.failsOnly_write (value : Value) : FailsOnly Error.IsUnwritable value.write :=
  (failsOnly_check value).bind fun _ => .ok _

theorem Reply.failsOnly_writePayload (reply : Reply) :
    FailsOnly Error.IsUnwritable reply.writePayload := by
  cases reply with
  | status head => exact .ok none
  | value head responseId variableId element content =>
    exact (failsOnly_writeString element).bind fun _ =>
      (Value.failsOnly_write content).bind fun _ => .ok _
  | version head id text => exact (failsOnly_writeString text).bind fun _ => .ok _
  | simTime head data => exact (Value.failsOnly_write data).bind fun _ => .ok _

theorem Status.failsOnly_write (status : Status) : FailsOnly Error.IsUnwritable status.write :=
  (failsOnly_writeString _).bind fun _ => .ok _

/-- A frame always has a length to count, but that may be too great. -/
theorem failsOnly_writeFrame (body : Bytes) : FailsOnly Error.IsCapacity (writeFrame body) := by
  have field : FailsOnly Error.IsCapacity (writeFrameLength (body.length + 1)) := by
    unfold writeFrameLength
    rw [if_neg (Nat.succ_ne_zero _)]
    split
    · exact .ok _
    · exact (failsOnly_writeLength _).bind fun _ => .ok _
  exact field.bind fun _ => .ok _

end RemoteCrowd
