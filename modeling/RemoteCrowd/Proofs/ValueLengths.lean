import RemoteCrowd.Proofs.ValueCodec
import RemoteCrowd.Proofs.Wire.Appending

/-!
The lengths of the texts in a value. Writing a value does not check them: a length that does not
fit its field loses its upper digits, and the value is not read back. Where every length fits,
writing is exact.
-/

namespace RemoteCrowd

open Wire

/-- The texts of a value at every depth, in the order in which they are written. -/
def Value.texts : Value → List String
  | string text => [text]
  | stringList texts => texts
  | roadMapPosition road _ _ => [road]
  | signalPhases phases => phases.flatMap fun phase => [phase.preceding, phase.succeeding]
  | _ => []

/-- Every length of the value fits its field. -/
structure Value.FitsLengths (value : Value) : Prop where
  texts : ∀ text ∈ value.texts, (utf8Bytes text).length ≤ maxLength
  list : ∀ texts, value = .stringList texts → texts.length ≤ maxLength

theorem writeCount_eq (what : String) (count : Nat) :
    writeCount what count = do checkCount what count; return [UInt8.ofNat count] := by
  unfold writeCount checkCount
  split
  · rfl
  · rfl

theorem SignalPhase.write_eq {phase : SignalPhase}
    (preceding : (utf8Bytes phase.preceding).length ≤ maxLength)
    (succeeding : (utf8Bytes phase.succeeding).length ≤ maxLength) :
    phase.write = do phase.check; return phase.unchecked := by
  rw [write, writeString_eq preceding, writeString_eq succeeding, check]
  simp only [bind_assoc, pure_bind]
  rfl

/-- The encoding of a value is what the second pass puts, unless the first pass refuses. -/
theorem Value.writeUntagged_eq {value : Value} (fits : value.FitsLengths) :
    value.writeUntagged = do value.check; return value.unchecked := by
  have short := fits.texts
  cases value with
  | string text => exact writeString_eq (short text (List.mem_singleton.mpr rfl))
  | stringList texts =>
    have few := fits.list texts rfl
    rw [writeUntagged, writeStringList_eq few short, check, fieldLength_of_le few]
    rfl
  | roadMapPosition road position lane =>
    rw [writeUntagged, writeString_eq (short road (List.mem_singleton.mpr rfl)), check]
    simp only [bind_assoc, pure_bind]
    rfl
  | polygon points =>
    rw [writeUntagged, writeCount_eq, check]
    simp only [bind_assoc, pure_bind]
    rfl
  | signalPhases phases =>
    have each : ∀ phase ∈ phases, phase.write = do phase.check; return phase.unchecked := by
      intro phase member
      have part {text : String} (of : text ∈ [phase.preceding, phase.succeeding]) :=
        short text (List.mem_flatMap_of_mem member of)
      exact SignalPhase.write_eq (part (by simp)) (part (by simp))
    rw [writeUntagged, writeCount_eq, writeMany_eq each, check]
    simp only [bind_assoc, pure_bind]
    rfl
  | _ => rfl

theorem length_utf8Bytes_of_writeString {text : String} {front : Bytes}
    (written : writeString text = .ok front) : (utf8Bytes text).length ≤ maxLength := by
  obtain ⟨ascii, short, -⟩ := writeString_eq_ok_iff.mp written
  rwa [length_utf8Bytes_of_isAscii ascii]

theorem Value.fitsLengths_of_writeUntagged {value : Value} {front : Bytes}
    (written : value.writeUntagged = .ok front) : value.FitsLengths := by
  cases value with
  | string text =>
    refine ⟨?_, fun _ same => by cases same⟩
    rintro _ (_ | ⟨_, ⟨⟩⟩)
    exact length_utf8Bytes_of_writeString written
  | stringList texts =>
    obtain ⟨items, few, written, -⟩ := writeStringList_eq_ok_iff.mp written
    refine ⟨?_, ?_⟩
    · intro text member
      obtain ⟨item, written⟩ := exists_of_writeMany written member
      exact length_utf8Bytes_of_writeString written
    · rintro _ ⟨⟩
      exact few
  | roadMapPosition road position lane =>
    simp only [writeUntagged, bind_eq_ok_iff] at written
    obtain ⟨item, written, -⟩ := written
    refine ⟨?_, fun _ same => by cases same⟩
    rintro _ (_ | ⟨_, ⟨⟩⟩)
    exact length_utf8Bytes_of_writeString written
  | signalPhases phases =>
    simp only [writeUntagged, bind_eq_ok_iff] at written
    obtain ⟨_, -, items, written, -⟩ := written
    refine ⟨?_, fun _ same => by cases same⟩
    intro text member
    obtain ⟨phase, member, part⟩ := List.mem_flatMap.mp member
    obtain ⟨item, written⟩ := exists_of_writeMany written member
    obtain ⟨_, _, first, second, -⟩ := SignalPhase.write_eq_ok_iff.mp written
    obtain (rfl | rfl) : text = phase.preceding ∨ text = phase.succeeding := by simpa using part
    · exact length_utf8Bytes_of_writeString first
    · exact length_utf8Bytes_of_writeString second
  | _ => constructor <;> simp [texts]

theorem Value.write_eq_ok_iff {value : Value} {front : Bytes} :
    value.write = .ok front ↔
      value.check = .ok () ∧ front = value.type.tag :: value.unchecked := by
  simp only [write, bind_eq_ok_iff, pure_eq_ok_iff, eq_comm (a := front)]
  constructor
  · intro written
    obtain ⟨_, passed, rfl⟩ := written
    exact ⟨passed, rfl⟩
  · intro written
    exact ⟨(), written⟩

theorem length_uncheckedString_le {text : String} {texts : List String} (member : text ∈ texts) :
    (utf8Bytes text).length ≤ (texts.flatMap uncheckedString).length := by
  obtain ⟨before, behind, rfl⟩ := List.append_of_mem member
  simp only [List.flatMap_append, List.flatMap_cons, uncheckedString, List.length_append]
  omega

/-- The texts are all there, whatever has become of their lengths. -/
theorem Value.length_texts_le (value : Value) :
    (value.texts.flatMap uncheckedString).length ≤ value.unchecked.length := by
  cases value with
  | signalPhases phases =>
    rw [texts, unchecked, List.flatMap_assoc, List.length_cons]
    refine Nat.le_succ_of_le ?_
    induction phases with
    | nil => exact Nat.le_refl 0
    | cons first rest ih =>
      simp only [List.flatMap_cons, List.flatMap_nil, List.append_nil, List.length_append,
        SignalPhase.unchecked] at ih ⊢
      omega
  | _ => simp [texts, unchecked]

theorem Value.fitsLengths_of_write {value : Value} {front : Bytes}
    (written : value.write = .ok front) (short : front.length ≤ maxLength) :
    value.FitsLengths := by
  obtain ⟨passed, rfl⟩ := write_eq_ok_iff.mp written
  refine ⟨?_, ?_⟩
  · intro text member
    have whole := length_uncheckedString_le member
    have inside := value.length_texts_le
    rw [List.length_cons] at short
    omega
  · rintro texts rfl
    by_contra many
    rw [check, fieldLength, if_neg many] at passed
    cases passed

/-- Both writers agree on a value that fits, and only such a value can be written exactly. -/
theorem Value.writeUntagged_eq_ok_iff {value : Value} {body : Bytes} :
    value.writeUntagged = .ok body ↔
      value.FitsLengths ∧ value.write = .ok (value.type.tag :: body) := by
  constructor
  · intro written
    have fits := fitsLengths_of_writeUntagged written
    rw [writeUntagged_eq fits] at written
    simp only [bind_eq_ok_iff, pure_eq_ok_iff] at written
    obtain ⟨_, passed, rfl⟩ := written
    exact ⟨fits, write_eq_ok_iff.mpr ⟨passed, rfl⟩⟩
  · intro written
    obtain ⟨fits, written⟩ := written
    obtain ⟨passed, same⟩ := write_eq_ok_iff.mp written
    obtain ⟨-, rfl⟩ := List.cons.inj same
    rw [writeUntagged_eq fits, passed]
    rfl

theorem accepts_tagged :
    Accepts readTagged fun value front => value.FitsLengths ∧ value.write = .ok front := by
  refine (accepts_type.bind accepts_untagged).congr ?_
  intro value front
  constructor
  · intro formed
    obtain ⟨type, _, body, rfl, ⟨rfl, written⟩, rfl⟩ := formed
    exact Value.writeUntagged_eq_ok_iff.mp written
  · intro written
    obtain ⟨-, same⟩ := Value.write_eq_ok_iff.mp written.2
    subst same
    exact ⟨_, _, _, rfl, ⟨rfl, Value.writeUntagged_eq_ok_iff.mpr written⟩, rfl⟩

/-- Reading a typed value undoes writing it whatever follows, and a value that has been read is
written as the very bytes that it was read from, with no length that does not fit. -/
theorem readTagged_eq_ok_iff (bytes rest : Bytes) (value : Value) :
    readTagged.run bytes = .ok value rest ↔
      value.FitsLengths ∧ ∃ front, value.write = .ok front ∧ bytes = front ++ rest := by
  rw [accepts_tagged bytes rest value]
  constructor
  · intro formed
    obtain ⟨front, ⟨fits, written⟩, same⟩ := formed
    exact ⟨fits, front, written, same⟩
  · intro formed
    obtain ⟨fits, front, written, same⟩ := formed
    exact ⟨front, ⟨fits, written⟩, same⟩

end RemoteCrowd
