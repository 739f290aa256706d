import RemoteCrowd.Proofs.Unwritable
import RemoteCrowd.Proofs.ValueLengths
import RemoteCrowd.Value.Buffer

/-!
Writing a value is all or nothing. The first pass asks whether the elements can be counted, and
then whether every text is ASCII; nothing else can be wrong. What passes is written by the
second pass as the encoding of the value, although that pass checks nothing, and what does not
pass leaves the buffer as it was.
-/

namespace RemoteCrowd

open Wire

/-- A polygon or a list of signal phases with more elements than one byte can count. -/
def Value.IsOverfull : Value → Prop
  | polygon points => maxShortList < points.length
  | signalPhases phases => maxShortList < phases.length
  | _ => False

/-- Some text in the value is not ASCII. -/
def Value.HasForeignText (value : Value) : Prop :=
  ∃ text ∈ value.texts, Text.isAscii text = false

theorem checkCount_eq_ok_iff {what : String} {count : Nat} :
    checkCount what count = .ok () ↔ ¬ maxShortList < count := by
  unfold checkCount
  split
  · next few => simp [few]
  · next many => simpa using many

/-- Refuse a value whose elements cannot be counted. -/
def Value.checkElements : Value → Except Error Unit
  | polygon points => checkCount "polygon" points.length
  | signalPhases phases => checkCount "traffic light phase list" phases.length
  | _ => .ok ()

theorem Value.failsOnly_checkElements (value : Value) :
    FailsOnly Error.IsCapacity value.checkElements := by
  cases value with
  | polygon points => exact failsOnly_checkCount "polygon" points.length
  | signalPhases phases => exact failsOnly_checkCount "traffic light phase list" phases.length
  | _ => exact .ok _

theorem Value.checkElements_eq_ok_iff {value : Value} :
    value.checkElements = .ok () ↔ ¬ value.IsOverfull := by
  cases value with
  | polygon points => exact checkCount_eq_ok_iff
  | signalPhases phases => exact checkCount_eq_ok_iff
  | _ => exact ⟨fun _ => id, fun _ => rfl⟩

/-- The elements are counted first. Then every text is looked at, however deep it lies. -/
theorem Value.check_eq {value : Value} (fits : value.FitsLengths) :
    value.check = (do value.checkElements; forM value.texts checkAscii) := by
  cases value with
  | stringList texts =>
    simp only [check, fieldLength_of_le (fits.list texts rfl)]
    rfl
  | signalPhases phases =>
    have each : SignalPhase.check = fun phase =>
        forM [phase.preceding, phase.succeeding] checkAscii := by
      funext phase
      simp [SignalPhase.check]
    rw [check, each, ← forM_flatMap]
    rfl
  | string text => exact bind_pure_unit.symm
  | roadMapPosition road position lane => exact bind_pure_unit.symm
  | polygon points => exact bind_pure_unit.symm
  | _ => rfl

/-- What the first pass says about a value, and why. -/
inductive Value.Verdict (value : Value) : Except Error Unit → Prop
  | overfull {cause : Error} (overfull : value.IsOverfull) (capacity : cause.IsCapacity) :
      Verdict value (.error cause)
  | foreign {cause : Error} (counted : ¬ value.IsOverfull) (foreign : value.HasForeignText)
      (encoding : cause.IsEncoding) : Verdict value (.error cause)
  | accepted (counted : ¬ value.IsOverfull) (ascii : ¬ value.HasForeignText) :
      Verdict value (.ok ())

theorem Value.not_hasForeignText_iff {value : Value} :
    ¬ value.HasForeignText ↔ forM value.texts checkAscii = .ok () := by
  simp [HasForeignText, forM_eq_ok_iff, checkAscii_eq_ok_iff]

theorem Value.verdict_check {value : Value} (fits : value.FitsLengths) :
    value.Verdict value.check := by
  rw [check_eq fits]
  cases counted : value.checkElements with
  | error cause =>
    have overfull : value.IsOverfull := by
      by_contra few
      cases (checkElements_eq_ok_iff.mpr few).symm.trans counted
    exact .overfull overfull (value.failsOnly_checkElements cause counted)
  | ok _ =>
    have few := checkElements_eq_ok_iff.mp counted
    cases passed : forM value.texts checkAscii with
    | error cause =>
      have foreign : value.HasForeignText := by
        by_contra ascii
        cases (not_hasForeignText_iff.mp ascii).symm.trans passed
      exact .foreign few foreign (failsOnly_forM failsOnly_checkAscii value.texts cause passed)
    | ok _ => exact .accepted few (not_hasForeignText_iff.mpr passed)

theorem appends_value (value : Value) :
    Appends (appendValue value) (do value.check; return [value.type.tag] ++ value.unchecked) :=
  .check fun _ _ => (Appends.put _).append (.put _)

/-- The writing fails with an error of the given kind. -/
def FailsWith (Cause : Error → Prop) (writing : Writing Unit) (buffer : Bytes) : Prop :=
  ∃ cause after, writing.run buffer = .error cause after ∧ Cause cause

theorem failsWith_iff_of_error {Cause : Error → Prop} {writing : Writing Unit} {cause : Error}
    {buffer after : Bytes} (failed : writing.run buffer = .error cause after) :
    FailsWith Cause writing buffer ↔ Cause cause := by
  constructor
  · intro fails
    obtain ⟨thrown, _, failed', kind⟩ := fails
    obtain ⟨rfl, -⟩ := EStateM.Result.error.inj (failed.symm.trans failed')
    exact kind
  · intro kind
    exact ⟨cause, after, failed, kind⟩

theorem not_failsWith_of_ok {Cause : Error → Prop} {writing : Writing Unit}
    {buffer after : Bytes} (done : writing.run buffer = .ok () after) :
    ¬ FailsWith Cause writing buffer := by
  intro fails
  obtain ⟨_, _, failed, _⟩ := fails
  cases done.symm.trans failed

/-- The value ends up behind the front in the buffer, or it is refused for one of two reasons,
and the buffer is as before. -/
structure Value.WrittenWhole (value : Value) (front : Bytes) (writing : Writing Unit)
    (buffer : Bytes) : Prop where
  capacity_iff : FailsWith Error.IsCapacity writing buffer ↔ value.IsOverfull
  encoding_iff :
    FailsWith Error.IsEncoding writing buffer ↔ ¬ value.IsOverfull ∧ value.HasForeignText
  kept : ∀ cause after, writing.run buffer = .error cause after → after = buffer
  whole : ¬ value.IsOverfull → ¬ value.HasForeignText →
    ∃ body, value.writeUntagged = .ok body ∧
      writing.run buffer = .ok () (buffer ++ front ++ body)

theorem Value.writtenWhole_of_error {value : Value} {front : Bytes} {writing : Writing Unit}
    {cause : Error} {buffer : Bytes} (failed : writing.run buffer = .error cause buffer)
    (capacity : cause.IsCapacity ↔ value.IsOverfull)
    (encoding : cause.IsEncoding ↔ ¬ value.IsOverfull ∧ value.HasForeignText)
    (refused : value.IsOverfull ∨ value.HasForeignText) :
    value.WrittenWhole front writing buffer := by
  refine ⟨?_, ?_, ?_, ?_⟩
  · exact (failsWith_iff_of_error failed).trans capacity
  · exact (failsWith_iff_of_error failed).trans encoding
  · intro _ _ failed'
    exact (EStateM.Result.error.inj (failed'.symm.trans failed)).2
  · intro counted ascii
    exact absurd refused (not_or.mpr ⟨counted, ascii⟩)

theorem Value.writtenWhole_of_ok {value : Value} {front body : Bytes} {writing : Writing Unit}
    {buffer : Bytes} (encoded : value.writeUntagged = .ok body)
    (done : writing.run buffer = .ok () (buffer ++ front ++ body))
    (counted : ¬ value.IsOverfull) (ascii : ¬ value.HasForeignText) :
    value.WrittenWhole front writing buffer := by
  refine ⟨?_, ?_, ?_, ?_⟩
  · exact iff_of_false (not_failsWith_of_ok done) counted
  · exact iff_of_false (not_failsWith_of_ok done) fun foreign => ascii foreign.2
  · intro _ _ failed
    cases done.symm.trans failed
  · intro _ _
    exact ⟨body, encoded, done⟩

/-- What appends the second pass behind the first writes the value whole. -/
theorem Value.writtenWhole_of_appends {value : Value} (fits : value.FitsLengths) {front : Bytes}
    {writing : Writing Unit}
    (appends : Appends writing (do value.check; return front ++ value.unchecked))
    (buffer : Bytes) : value.WrittenWhole front writing buffer := by
  have wrote := appends buffer
  have encoded := value.writeUntagged_eq fits
  have verdict := value.verdict_check fits
  generalize value.check = checked at wrote encoded verdict
  cases verdict with
  | overfull overfull capacity =>
    refine writtenWhole_of_error wrote (iff_of_true capacity overfull) ?_ (.inl overfull)
    exact iff_of_false capacity.not_isEncoding fun foreign => foreign.1 overfull
  | foreign counted foreign encoding =>
    refine writtenWhole_of_error wrote ?_ (iff_of_true encoding ⟨counted, foreign⟩) (.inr foreign)
    exact iff_of_false (fun capacity => capacity.not_isEncoding encoding) counted
  | accepted counted ascii =>
    refine writtenWhole_of_ok encoded (wrote.trans ?_) counted ascii
    exact congrArg _ (List.append_assoc ..).symm

end RemoteCrowd
