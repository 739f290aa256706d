import RemoteCrowd.Proofs.Wire.Counted
import RemoteCrowd.Wire.Buffer

/-!
Writing into a buffer comes to appending. What is appended is what the writers of byte strings
give, and where these refuse, nothing is appended. Texts and lists are checked in front of
their first byte, so the checks of a list are taken together before its items.
-/

namespace RemoteCrowd.Wire

variable {α β : Type}

/-- The writing appends what the result gives to whatever the buffer holds. If the result is an
error, the writing fails with it and leaves the buffer alone. -/
def Appends (writing : Writing Unit) (result : Except Error Bytes) : Prop :=
  ∀ buffer, writing.run buffer =
    match result with
    | .ok bytes => .ok () (buffer ++ bytes)
    | .error cause => .error cause buffer

namespace Appends

theorem put (bytes : Bytes) : Appends (put bytes) (.ok bytes) := fun _ => rfl

theorem pure : Appends (pure ()) (.ok []) := by
  intro buffer
  simp only [EStateM.run_pure, List.append_nil]

/-- What a check in front refuses is not written. -/
theorem check {checked : Except Error α} {writing : α → Writing Unit}
    {result : α → Except Error Bytes}
    (later : ∀ a, checked = .ok a → Appends (writing a) (result a)) :
    Appends (orThrow checked >>= writing) (checked >>= result) := by
  intro buffer
  cases checked with
  | error cause => rfl
  | ok a => exact later a rfl buffer

theorem append {first second : Writing Unit} {front back : Bytes}
    (appends : Appends first (.ok front)) (appends' : Appends second (.ok back)) :
    Appends (first >>= fun _ => second) (.ok (front ++ back)) := by
  intro buffer
  rw [EStateM.run_bind, appends buffer]
  simp only [appends' (buffer ++ front), List.append_assoc]

theorem forM {writing : α → Writing Unit} {bytes : α → Bytes} {items : List α}
    (each : ∀ item ∈ items, Appends (writing item) (.ok (bytes item))) :
    Appends (forM items writing) (.ok (items.flatMap bytes)) := by
  induction items with
  | nil => exact .pure
  | cons first rest ih =>
    rw [List.forM_cons, List.flatMap_cons]
    have later := ih fun item member => each item (List.mem_cons_of_mem _ member)
    exact (each first List.mem_cons_self).append later

end Appends

theorem checkAscii_eq_ok_iff {text : String} :
    checkAscii text = .ok () ↔ Text.isAscii text = true := by
  unfold checkAscii
  split
  · next ascii => simp [ascii]
  · next foreign => simp [foreign]

theorem fieldLength_of_le {length : Nat} (short : length ≤ maxLength) :
    fieldLength length = .ok (Int32.ofNat length) := if_pos short

theorem forM_eq_ok_iff {check : α → Except Error Unit} {items : List α} :
    forM items check = .ok () ↔ ∀ item ∈ items, check item = .ok () := by
  induction items with
  | nil => simp [pure_eq_ok_iff]
  | cons first rest ih =>
    rw [List.forM_cons, bind_eq_ok_iff, List.forall_mem_cons, ← ih]
    constructor
    · intro passed
      obtain ⟨_, now, later⟩ := passed
      exact ⟨now, later⟩
    · intro passed
      exact ⟨(), passed⟩

theorem forM_flatMap (check : β → Except Error Unit) (items : List α) (parts : α → List β) :
    forM (items.flatMap parts) check = forM items fun item => forM (parts item) check := by
  induction items with
  | nil => rfl
  | cons first rest ih => rw [List.flatMap_cons, List.forM_append, List.forM_cons, ih]

/-- Items that are written behind one check each can all be checked first and written then. -/
theorem writeMany_eq {item : α → Except Error Bytes} {check : α → Except Error Unit}
    {bytes : α → Bytes} {items : List α}
    (each : ∀ a ∈ items, item a = do check a; return bytes a) :
    writeMany item items = do forM items check; return items.flatMap bytes := by
  induction items with
  | nil => rfl
  | cons first rest ih =>
    have later := ih fun a member => each a (List.mem_cons_of_mem _ member)
    rw [writeMany, each first List.mem_cons_self, later, List.forM_cons, List.flatMap_cons]
    simp only [bind_assoc, pure_bind]

theorem utf8Bytes_of_isAscii {text : String} (ascii : Text.isAscii text = true) :
    utf8Bytes text = asciiBytes text := by
  simp only [Text.isAscii, List.all_eq_true, decide_eq_true_eq] at ascii
  have single : ∀ c ∈ text.toList, String.utf8EncodeChar c = [UInt8.ofNat c.toNat] := by
    intro c member
    exact if_pos (Nat.le_of_lt_succ (ascii c member))
  rw [utf8Bytes, asciiBytes, List.flatMap_congr single, List.map_eq_flatMap]

theorem length_utf8Bytes_of_isAscii {text : String} (ascii : Text.isAscii text = true) :
    (utf8Bytes text).length = text.length := by
  rw [utf8Bytes_of_isAscii ascii, length_asciiBytes]

/-- A text that is short enough can be refused for its characters only. -/
theorem writeString_eq {text : String} (short : (utf8Bytes text).length ≤ maxLength) :
    writeString text = do checkAscii text; return uncheckedString text := by
  unfold writeString checkAscii
  split
  · next ascii =>
    have same := length_utf8Bytes_of_isAscii ascii
    have written := writeLength_eq_ok_iff.mpr ⟨same ▸ short, rfl⟩
    rw [written, uncheckedString, writeInt32_ofNat short, same, utf8Bytes_of_isAscii ascii]
    rfl
  · rfl

theorem writeStringList_eq {texts : List String} (few : texts.length ≤ maxLength)
    (short : ∀ text ∈ texts, (utf8Bytes text).length ≤ maxLength) :
    writeStringList texts = do
      forM texts checkAscii
      return writeInt32 (Int32.ofNat texts.length) ++ texts.flatMap uncheckedString := by
  have written := writeLength_eq_ok_iff.mpr ⟨few, rfl⟩
  rw [writeStringList, writeMany_eq fun text member => writeString_eq (short text member), written,
    writeInt32_ofNat few]
  simp only [bind_assoc, pure_bind]
  rfl

theorem appends_putString {text : String} (short : (utf8Bytes text).length ≤ maxLength) :
    Appends (putString text) (.ok (uncheckedString text)) := by
  unfold putString
  rw [fieldLength_of_le short]
  exact (Appends.put _).append (.put _)

theorem appends_string {text : String} (short : (utf8Bytes text).length ≤ maxLength) :
    Appends (appendString text) (writeString text) := by
  rw [writeString_eq short]
  exact .check fun _ _ => appends_putString short

theorem appends_stringList {texts : List String} (few : texts.length ≤ maxLength)
    (short : ∀ text ∈ texts, (utf8Bytes text).length ≤ maxLength) :
    Appends (appendStringList texts) (writeStringList texts) := by
  rw [writeStringList_eq few short]
  refine .check fun _ _ => ?_
  rw [fieldLength_of_le few]
  exact (Appends.put _).append (.forM fun text member => appends_putString (short text member))

end RemoteCrowd.Wire
