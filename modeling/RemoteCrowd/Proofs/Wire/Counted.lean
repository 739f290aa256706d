import Mathlib.Algebra.Order.BigOperators.Group.List
import Mathlib.Algebra.Order.Ring.Nat
import RemoteCrowd.Proofs.Result
import RemoteCrowd.Proofs.Wire.Acceptance

/-!
What stands behind a count: texts behind their length, and lists behind the number of their
items. Reading such a text or list accepts exactly what writing one produces.
-/

namespace RemoteCrowd.Wire

variable {α : Type}

theorem writeLength_eq_ok_iff {length : Nat} {front : Bytes} :
    writeLength length = .ok front ↔ length ≤ maxLength ∧ front = bigEndian 4 length := by
  unfold writeLength
  split
  · next short => simp [short, eq_comm]
  · next long => simp [long]

/-- A length is the same number in the signed reading of its field. -/
theorem toInt_ofNat {n : Nat} (short : n ≤ maxLength) : (Int32.ofNat n).toInt = n := by
  unfold maxLength at short
  exact Int32.toInt_ofNat_of_lt (by omega)

theorem writeInt32_ofNat {n : Nat} (short : n ≤ maxLength) :
    writeInt32 (Int32.ofNat n) = bigEndian 4 n := by
  unfold maxLength at short
  rw [writeInt32, Int32.toUInt32_ofNat', UInt32.toNat_ofNat', Nat.mod_eq_of_lt (by omega)]

/-- A word that is not negative is a length. -/
theorem exists_ofNat_of_nonneg {word : Int32} (nonnegative : 0 ≤ word.toInt) :
    ∃ n, n ≤ maxLength ∧ word = Int32.ofNat n := by
  have upper := word.toInt_lt
  refine ⟨word.toInt.toNat, ?_, ?_⟩
  · unfold maxLength
    omega
  · rw [← Int32.ofInt_eq_ofNat, Int.toNat_of_nonneg nonnegative, Int32.ofInt_toInt]

/-- A count that is refused where it is negative, and what it counts. -/
theorem accepts_counted {cause : Int32 → Error} {counted : Nat → Decoder α}
    {Form : Nat → α → Bytes → Prop} (accepts : ∀ n, Accepts (counted n) (Form n)) :
    Accepts (do
      let count ← readInt32
      if count < 0 then throw (cause count) else counted count.toInt.toNat) fun value front =>
      ∃ n tail, n ≤ maxLength ∧ Form n value tail ∧ front = bigEndian 4 n ++ tail := by
  refine (accepts_int32.bind fun count => Accepts.unless (count < 0) (accepts _)).congr ?_
  intro value front
  constructor
  · intro formed
    obtain ⟨count, _, tail, rfl, ⟨notNegative, form⟩, rfl⟩ := formed
    rw [Int32.lt_iff_toInt_lt] at notNegative
    obtain ⟨n, short, rfl⟩ := exists_ofNat_of_nonneg (Int.not_lt.mp notNegative)
    rw [toInt_ofNat short, Int.toNat_natCast] at form
    exact ⟨n, tail, short, form, by rw [writeInt32_ofNat short]⟩
  · intro formed
    obtain ⟨n, tail, short, form, rfl⟩ := formed
    refine ⟨Int32.ofNat n, _, tail, rfl, ⟨?_, ?_⟩, ?_⟩
    · rw [Int32.lt_iff_toInt_lt, toInt_ofNat short]
      exact Int.not_lt.mpr (Int.natCast_nonneg n)
    · rw [toInt_ofNat short, Int.toNat_natCast]
      exact form
    · rw [writeInt32_ofNat short]

theorem length_asciiBytes (text : String) : (asciiBytes text).length = text.length := by
  rw [asciiBytes, List.length_map, String.length_toList]

theorem length_ofAsciiBytes (bytes : Bytes) : (ofAsciiBytes bytes).length = bytes.length := by
  simp [ofAsciiBytes]

theorem isAsciiBytes_asciiBytes {text : String} (ascii : Text.isAscii text = true) :
    isAsciiBytes (asciiBytes text) = true := by
  simp only [Text.isAscii, List.all_eq_true, decide_eq_true_eq] at ascii
  simp only [isAsciiBytes, asciiBytes, List.all_map, List.all_eq_true, Function.comp_apply,
    decide_eq_true_eq]
  intro c member
  have small := ascii c member
  rw [UInt8.lt_iff_toNat_lt, UInt8.toNat_ofNat', Nat.mod_eq_of_lt (by omega)]
  exact small

theorem ofAsciiBytes_asciiBytes {text : String} (ascii : Text.isAscii text = true) :
    ofAsciiBytes (asciiBytes text) = text := by
  simp only [Text.isAscii, List.all_eq_true, decide_eq_true_eq] at ascii
  have same : ∀ c ∈ text.toList, Char.ofNat (UInt8.ofNat c.toNat).toNat = c := by
    intro c member
    have small := ascii c member
    rw [UInt8.toNat_ofNat', Nat.mod_eq_of_lt (by omega), Char.ofNat_toNat]
  have mapped := (List.map_congr_left same).trans (List.map_id _)
  rw [ofAsciiBytes, asciiBytes, List.map_map, Function.comp_def, mapped, String.ofList_toList]

private theorem toNat_char_of_ascii {b : UInt8} (small : b < 128) :
    (Char.ofNat b.toNat).toNat = b.toNat := by
  rw [UInt8.lt_iff_toNat_lt] at small
  have valid : b.toNat.isValidChar := .inl (by have : (128 : UInt8).toNat = 128 := rfl; omega)
  rw [Char.ofNat, dif_pos valid]
  exact UInt32.toNat_ofNatLT

theorem isAscii_ofAsciiBytes {bytes : Bytes} (ascii : isAsciiBytes bytes = true) :
    Text.isAscii (ofAsciiBytes bytes) = true := by
  simp only [isAsciiBytes, List.all_eq_true, decide_eq_true_eq] at ascii
  simp only [Text.isAscii, ofAsciiBytes, String.toList_ofList, List.all_map, List.all_eq_true,
    Function.comp_apply, decide_eq_true_eq]
  intro b member
  have small := ascii b member
  rw [toNat_char_of_ascii small]
  simpa [UInt8.lt_iff_toNat_lt] using small

theorem asciiBytes_ofAsciiBytes {bytes : Bytes} (ascii : isAsciiBytes bytes = true) :
    asciiBytes (ofAsciiBytes bytes) = bytes := by
  simp only [isAsciiBytes, List.all_eq_true, decide_eq_true_eq] at ascii
  have same : ∀ b ∈ bytes, UInt8.ofNat (Char.ofNat b.toNat).toNat = b := by
    intro b member
    rw [toNat_char_of_ascii (ascii b member), UInt8.ofNat_toNat]
  have mapped := (List.map_congr_left same).trans (List.map_id _)
  rw [asciiBytes, ofAsciiBytes, String.toList_ofList, List.map_map, Function.comp_def, mapped]

theorem writeString_eq_ok_iff {text : String} {front : Bytes} :
    writeString text = .ok front ↔
      Text.isAscii text = true ∧ text.length ≤ maxLength ∧
        front = bigEndian 4 text.length ++ asciiBytes text := by
  unfold writeString
  split
  · next ascii =>
    simp only [bind_eq_ok_iff, writeLength_eq_ok_iff, pure_eq_ok_iff, ascii, true_and]
    constructor
    · intro formed
      obtain ⟨_, ⟨short, rfl⟩, rfl⟩ := formed
      exact ⟨short, rfl⟩
    · intro formed
      obtain ⟨short, rfl⟩ := formed
      exact ⟨_, ⟨short, rfl⟩, rfl⟩
  · next notAscii => simp [notAscii]

theorem inverts_string : Inverts readString writeString := by
  refine (accepts_counted fun n => (accepts_take n "string").bind fun field =>
    Accepts.guard (isAsciiBytes field) (.pure (ofAsciiBytes field))).congr ?_
  intro text front
  rw [writeString_eq_ok_iff]
  constructor
  · intro formed
    obtain ⟨n, _, short, ⟨field, _, _, ⟨length, rfl⟩, ⟨ascii, rfl, rfl⟩, rfl⟩, rfl⟩ := formed
    rw [length_ofAsciiBytes, length, asciiBytes_ofAsciiBytes ascii, List.append_nil]
    exact ⟨isAscii_ofAsciiBytes ascii, short, rfl⟩
  · intro formed
    obtain ⟨ascii, short, rfl⟩ := formed
    refine ⟨text.length, asciiBytes text, short, ⟨asciiBytes text, _, [], ⟨?_, rfl⟩, ?_, ?_⟩, rfl⟩
    · exact length_asciiBytes text
    · exact ⟨isAsciiBytes_asciiBytes ascii, (ofAsciiBytes_asciiBytes ascii).symm, rfl⟩
    · rw [List.append_nil]

theorem writeMany_cons_eq_ok_iff {item : α → Except Error Bytes} {first : α} {rest : List α}
    {front : Bytes} :
    writeMany item (first :: rest) = .ok front ↔
      ∃ head tail, item first = .ok head ∧ writeMany item rest = .ok tail ∧
        front = head ++ tail := by
  simp only [writeMany, bind_eq_ok_iff, pure_eq_ok_iff, eq_comm (a := front)]
  constructor
  · intro formed
    obtain ⟨head, written, tail, written', same⟩ := formed
    exact ⟨head, tail, written, written', same⟩
  · intro formed
    obtain ⟨head, tail, written, written', same⟩ := formed
    exact ⟨head, written, tail, written', same⟩

@[simp] theorem writeMany_singleton (item : α → Except Error Bytes) (value : α) :
    writeMany item [value] = item value := by
  rw [writeMany]
  cases item value with
  | error cause => rfl
  | ok front => exact congrArg Except.ok (List.append_nil front)

theorem writeMany_append (item : α → Except Error Bytes) (first second : List α) :
    writeMany item (first ++ second) =
      (do return (← writeMany item first) ++ (← writeMany item second)) := by
  induction first with
  | nil => exact (bind_pure _).symm
  | cons value rest ih =>
    rw [List.cons_append, writeMany, ih, writeMany]
    simp only [bind_assoc, pure_bind, List.append_assoc]

theorem writeMany_append_eq_ok_iff {item : α → Except Error Bytes} {first second : List α}
    {front : Bytes} :
    writeMany item (first ++ second) = .ok front ↔
      ∃ head tail, writeMany item first = .ok head ∧ writeMany item second = .ok tail ∧
        front = head ++ tail := by
  simp only [writeMany_append, bind_eq_ok_iff, pure_eq_ok_iff, eq_comm (a := front)]
  constructor
  · rintro ⟨head, written, tail, written', same⟩
    exact ⟨head, tail, written, written', same⟩
  · rintro ⟨head, tail, written, written', same⟩
    exact ⟨head, written, tail, written', same⟩

/-- If every item can be written, they can be written together, and take the sum of their sizes. -/
theorem exists_writeMany {item : α → Except Error Bytes} {size : α → Nat} {values : List α}
    (each : ∀ value ∈ values, ∃ front, item value = .ok front ∧ front.length = size value) :
    ∃ bytes, writeMany item values = .ok bytes ∧ bytes.length = (values.map size).sum := by
  induction values with
  | nil => exact ⟨[], rfl, rfl⟩
  | cons first rest ih =>
    obtain ⟨head, written, length⟩ := each first List.mem_cons_self
    obtain ⟨tail, written', length'⟩ := ih fun value member =>
      each value (List.mem_cons_of_mem _ member)
    refine ⟨head ++ tail, writeMany_cons_eq_ok_iff.mpr ⟨head, tail, written, written', rfl⟩, ?_⟩
    rw [List.length_append, length, length', List.map_cons, List.sum_cons]

/-- Items that were written together can each be written. -/
theorem exists_of_writeMany {item : α → Except Error Bytes} {values : List α} {bytes : Bytes}
    (written : writeMany item values = .ok bytes) {value : α} (member : value ∈ values) :
    ∃ front, item value = .ok front := by
  induction values generalizing bytes with
  | nil => cases member
  | cons first rest ih =>
    obtain ⟨head, tail, writtenFirst, writtenRest, rfl⟩ := writeMany_cons_eq_ok_iff.mp written
    rcases List.mem_cons.mp member with rfl | later
    · exact ⟨head, writtenFirst⟩
    · exact ih writtenRest later

/-- Items that were written together take the sum of their sizes. -/
theorem length_of_writeMany {item : α → Except Error Bytes} {size : α → Nat}
    (sized : ∀ value front, item value = .ok front → front.length = size value)
    {values : List α} {bytes : Bytes} (written : writeMany item values = .ok bytes) :
    bytes.length = (values.map size).sum := by
  induction values generalizing bytes with
  | nil =>
    obtain rfl := Except.ok.inj written
    rfl
  | cons first rest ih =>
    obtain ⟨head, tail, writtenFirst, writtenRest, rfl⟩ := writeMany_cons_eq_ok_iff.mp written
    rw [List.length_append, sized first head writtenFirst, ih writtenRest, List.map_cons,
      List.sum_cons]

/-- Items of at least so many bytes each take at least so many bytes together. -/
theorem length_of_writeMany_eq_ok {item : α → Except Error Bytes} {least : Nat}
    (long : ∀ value front, item value = .ok front → least ≤ front.length) {values : List α}
    {front : Bytes} (written : writeMany item values = .ok front) :
    values.length * least ≤ front.length := by
  induction values generalizing front with
  | nil => simp
  | cons first rest ih =>
    obtain ⟨head, tail, writtenHead, writtenTail, rfl⟩ := writeMany_cons_eq_ok_iff.mp written
    have longHead := long first head writtenHead
    have longTail := ih writtenTail
    rw [List.length_cons, List.length_append, Nat.succ_mul]
    omega

theorem accepts_many {reader : Decoder α} {writer : α → Except Error Bytes}
    (inverts : Inverts reader writer) (count : Nat) :
    Accepts (readMany reader count) fun values front =>
      values.length = count ∧ writeMany writer values = .ok front := by
  induction count with
  | zero =>
    refine (Accepts.pure []).congr ?_
    intro values front
    constructor
    · intro formed
      obtain ⟨rfl, rfl⟩ := formed
      exact ⟨rfl, rfl⟩
    · intro formed
      obtain ⟨none, written⟩ := formed
      obtain rfl := List.length_eq_zero_iff.mp none
      exact ⟨rfl, (Except.ok.inj written).symm⟩
  | succ count ih =>
    refine (inverts.bind fun first => ih.bind fun rest => .pure (first :: rest)).congr ?_
    intro values front
    constructor
    · intro formed
      obtain ⟨first, head, _, written, ⟨rest, tail, _, ⟨length, writtenRest⟩, ⟨rfl, rfl⟩, rfl⟩, rfl⟩ := formed
      refine ⟨by rw [List.length_cons, length], ?_⟩
      rw [writeMany_cons_eq_ok_iff, List.append_nil]
      exact ⟨head, tail, written, writtenRest, rfl⟩
    · intro formed
      obtain ⟨length, written⟩ := formed
      cases values with
      | nil => cases length
      | cons first rest =>
        obtain ⟨head, tail, writtenHead, writtenTail, rfl⟩ := writeMany_cons_eq_ok_iff.mp written
        refine ⟨first, head, tail, writtenHead, ⟨rest, tail, [], ⟨?_, writtenTail⟩, ⟨rfl, rfl⟩, ?_⟩, rfl⟩
        · exact Nat.succ.inj length
        · rw [List.append_nil]

private theorem length_of_writeString_eq_ok (text : String) (front : Bytes)
    (written : writeString text = .ok front) : 4 ≤ front.length := by
  obtain ⟨-, -, rfl⟩ := writeString_eq_ok_iff.mp written
  simp

theorem writeStringList_eq_ok_iff {texts : List String} {front : Bytes} :
    writeStringList texts = .ok front ↔
      ∃ items, texts.length ≤ maxLength ∧ writeMany writeString texts = .ok items ∧
        front = bigEndian 4 texts.length ++ items := by
  simp only [writeStringList, bind_eq_ok_iff, writeLength_eq_ok_iff, pure_eq_ok_iff]
  constructor
  · intro formed
    obtain ⟨items, written, _, ⟨short, rfl⟩, rfl⟩ := formed
    exact ⟨items, short, written, rfl⟩
  · intro formed
    obtain ⟨items, short, written, rfl⟩ := formed
    exact ⟨items, written, _, ⟨short, rfl⟩, rfl⟩

theorem inverts_stringList : Inverts readStringList writeStringList := by
  refine (accepts_counted fun n => Accepts.afterNeed (n * 4) "string list"
    (accepts_many inverts_string n) ?_).congr ?_
  · intro texts front formed
    obtain ⟨rfl, written⟩ := formed
    exact length_of_writeMany_eq_ok length_of_writeString_eq_ok written
  · intro texts front
    rw [writeStringList_eq_ok_iff]
    constructor
    · intro formed
      obtain ⟨n, items, short, ⟨rfl, written⟩, rfl⟩ := formed
      exact ⟨items, short, written, rfl⟩
    · intro formed
      obtain ⟨items, short, written, rfl⟩ := formed
      exact ⟨texts.length, items, short, ⟨rfl, written⟩, rfl⟩

end RemoteCrowd.Wire
