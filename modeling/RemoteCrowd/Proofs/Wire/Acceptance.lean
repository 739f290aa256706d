import RemoteCrowd.Wire.Decoder
import RemoteCrowd.Wire.Encoder

/-!
What readers accept. The bytes that a value can be read from are its form; a reader accepts
a byte string that starts with a form, gives the value, and leaves what stands behind the
form. Readers put one after another accept the forms put one after another, so acceptance is
shown for the primitive reads here, and for everything else by composition.
-/

namespace RemoteCrowd.Wire

variable {α β : Type}

/-- The reader accepts the forms of values, whatever stands behind them, and nothing else. -/
def Accepts (reader : Decoder α) (Form : α → Bytes → Prop) : Prop :=
  ∀ bytes rest value, reader.run bytes = .ok value rest ↔
    ∃ front, Form value front ∧ bytes = front ++ rest

/-- The reader accepts what the writer produces, and nothing else. -/
def Inverts (reader : Decoder α) (writer : α → Except Error Bytes) : Prop :=
  Accepts reader fun value front => writer value = .ok front

theorem Accepts.congr {reader : Decoder α} {Form Other : α → Bytes → Prop}
    (accepts : Accepts reader Form) (same : ∀ value front, Form value front ↔ Other value front) :
    Accepts reader Other := by
  intro bytes rest value
  simp only [accepts bytes rest value, same]

theorem Accepts.pure (given : α) :
    Accepts (pure given) fun value front => value = given ∧ front = [] := by
  intro bytes rest value
  rw [EStateM.run_pure]
  constructor
  · intro read
    obtain ⟨rfl, rfl⟩ := EStateM.Result.ok.inj read
    exact ⟨[], ⟨rfl, rfl⟩, rfl⟩
  · intro formed
    obtain ⟨front, ⟨rfl, rfl⟩, rfl⟩ := formed
    rfl

theorem Accepts.bind {first : Decoder α} {next : α → Decoder β} {Form : α → Bytes → Prop}
    {Later : α → β → Bytes → Prop} (accepts : Accepts first Form)
    (later : ∀ a, Accepts (next a) (Later a)) :
    Accepts (first >>= next) fun value front =>
      ∃ a head tail, Form a head ∧ Later a value tail ∧ front = head ++ tail := by
  intro bytes rest value
  rw [run_bind_eq_ok]
  constructor
  · intro formed
    obtain ⟨a, mid, read, done⟩ := formed
    obtain ⟨head, formed, rfl⟩ := (accepts ..).mp read
    obtain ⟨tail, formed', rfl⟩ := (later a ..).mp done
    exact ⟨head ++ tail, ⟨a, head, tail, formed, formed', rfl⟩, (List.append_assoc ..).symm⟩
  · intro formed
    obtain ⟨front, ⟨a, head, tail, formed, formed', rfl⟩, rfl⟩ := formed
    refine ⟨a, tail ++ rest, (accepts ..).mpr ⟨head, formed, List.append_assoc ..⟩, ?_⟩
    exact (later a ..).mpr ⟨tail, formed', rfl⟩

/-- Asking early for bytes that every form has anyway refuses nothing more. -/
theorem Accepts.afterNeed (count : Nat) (item : String) {reader : Decoder α}
    {Form : α → Bytes → Prop} (accepts : Accepts reader Form)
    (enough : ∀ value front, Form value front → count ≤ front.length) :
    Accepts (need count item >>= fun _ => reader) Form := by
  intro bytes rest value
  rw [run_bind_eq_ok]
  constructor
  · intro formed
    obtain ⟨_, mid, checked, read⟩ := formed
    obtain ⟨rfl, -⟩ := run_need_eq_ok.mp checked
    exact (accepts ..).mp read
  · intro formed
    obtain ⟨front, form, rfl⟩ := formed
    have long := enough value front form
    refine ⟨(), front ++ rest, run_need_eq_ok.mpr ⟨rfl, ?_⟩, (accepts ..).mpr ⟨front, form, rfl⟩⟩
    rw [List.length_append]
    omega

theorem Accepts.fail (cause : Error) :
    Accepts (throw cause : Decoder α) fun _ _ => False := by
  intro bytes rest value
  simp

theorem Accepts.choose (condition : Prop) [Decidable condition] {first second : Decoder α}
    {Form Other : α → Bytes → Prop} (accepts : Accepts first Form)
    (accepts' : Accepts second Other) :
    Accepts (if condition then first else second) fun value front =>
      (condition ∧ Form value front) ∨ (¬condition ∧ Other value front) := by
  intro bytes rest value
  by_cases met : condition
  · simp only [met, ↓reduceIte, true_and, not_true, false_and, or_false]
    exact accepts bytes rest value
  · simp only [met, ↓reduceIte, true_and, not_false_iff, false_and, false_or]
    exact accepts' bytes rest value

theorem Accepts.guard (condition : Prop) [Decidable condition] {cause : Error}
    {reader : Decoder α} {Form : α → Bytes → Prop} (accepts : Accepts reader Form) :
    Accepts (if condition then reader else throw cause) fun value front =>
      condition ∧ Form value front :=
  (Accepts.choose condition accepts (.fail cause)).congr fun _ _ => by simp

theorem Accepts.unless (condition : Prop) [Decidable condition] {cause : Error}
    {reader : Decoder α} {Form : α → Bytes → Prop} (accepts : Accepts reader Form) :
    Accepts (if condition then throw cause else reader) fun value front =>
      ¬condition ∧ Form value front :=
  (Accepts.choose condition (.fail cause) accepts).congr fun _ _ => by simp

theorem accepts_orThrow (result : Except Error α) :
    Accepts (orThrow result) fun value front => result = .ok value ∧ front = [] := by
  intro bytes rest value
  rw [run_orThrow_eq_ok]
  constructor
  · intro formed
    obtain ⟨same, rfl⟩ := formed
    exact ⟨[], ⟨same, rfl⟩, rfl⟩
  · intro formed
    obtain ⟨front, ⟨same, rfl⟩, rfl⟩ := formed
    exact ⟨same, rfl⟩

theorem accepts_take (count : Nat) (item : String) :
    Accepts (take count item) fun value front => value.length = count ∧ front = value := by
  intro bytes rest value
  rw [run_take_eq_ok]
  constructor
  · intro formed
    obtain ⟨rfl, length⟩ := formed
    exact ⟨value, ⟨length, rfl⟩, rfl⟩
  · intro formed
    obtain ⟨front, ⟨length, rfl⟩, rfl⟩ := formed
    exact ⟨rfl, length⟩

theorem accepts_uint8Named (item : String) :
    Accepts (readUInt8Named item) fun value front => front = [value] := by
  intro bytes rest value
  rw [run_readUInt8Named_eq_ok]
  constructor
  · intro same
    subst same
    exact ⟨[value], rfl, rfl⟩
  · intro formed
    obtain ⟨front, rfl, rfl⟩ := formed
    rfl

theorem accepts_uint8 : Accepts readUInt8 fun value front => front = [value] :=
  accepts_uint8Named "unsigned byte"

theorem accepts_int8 : Accepts readInt8 fun value front => front = writeInt8 value := by
  refine ((accepts_uint8Named "byte").bind fun b => .pure b.toInt8).congr ?_
  intro value front
  constructor
  · intro formed
    obtain ⟨b, _, _, rfl, ⟨rfl, rfl⟩, rfl⟩ := formed
    rfl
  · intro same
    subst same
    exact ⟨value.toUInt8, _, [], rfl, ⟨rfl, rfl⟩, rfl⟩

/-- A word in a field of fixed width: the bytes are the digits of the word, and every
sequence of bytes of that width is the digits of some word. -/
private theorem accepts_word {width : Nat} {item : String} (ofNat : Nat → α) (toNat : α → Nat)
    (ofNat_toNat : ∀ a, ofNat (toNat a) = a)
    (toNat_ofNat : ∀ n, n < byteWeight width → toNat (ofNat n) = n)
    (toNat_lt : ∀ a, toNat a < byteWeight width) :
    Accepts (do return ofNat (ofBigEndian (← take width item))) fun value front =>
      front = bigEndian width (toNat value) := by
  refine ((accepts_take width item).bind fun field => .pure (ofNat (ofBigEndian field))).congr ?_
  intro value front
  constructor
  · intro formed
    obtain ⟨field, _, _, ⟨length, rfl⟩, ⟨rfl, rfl⟩, rfl⟩ := formed
    subst length
    rw [toNat_ofNat _ (ofBigEndian_lt _), bigEndian_ofBigEndian, List.append_nil]
  · intro same
    subst same
    refine ⟨bigEndian width (toNat value), _, [], ⟨length_bigEndian .., rfl⟩, ⟨?_, rfl⟩, by simp⟩
    rw [ofBigEndian_bigEndian, Nat.mod_eq_of_lt (toNat_lt value), ofNat_toNat]

theorem accepts_int32 : Accepts readInt32 fun value front => front = writeInt32 value := by
  refine accepts_word (fun n => (UInt32.ofNat n).toInt32) (fun value => value.toUInt32.toNat)
    ?_ ?_ ?_
  · intro value
    simp
  · intro n small
    simpa [byteWeight] using small
  · intro value
    exact value.toUInt32.toNat_lt

theorem run_readInt32_of_short {word : Bytes} (short : word.length < 4) :
    readInt32.run word = .error (.framing (.truncated "integer" 4 word.length)) word := by
  have refused : (take 4 "integer").run word =
      .error (.framing (.truncated "integer" 4 word.length)) word := if_neg (Nat.not_le.mpr short)
  rw [readInt32, EStateM.run_bind, refused]

theorem exists_eq_writeInt32_append {word : Bytes} (enough : ¬word.length < 4) :
    ∃ value rest, word = writeInt32 value ++ rest := by
  have taken : (take 4 "integer").run word = .ok (word.take 4) (word.drop 4) :=
    run_take_eq_ok.mpr
      ⟨(List.take_append_drop 4 word).symm, List.length_take_of_le (Nat.not_lt.mp enough)⟩
  have read : ∃ value, readInt32.run word = .ok value (word.drop 4) := by
    rw [readInt32, EStateM.run_bind, taken]
    exact ⟨_, rfl⟩
  obtain ⟨value, read⟩ := read
  obtain ⟨front, rfl, same⟩ := (accepts_int32 ..).mp read
  exact ⟨value, _, same⟩

theorem run_readInt32_append (value : Int32) (rest : Bytes) :
    readInt32.run (writeInt32 value ++ rest) = .ok value rest :=
  (accepts_int32 ..).mpr ⟨_, rfl, rfl⟩

theorem accepts_double : Accepts readDouble fun value front => front = writeDouble value := by
  refine accepts_word (fun n => Double.mk (UInt64.ofNat n)) (fun value => value.bits.toNat)
    ?_ ?_ ?_
  · rintro ⟨bits⟩
    simp
  · intro n small
    simpa [byteWeight] using small
  · intro value
    exact value.bits.toNat_lt

theorem run_expectEnd_eq_ok {what : String} {bytes rest : Bytes} {value : Unit} :
    (expectEnd what).run bytes = .ok value rest ↔ bytes = [] ∧ rest = [] := by
  cases bytes with
  | nil => simp [expectEnd, EStateM.run, eq_comm]
  | cons first later => simp [expectEnd, EStateM.run]

/-- A reader with nothing behind it accepts the forms themselves. -/
theorem run_toEnd_eq_ok {reader : Decoder α} {Form : α → Bytes → Prop}
    (accepts : Accepts reader Form) {what : String} {bytes rest : Bytes} {value : α} :
    (do let given ← reader; expectEnd what; return given : Decoder α).run bytes =
        .ok value rest ↔ Form value bytes ∧ rest = [] := by
  simp only [run_bind_eq_ok, run_expectEnd_eq_ok, EStateM.run_pure]
  constructor
  · intro read
    obtain ⟨given, _, first, _, _, ⟨rfl, rfl⟩, last⟩ := read
    obtain ⟨rfl, rfl⟩ := EStateM.Result.ok.inj last
    obtain ⟨front, form, rfl⟩ := (accepts ..).mp first
    rw [List.append_nil]
    exact ⟨form, rfl⟩
  · intro formed
    obtain ⟨form, rfl⟩ := formed
    have first := (accepts bytes [] value).mpr ⟨bytes, form, (List.append_nil _).symm⟩
    exact ⟨value, [], first, (), [], ⟨rfl, rfl⟩, rfl⟩

end RemoteCrowd.Wire
