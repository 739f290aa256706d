import RemoteCrowd.Bytes
import RemoteCrowd.Error

/-!
Reading from the front of a byte string. A decoder either gives a value or an error, and in
both cases says which bytes it left unread. Every read checks first that enough bytes are
left, so a short buffer is an error and never a guess.
-/

namespace RemoteCrowd.Wire

/-- A reader of values from the front of a byte string. -/
abbrev Decoder := EStateM Error Bytes

/-- A check that reads nothing. -/
def orThrow {α : Type} : Except Error α → Decoder α
  | .ok value => return value
  | .error cause => throw cause

/-- Refuse unless `count` bytes are left for `item`. -/
def need (count : Nat) (item : String) : Decoder Unit := fun bytes =>
  if count ≤ bytes.length then .ok () bytes
  else .error (.framing (.truncated item count bytes.length)) bytes

/-- The next `count` bytes, which make up `item`. -/
def take (count : Nat) (item : String) : Decoder Bytes := fun bytes =>
  if count ≤ bytes.length then .ok (bytes.take count) (bytes.drop count)
  else .error (.framing (.truncated item count bytes.length)) bytes

def readUInt8Named (item : String) : Decoder UInt8
  | [] => .error (.framing (.truncated item 1 0)) []
  | b :: rest => .ok b rest

def readUInt8 : Decoder UInt8 := readUInt8Named "unsigned byte"

def readInt8 : Decoder Int8 := do
  return (← readUInt8Named "byte").toInt8

/-- A signed 32-bit number in big-endian order. -/
def readInt32 : Decoder Int32 := do
  return (UInt32.ofNat (ofBigEndian (← take 4 "integer"))).toInt32

/-- The bit pattern of a double in big-endian order. -/
def readDouble : Decoder Double := do
  return ⟨UInt64.ofNat (ofBigEndian (← take 8 "double"))⟩

def readBytes (count : Nat) : Decoder Bytes := take count "raw bytes"

/-- Every byte is an ASCII character. -/
def isAsciiBytes (bytes : Bytes) : Bool := bytes.all fun b => b < 128

/-- The text whose characters are the given ASCII bytes. -/
def ofAsciiBytes (bytes : Bytes) : String :=
  String.ofList (bytes.map fun b => Char.ofNat b.toNat)

/-- An ASCII text behind its length. The bytes of the text are used up even where one of
them is not ASCII. -/
def readString : Decoder String := do
  let length ← readInt32
  if length < 0 then throw (.framing (.negativeString length))
  else
    let bytes ← take length.toInt.toNat "string"
    if isAsciiBytes bytes then return ofAsciiBytes bytes
    else throw (.encoding .notAsciiBytes)

/-- Read `count` items one after another. -/
def readMany {α : Type} (item : Decoder α) : Nat → Decoder (List α)
  | 0 => return []
  | count + 1 => do
    let first ← item
    let rest ← readMany item count
    return first :: rest

/-- Texts behind their number. Each of them needs four bytes at least, so a number that
the buffer cannot hold is refused at once. -/
def readStringList : Decoder (List String) := do
  let count ← readInt32
  if count < 0 then throw (.framing (.negativeStringList count))
  else
    need (count.toInt.toNat * 4) "string list"
    readMany readString count.toInt.toNat

/-- Refuse bytes left over behind `what`. -/
def expectEnd (what : String) : Decoder Unit := fun bytes =>
  if bytes.isEmpty then .ok () bytes
  else .error (.framing (.trailing bytes.length what)) bytes

theorem run_bind_eq_ok {α β : Type} {first : Decoder α} {next : α → Decoder β}
    {bytes rest : Bytes} {value : β} :
    (first >>= next).run bytes = .ok value rest ↔
      ∃ a mid, first.run bytes = .ok a mid ∧ (next a).run mid = .ok value rest := by
  rw [EStateM.run_bind]
  constructor
  · intro h
    split at h
    · next a mid read => exact ⟨a, mid, read, h⟩
    · cases h
  · rintro ⟨a, mid, read, h⟩
    simp [read, h]

theorem run_need_eq_ok {count : Nat} {item : String} {bytes rest : Bytes} {value : Unit} :
    (need count item).run bytes = .ok value rest ↔ bytes = rest ∧ count ≤ bytes.length := by
  simp only [need, EStateM.run]
  split
  · simp_all
  · next short => simp [short]

theorem run_take_eq_ok {count : Nat} {item : String} {bytes front rest : Bytes} :
    (take count item).run bytes = .ok front rest ↔
      bytes = front ++ rest ∧ front.length = count := by
  simp only [take, EStateM.run]
  constructor
  · intro h
    split at h
    · next enough =>
      obtain ⟨rfl, rfl⟩ := EStateM.Result.ok.inj h
      simp [enough]
    · cases h
  · rintro ⟨rfl, rfl⟩
    simp

theorem run_readUInt8Named_eq_ok {item : String} {bytes rest : Bytes} {value : UInt8} :
    (readUInt8Named item).run bytes = .ok value rest ↔ bytes = value :: rest := by
  cases bytes <;> simp [readUInt8Named, EStateM.run]

@[simp] theorem run_throw {α : Type} (cause : Error) (bytes : Bytes) :
    (throw cause : Decoder α).run bytes = .error cause bytes := rfl

theorem run_orThrow_eq_ok {α : Type} {result : Except Error α} {bytes rest : Bytes} {value : α} :
    (orThrow result).run bytes = .ok value rest ↔ result = .ok value ∧ bytes = rest := by
  cases result with
  | ok given => simp [orThrow]
  | error cause => simp [orThrow]

end RemoteCrowd.Wire
