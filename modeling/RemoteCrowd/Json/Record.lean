import RemoteCrowd.Json.Skip
import RemoteCrowd.Text.Quoted

/-!
Typed reading: scalars, lists and records. A record is an object with known keys, in any
order and among unknown ones, or a list of the values of its fields in their order.
-/

namespace RemoteCrowd.Json

/-- Refuse the next value, which is not of the expected kind. A scalar is read first, so
that a malformed one is refused as such. -/
def refuseValue {α : Type} (expected : String) : Scan α := settle do
  match ← peek with
  | some 'n' => do advance; word ['u', 'l', 'l']; mismatch (.wrongType "null" expected)
  | some 't' => do
    advance
    word ['r', 'u', 'e']
    mismatch (.wrongType "boolean `true`" expected)
  | some 'f' => do
    advance
    word ['a', 'l', 's', 'e']
    mismatch (.wrongType "boolean `false`" expected)
  | some '-' => do
    advance
    mismatch (.wrongType (← readNumeral false).describe expected)
  | some '"' => do
    advance
    mismatch (.wrongType ("string " ++ Text.quoted (← readText)) expected)
  | some '[' => mismatch (.wrongType "sequence" expected)
  | some '\x7b' => mismatch (.wrongType "map" expected)
  | some c =>
    if isDigit c then mismatch (.wrongType (← readNumeral true).describe expected)
    else failAhead .expectedValue
  | none => failAhead .expectedValue

/-- A string. -/
def readString : Scan String := settle do
  match ← peekToken with
  | none => failAhead .valueEnds
  | some '"' => do advance; readText
  | some _ => refuseValue "a string"

/-- A number, or the refusal of whatever else comes. -/
private def readNumber (expected : String) : Scan Numeral := do
  match ← peekToken with
  | none => failAhead .valueEnds
  | some '-' => do advance; readNumeral false
  | some c => if isDigit c then readNumeral true else refuseValue expected

/-- A double; whole numbers count as doubles too. -/
def readDouble : Scan Double := settle do
  return (← readNumber "f64").toDouble

/-- A whole number of 32 bits. -/
def readInt32 : Scan Int32 := settle do
  let number ← readNumber "i32"
  match number with
  | .natural n =>
    if n < 1 <<< 31 then return Int32.ofNat n
    else mismatch (.outOfRange number.describe "i32")
  | .negative n =>
    if n ≤ 1 <<< 31 then return Int32.ofInt (-n)
    else mismatch (.outOfRange number.describe "i32")
  | .double _ => mismatch (.wrongType number.describe "i32")

/-- Whether another element follows, in front of which the cursor then stands. -/
private def hasElement (first : Bool) : Scan Bool := do
  match ← peekToken with
  | none => failAhead .listEnds
  | some ']' => return false
  | some c =>
    if first then return true
    else if c = ',' then do
      advance
      match ← peekToken with
      | some ']' => failAhead .trailingComma
      | some _ => return true
      | none => failAhead .valueEnds
    else failAhead .expectedListComma

/-- Whether another key follows, behind whose quote the cursor then stands. -/
private def hasKey (first : Bool) : Scan Bool := do
  match ← peekToken with
  | none => failAhead .objectEnds
  | some '\x7d' => return false
  | some c =>
    if first then
      if c = '"' then do advance; return true else failAhead .keyNotString
    else if c = ',' then do
      advance
      match ← peekToken with
      | some '"' => do advance; return true
      | some '\x7d' => failAhead .trailingComma
      | some _ => failAhead .keyNotString
      | none => failAhead .valueEnds
    else failAhead .expectedObjectComma

/-- Close a list. -/
private def endList : Scan Unit := do
  match ← peekToken with
  | some ']' => advance
  | some ',' => do
    advance
    match ← peekToken with
    | some ']' => failAhead .trailingComma
    | _ => failAhead .trailingCharacters
  | some _ => failAhead .trailingCharacters
  | none => failAhead .listEnds

/-- Close an object. -/
private def endObject : Scan Unit := do
  match ← peekToken with
  | some '\x7d' => advance
  | some ',' => failAhead .trailingComma
  | some _ => failAhead .trailingCharacters
  | none => failAhead .objectEnds

/-- Read a content and then its closing bracket. The bracket is looked for even where the
content was refused; the refusal of the content wins. -/
private def enclosed {α : Type} (content : Scan α) (close : Scan Unit) : Scan α := fun cursor =>
  match content cursor with
  | .ok value after =>
    match close after with
    | .ok _ behind => .ok value behind
    | .error refusal behind => .error refusal behind
  | .error refusal after =>
    match close after with
    | .ok _ behind | .error _ behind => .error refusal behind

private def readItems {α : Type} (item : Scan α) : Nat → Bool → Scan (List α)
  | 0, _ => return []
  | left + 1, first => do
    if ← hasElement first then
      let head ← item
      return head :: (← readItems item left false)
    else return []

/-- A list of items of one kind. -/
def readList {α : Type} (item : Scan α) : Scan (List α) := settle do
  match ← peekToken with
  | none => failAhead .valueEnds
  | some '[' => do
    advance
    let items := readItems item ((← remaining) + 1) true
    enclosed items endList
  | some _ => refuseValue "a sequence"

/-- One field of a record that is being filled. -/
structure Field (δ : Type) where
  name : String
  isSet : δ → Bool
  read : δ → Scan δ

/-- A kind of record: what it is called, its fields in order, and how a filled draft is
completed. Completion is told which problem an absent field is, by its position and name. -/
structure Shape (δ α : Type) where
  name : String
  draft : δ
  fields : List (Field δ)
  complete : (Nat → String → Problem) → δ → Except Problem α

/-- Fill the fields in order from a list, which may end early. -/
private def fillInOrder {δ : Type} : List (Field δ) → Bool → δ → Scan δ
  | [], _, draft => return draft
  | field :: rest, first, draft => do
    if ← hasElement first then fillInOrder rest false (← field.read draft)
    else return draft

/-- Fill the fields from keys. A key may not come twice, and unknown ones are passed
over. -/
private def fillByKey {δ : Type} (fields : List (Field δ)) : Nat → Bool → δ → Scan δ
  | 0, _, draft => return draft
  | left + 1, first, draft => do
    if ← hasKey first then
      let key ← readText
      match fields.find? fun field => field.name == key with
      | some field =>
        if field.isSet draft then mismatch (.duplicateField key)
        else
          colon
          fillByKey fields left false (← field.read draft)
      | none =>
        colon
        skipValue
        fillByKey fields left false draft
    else return draft

private def completed {α : Type} : Except Problem α → Scan α
  | .ok value => return value
  | .error problem => mismatch problem

/-- A record. -/
def readRecord {δ α : Type} (shape : Shape δ α) : Scan α := settle do
  match ← peekToken with
  | none => failAhead .valueEnds
  | some '[' => do
    advance
    let tooShort (position : Nat) (_ : String) : Problem :=
      .tooShort position
        (shape.name ++ " with " ++ Text.integer shape.fields.length ++ " elements")
    let content := do
      completed (shape.complete tooShort (← fillInOrder shape.fields true shape.draft))
    enclosed content endList
  | some '\x7b' => do
    advance
    let missing (_ : Nat) (name : String) : Problem := .missingField name
    let bound := (← remaining) + 1
    let content := do
      completed (shape.complete missing (← fillByKey shape.fields bound true shape.draft))
    enclosed content endObject
  | some _ => refuseValue shape.name

/-- The whole document as one value, with nothing but white space around it. -/
def readDocument {α : Type} (value : Scan α) (text : String) : Except Fault α :=
  let whole : Scan α := settle do
    let result ← value
    match ← peekToken with
    | some _ => failAhead .trailingCharacters
    | none => return result
  match whole ⟨text.toUTF8.toList, 1, 0⟩ with
  | .ok result _ => .ok result
  | .error ⟨problem, place⟩ cursor =>
    let (line, column) := place.getD (cursor.line, cursor.column)
    .error ⟨problem, line, column⟩

end RemoteCrowd.Json
