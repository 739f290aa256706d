import RemoteCrowd.Bytes
import RemoteCrowd.Json.Fault

/-!
A cursor in the bytes of a JSON document. Malformed text is refused where it is met. A
value that is well formed and unsuitable is refused without a place, and gets one from the
value that encloses it.
-/

namespace RemoteCrowd.Json

/-- The unread bytes, and how far reading has come: the line, counted from one, and the
bytes read on it. -/
structure Cursor where
  rest : Bytes
  line : Nat := 1
  column : Nat := 0

/-- The cursor behind the next byte, or the same cursor where there is none. -/
def Cursor.advance (cursor : Cursor) : Cursor :=
  match cursor.rest with
  | [] => cursor
  | b :: rest =>
    if b.toNat = '\n'.toNat then ⟨rest, cursor.line + 1, 0⟩
    else ⟨rest, cursor.line, cursor.column + 1⟩

/-- A problem, and its line and column once they are known. -/
structure Refusal where
  problem : Problem
  place : Option (Nat × Nat)

/-- A reader of parts of a document. -/
abbrev Scan := EStateM Refusal Cursor

/-- Refuse behind the bytes read so far. -/
def fail {α : Type} (problem : Problem) : Scan α := fun cursor =>
  .error ⟨problem, some (cursor.line, cursor.column)⟩ cursor

/-- Refuse because of the next byte, and count it. -/
def failAhead {α : Type} (problem : Problem) : Scan α := fun cursor =>
  .error ⟨problem, some (cursor.advance.line, cursor.advance.column)⟩ cursor

/-- Refuse a value that is well formed. -/
def mismatch {α : Type} (problem : Problem) : Scan α := fun cursor =>
  .error ⟨problem, none⟩ cursor

/-- Give a refusal without a place the place that reading has come to. -/
def settle {α : Type} (scan : Scan α) : Scan α := fun cursor =>
  match scan cursor with
  | .error ⟨problem, none⟩ after => fail problem after
  | result => result

/-- The next byte, as the character with its code. -/
def peek : Scan (Option Char) := fun cursor =>
  .ok (cursor.rest.head?.map fun b => Char.ofNat b.toNat) cursor

/-- Pass over the next byte. -/
def advance : Scan Unit := fun cursor => .ok () cursor.advance

/-- Read the next byte, as the character with its code. -/
def next : Scan (Option Char) := do
  let c ← peek
  advance
  return c

/-- The number of bytes left, which bounds every further repetition. -/
def remaining : Scan Nat := fun cursor => .ok cursor.rest.length cursor

/-- The next byte if it is accepted. -/
def nextIf (accept : Char → Bool) : Scan (Option Char) := do
  match ← peek with
  | some c => if accept c then do advance; return some c else return none
  | none => return none

/-- Pass over bytes as long as they are accepted, and count them. -/
def skipWhile (accept : Char → Bool) : Scan Nat := fun cursor =>
  go cursor cursor.rest.length 0
where
  go (cursor : Cursor) : Nat → Nat → EStateM.Result Refusal Cursor Nat
    | 0, count => .ok count cursor
    | left + 1, count =>
      match cursor.rest.head? with
      | some b =>
        if accept (Char.ofNat b.toNat) then go cursor.advance left (count + 1)
        else .ok count cursor
      | none => .ok count cursor

def isSpace (c : Char) : Bool := c == ' ' || c == '\n' || c == '\t' || c == '\r'

def isDigit (c : Char) : Bool := '0' ≤ c && c ≤ '9'

/-- The next byte that is no white space, which stays unread. -/
def peekToken : Scan (Option Char) := do
  let _ ← skipWhile isSpace
  peek

/-- The rest of a word whose first letter has been read. -/
def word : List Char → Scan Unit
  | [] => return ()
  | c :: rest => do
    match ← next with
    | none => fail .valueEnds
    | some found => if found = c then word rest else fail .expectedWord

/-- Pass over the colon behind a key. -/
def colon : Scan Unit := do
  match ← peekToken with
  | some ':' => advance
  | some _ => failAhead .expectedColon
  | none => failAhead .objectEnds

end RemoteCrowd.Json
