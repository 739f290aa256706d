import RemoteCrowd.Json.Number
import RemoteCrowd.Json.Text

/-!
Passing over a value that nobody asked for, however deep it is nested. The enclosing lists
and objects are kept on a stack.
-/

namespace RemoteCrowd.Json

/-- What encloses a value. -/
inductive Enclosure where
  | list
  | object
deriving DecidableEq

private def Enclosure.closing : Enclosure → Char
  | list => ']'
  | object => '\x7d'

private def Enclosure.ends : Enclosure → Problem
  | list => .listEnds
  | object => .objectEnds

private def Enclosure.expectedComma : Enclosure → Problem
  | list => .expectedListComma
  | object => .expectedObjectComma

/-- Pass over a scalar, or enter a list or an object. -/
private def enter : Scan (Option Enclosure) := do
  match ← peekToken with
  | none => failAhead .valueEnds
  | some c =>
    match c with
    | 'n' => do advance; word ['u', 'l', 'l']; return none
    | 't' => do advance; word ['r', 'u', 'e']; return none
    | 'f' => do advance; word ['a', 'l', 's', 'e']; return none
    | '-' => do advance; skipNumeral; return none
    | '"' => do advance; skipText; return none
    | '[' => do advance; return some .list
    | '\x7b' => do advance; return some .object
    | c => if isDigit c then do skipNumeral; return none else failAhead .expectedValue

/-- Leave enclosures as long as they close. What stays open comes back, and a comma behind
a value has been read; nothing is open where the outermost value is complete. Right behind
an opening bracket there is no comma yet. -/
private def leave (afterValue : Bool) : List Enclosure → Scan (List Enclosure)
  | [] => return []
  | inner :: outer => do
    match ← peekToken with
    | none => failAhead inner.ends
    | some c =>
      if c = inner.closing then do
        advance
        leave true outer
      else if afterValue then
        if c = ',' then do
          advance
          return inner :: outer
        else failAhead inner.expectedComma
      else return inner :: outer

/-- Pass over the key and the colon in front of a value in an object. -/
private def skipKey : Scan Unit := do
  match ← peekToken with
  | some '"' => advance
  | some _ => failAhead .keyNotString
  | none => failAhead .objectEnds
  skipText
  colon

/-- Pass over values until nothing is open. Every value takes at least one byte. -/
private def skipOpen : Nat → List Enclosure → Scan Unit
  | 0, _ => fail .valueEnds
  | left + 1, stack => do
    let stillOpen ← match ← enter with
      | some inner => leave false (inner :: stack)
      | none => leave true stack
    match stillOpen with
    | [] => return ()
    | .list :: _ => skipOpen left stillOpen
    | .object :: _ => do
      skipKey
      skipOpen left stillOpen

/-- Pass over the next value. -/
def skipValue : Scan Unit := do
  skipOpen ((← remaining) + 1) []

end RemoteCrowd.Json
