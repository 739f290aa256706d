import RemoteCrowd.Text.Numeral

/-!
What can be wrong with a JSON document: the problem, and where reading stopped. Problems
fall into three categories: the text ended early, it is malformed, or it is well formed and
does not describe what was asked for.
-/

namespace RemoteCrowd.Json

inductive Category where
  | endOfText
  | malformed
  | mismatch
deriving DecidableEq, Inhabited

/-- Why a document is refused. -/
inductive Problem where
  | listEnds
  | objectEnds
  | stringEnds
  | valueEnds
  | expectedColon
  | expectedListComma
  | expectedObjectComma
  | expectedWord
  | expectedValue
  | badEscape
  | badNumber
  | numberTooLarge
  | controlCharacter
  | keyNotString
  | loneSurrogate
  | trailingComma
  | trailingCharacters
  | brokenSurrogatePair
  | wrongType (found expected : String)
  | outOfRange (found expected : String)
  | tooShort (length : Nat) (expected : String)
  | missingField (name : String)
  | duplicateField (name : String)
deriving DecidableEq, Inhabited

def Problem.category : Problem → Category
  | listEnds | objectEnds | stringEnds | valueEnds => .endOfText
  | wrongType .. | outOfRange .. | tooShort .. | missingField _ | duplicateField _ => .mismatch
  | _ => .malformed

def Problem.message : Problem → String
  | listEnds => "EOF while parsing a list"
  | objectEnds => "EOF while parsing an object"
  | stringEnds => "EOF while parsing a string"
  | valueEnds => "EOF while parsing a value"
  | expectedColon => "expected `:`"
  | expectedListComma => "expected `,` or `]`"
  | expectedObjectComma => "expected `,` or `\x7d`"
  | expectedWord => "expected ident"
  | expectedValue => "expected value"
  | badEscape => "invalid escape"
  | badNumber => "invalid number"
  | numberTooLarge => "number out of range"
  | controlCharacter =>
    "control character (\\u0000-\\u001F) found while parsing a string"
  | keyNotString => "key must be a string"
  | loneSurrogate => "lone leading surrogate in hex escape"
  | trailingComma => "trailing comma"
  | trailingCharacters => "trailing characters"
  | brokenSurrogatePair => "unexpected end of hex escape"
  | wrongType found expected => "invalid type: " ++ found ++ ", expected " ++ expected
  | outOfRange found expected => "invalid value: " ++ found ++ ", expected " ++ expected
  | tooShort length expected =>
    "invalid length " ++ Text.integer length ++ ", expected " ++ expected
  | missingField name => "missing field `" ++ name ++ "`"
  | duplicateField name => "duplicate field `" ++ name ++ "`"

/-- A refused document: the problem, the line, counted from one, and the number of bytes
read on that line. -/
structure Fault where
  problem : Problem
  line : Nat
  column : Nat
deriving DecidableEq, Inhabited

def Fault.category (fault : Fault) : Category := fault.problem.category

def Fault.message (fault : Fault) : String :=
  fault.problem.message ++ " at line " ++ Text.integer fault.line ++ " column " ++
    Text.integer fault.column

end RemoteCrowd.Json
