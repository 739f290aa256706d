import RemoteCrowd.Text.CharacterClass
import RemoteCrowd.Text.Numeral

/-!
Quoted text: a string between double quotes in which every character can be seen. Quotes
and backslashes are escaped, four controls have short names, and characters without a
mark of their own are written by code point.
-/

namespace RemoteCrowd.Text

/-- One character inside double quotes. -/
def quotedChar (c : Char) : List Char :=
  match c with
  | '\x00' => ['\\', '0']
  | '\t' => ['\\', 't']
  | '\n' => ['\\', 'n']
  | '\r' => ['\\', 'r']
  | '"' => ['\\', '"']
  | '\\' => ['\\', '\\']
  | c =>
    if isExtending c || isHidden c then
      '\\' :: 'u' :: '\x7b' :: hexLower c.toNat ++ ['\x7d']
    else [c]

/-- A string in double quotes. -/
def quoted (text : String) : String :=
  String.ofList ('"' :: text.toList.flatMap quotedChar ++ ['"'])

/-- Quoted strings in square brackets, separated by commas. -/
def quotedList (texts : List String) : String :=
  "[" ++ ", ".intercalate (texts.map quoted) ++ "]"

/-- Every character outside ASCII becomes a question mark. -/
def asciiOnly (text : String) : String :=
  String.ofList (text.toList.map fun c => if c.toNat < 128 then c else '?')

/-- Whether every character is an ASCII character. -/
def isAscii (text : String) : Bool :=
  text.toList.all fun c => c.toNat < 128

theorem isAscii_append (first second : String) :
    isAscii (first ++ second) = (isAscii first && isAscii second) := by
  rw [isAscii, String.toList_append, List.all_append]
  rfl

end RemoteCrowd.Text
