import CommandBot.Text.Quoted

/-!
# Form encoding

Pairs of names and values as they are written in the query of a web address. Letters, digits and
`*`, `-`, `.` and `_` stand for themselves, a blank is a plus, and every other byte of the UTF-8
text is a percent sign and two hexadecimal digits.
-/

namespace CommandBot.Text

/-- A byte that stands for itself. -/
def isFormSafe (c : Char) : Bool :=
  c.isAlphanum || c == '*' || c == '-' || c == '.' || c == '_'

/-- One byte of a name or value. -/
def formByte (b : UInt8) : List Char :=
  let c := Char.ofNat b.toNat
  if c = ' ' then ['+']
  else if isFormSafe c then [c]
  else ['%', (Nat.digitChar (b.toNat / 16)).toUpper, (Nat.digitChar (b.toNat % 16)).toUpper]

/-- A name or a value. -/
def formText (s : String) : String :=
  String.ofList (s.toUTF8.toList.flatMap formByte)

/-- Pairs of names and values in order. -/
def formPairs (pairs : List (String × String)) : String :=
  "&".intercalate (pairs.map fun p => formText p.1 ++ "=" ++ formText p.2)

end CommandBot.Text
