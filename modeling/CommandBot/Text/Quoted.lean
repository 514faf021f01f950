import CommandBot.Text.Class

/-!
# Quoted texts

`quoted` writes a text between double quotes so that each character of it can be seen: quotes,
backslashes and the common controls are written with a backslash, and whatever is not visible on
its own by the hexadecimal number of its code point.
-/

namespace CommandBot.Text

/-- The lowercase hexadecimal digits of a number, without leading zeros. -/
def hexadecimal (n : Nat) : List Char := Nat.toDigits 16 n

/-- One character as it stands between quotes. -/
def quotedChar (c : Char) : List Char :=
  if c = '"' then ['\\', '"']
  else if c = '\\' then ['\\', '\\']
  else if c = '\n' then ['\\', 'n']
  else if c = '\r' then ['\\', 'r']
  else if c = '\t' then ['\\', 't']
  else if c.toNat = 0 then ['\\', '0']
  else if isPrintable c then [c]
  else ['\\', 'u', '\x7b'] ++ hexadecimal c.toNat ++ ['\x7d']

def quoted (s : String) : String :=
  String.ofList ('"' :: s.toList.flatMap quotedChar ++ ['"'])

/-- The text between two grave accents. -/
def ticked (s : String) : String := "\x60" ++ s ++ "\x60"

end CommandBot.Text
