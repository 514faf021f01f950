import CommandBot.Json.Basic
import CommandBot.Number.Decimal

/-!
# Writing JSON

`Json.pretty` writes each item and member on a line of its own, indented by two blanks per level,
and an empty array or object as two brackets. `Json.compact` writes no white space. In strings,
quotes, backslashes and controls are escaped, and every other character stands for itself.
-/

namespace CommandBot.Json

def hexDigit (n : Nat) : Char := Nat.digitChar n

/-- One character as it is written in a string. -/
def escapeChar (c : Char) : List Char :=
  if c = '"' then ['\\', '"']
  else if c = '\\' then ['\\', '\\']
  else if c = '\n' then ['\\', 'n']
  else if c = '\r' then ['\\', 'r']
  else if c = '\t' then ['\\', 't']
  else if c.toNat = 8 then ['\\', 'b']
  else if c.toNat = 12 then ['\\', 'f']
  else if c.toNat < 32 then ['\\', 'u', '0', '0', hexDigit (c.toNat / 16), hexDigit (c.toNat % 16)]
  else [c]

def stringText (s : String) : List Char := '"' :: s.toList.flatMap escapeChar ++ ['"']

/-- A line end and the indentation of the given level. -/
def lineBreak (level : Nat) : List Char := '\n' :: List.replicate (2 * level) ' '

/-- The text of a value without parts. -/
def scalarText : Json → List Char
  | .null => "null".toList
  | .bool true => "true".toList
  | .bool false => "false".toList
  | .integer n => (toString n).toList
  | .float x => x.text.toList
  | .string s => stringText s
  | .array _ => "[]".toList
  | .object _ => ['\x7b', '\x7d']

mutual

/-- The text of a value whose lines after the first are indented for `level`. -/
def prettyFrom (level : Nat) : Json → List Char
  | .array (item :: rest) =>
      '[' :: lineBreak (level + 1) ++ prettyFrom (level + 1) item
        ++ prettyItems (level + 1) rest ++ lineBreak level ++ [']']
  | .object ((key, value) :: rest) =>
      '\x7b' :: lineBreak (level + 1) ++ stringText key ++ ":".toList ++ " ".toList
        ++ prettyFrom (level + 1) value
        ++ prettyMembers (level + 1) rest ++ lineBreak level ++ ['\x7d']
  | value => scalarText value

/-- The items of an array after its first. -/
def prettyItems (level : Nat) : List Json → List Char
  | [] => []
  | item :: rest => ',' :: lineBreak level ++ prettyFrom level item ++ prettyItems level rest

/-- The members of an object after its first. -/
def prettyMembers (level : Nat) : List (String × Json) → List Char
  | [] => []
  | (key, value) :: rest =>
      ',' :: lineBreak level ++ stringText key ++ ":".toList ++ " ".toList
        ++ prettyFrom level value ++ prettyMembers level rest

end

mutual

/-- The text of a value without white space. -/
def compactText : Json → List Char
  | .array (item :: rest) => '[' :: compactText item ++ compactItems rest ++ [']']
  | .object ((key, value) :: rest) =>
      '\x7b' :: stringText key ++ ':' :: compactText value ++ compactMembers rest ++ ['\x7d']
  | value => scalarText value

/-- The items of an array after its first. -/
def compactItems : List Json → List Char
  | [] => []
  | item :: rest => ',' :: compactText item ++ compactItems rest

/-- The members of an object after its first. -/
def compactMembers : List (String × Json) → List Char
  | [] => []
  | (key, value) :: rest =>
      ',' :: stringText key ++ ':' :: compactText value ++ compactMembers rest

end

def pretty (value : Json) : String := String.ofList (prettyFrom 0 value)

def compact (value : Json) : String := String.ofList (compactText value)

end CommandBot.Json
