import CommandBot.Text.Casing

/-!
# Game modifiers

Modifiers are named by two characters each and are asked for in a row, with or without commas and
with or without a plus in front, in any letter case.
-/

namespace CommandBot.Request

/-- The modifiers that can be asked for. -/
def knownMods : List String :=
  ["EZ", "NF", "HT", "HR", "SD", "PF", "DT", "NC", "HD", "FL", "RX", "AP", "SO", "V2"]

/-- Cuts a text into pairs of characters; one that is left over stands alone. -/
def pairs : List Char → List String
  | a :: b :: rest => String.ofList [a, b] :: pairs rest
  | [a] => [String.ofList [a]]
  | [] => []

/-- The characters that name modifiers, in uppercase. -/
def modLetters (text : String) : List Char :=
  ((text.toList.dropWhile (· == '+')).filter (· != ',')).flatMap Text.upperChar

/-- The modifiers that a text asks for, each once, in order of first appearance. -/
def modsOf (text : String) : List String :=
  ((pairs (modLetters text)).filter knownMods.contains).eraseDups

/-- The modifiers as they are written in a message. -/
def modsText (text : String) : String :=
  match modsOf text with
  | [] => ""
  | mods => "+" ++ ",".intercalate mods

end CommandBot.Request
