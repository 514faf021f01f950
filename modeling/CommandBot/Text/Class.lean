import CommandBot.Text.Ranges

/-!
# Classes of characters

The classes that chat lines, links and quoted texts are read by. White space, digits and word
characters are those of Unicode; names of commands and modules are plain ASCII.
-/

namespace CommandBot.Text

/-- Whether the code point `n` lies in one of the ranges. -/
def Ranges.contains (ranges : List (Nat × Nat)) (n : Nat) : Bool :=
  ranges.any fun range => range.1 ≤ n && n ≤ range.2

/-- White space, as it separates the words of a line. -/
def isBlank (c : Char) : Bool := Ranges.contains Ranges.whiteSpace c.toNat

/-- A digit of any decimal system. -/
def isDigit (c : Char) : Bool := Ranges.contains Ranges.decimalNumber c.toNat

/-- A letter, mark, digit or connector of any script. -/
def isWordChar (c : Char) : Bool := Ranges.contains Ranges.word c.toNat

/-- A letter of the Hangul script that has no glyph and only fills a place. -/
def isFiller (c : Char) : Bool := [0x115F, 0x1160, 0x3164, 0xFFA0].contains c.toNat

/-- A sound mark of halfwidth Katakana. It takes a place of its own in the line. -/
def isHalfwidthMark (c : Char) : Bool := c.toNat == 0xFF9E || c.toNat == 0xFF9F

/-- A mark that is drawn onto the character before it. -/
def isGraphemeExtend (c : Char) : Bool := Ranges.contains Ranges.graphemeExtend c.toNat

/-- A character that is visible on its own; of the separators only the plain blank is. -/
def isPrintable (c : Char) : Bool :=
  c == ' ' || isHalfwidthMark c ||
    !(Ranges.contains Ranges.unprintable c.toNat || isFiller c || isGraphemeExtend c)

/-- A letter that has case. -/
def isCased (c : Char) : Bool := Ranges.contains Ranges.cased c.toNat

/-- A character that does not end a word for the purpose of casing. -/
def isCaseIgnorable (c : Char) : Bool := Ranges.contains Ranges.caseIgnorable c.toNat

/-- A character of command, module and placeholder names: `A-Z`, `a-z`, `0-9` or `_`. -/
def isNameChar (c : Char) : Bool := c.isAlphanum || c == '_'

/-- A text is blank when it holds nothing but white space. -/
def isBlankText (s : String) : Bool := s.toList.all isBlank

@[simp] theorem isBlankText_empty : isBlankText "" = true := by
  simp [isBlankText]

theorem isNameChar_iff (c : Char) : isNameChar c = true ↔ c.isAlphanum = true ∨ c = '_' := by
  simp [isNameChar]

end CommandBot.Text
