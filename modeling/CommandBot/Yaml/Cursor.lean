/-!
# Places in a YAML text

A `Cursor` is what is left of a text, with the line and the column at which it starts. A `Gap` is
what stands between two parts of a scalar: blanks within a line, or line ends with blanks around
them.
-/

namespace CommandBot.Yaml

def isBreak (c : Char) : Bool := c == '\n' || c.toNat == 0x2028 || c.toNat == 0x2029

/-- A character that leaves room in a line. -/
def isSpace (c : Char) : Bool := c == ' ' || c == '\t'

/-- The mark that may stand at the start of a line and has no meaning there. -/
def isOrderMark (c : Char) : Bool := c.toNat == 0xFEFF

/-- A character of the names of marks, directives and tag handles. -/
def isWordChar (c : Char) : Bool := c.isAlphanum || c == '-' || c == '_'

/-- A character that has a meaning of its own inside brackets. -/
def isBracketOrComma (c : Char) : Bool :=
  c == ',' || c == '[' || c == ']' || c == '\x7b' || c == '\x7d'

/-- What is left of a text, with its line and its column. -/
structure Cursor where
  rest : List Char
  line : Nat
  column : Nat
  deriving Repr

namespace Cursor

/-- Whether the first of some characters is white space or a line end, or there is none. -/
def isGap : List Char → Bool
  | [] => true
  | c :: _ => isSpace c || isBreak c

def atLineEnd (cur : Cursor) : Bool := cur.rest.head?.all isBreak

/-- The cursor after a character, the first of what is left, and before `rest`. -/
def past (cur : Cursor) (c : Char) (rest : List Char) : Cursor :=
  if isBreak c then ⟨rest, cur.line + 1, 0⟩ else ⟨rest, cur.line, cur.column + 1⟩

/-- The cursor after so many characters of its line. -/
def advance (cur : Cursor) (n : Nat) : Cursor := ⟨cur.rest.drop n, cur.line, cur.column + n⟩

/-- The characters up to the first that is not of a kind, and the cursor there. -/
def span (cur : Cursor) (kind : Char → Bool) : List Char × Cursor :=
  let word := cur.rest.takeWhile kind
  (word, cur.advance word.length)

/-- The cursor after blanks. -/
def skipSpaces (cur : Cursor) : Cursor := (cur.span isSpace).2

/-- The cursor after the end of its line, if that is here. -/
def skipBreak (cur : Cursor) : Cursor :=
  match cur.rest with
  | c :: rest => if isBreak c then cur.past c rest else cur
  | [] => cur

/-- The cursor at the end of its line, before which only blanks and a comment may stand. -/
def lineEnd? (cur : Cursor) : Option Cursor :=
  let cur := cur.skipSpaces
  if cur.rest.head? == some '#' then some (cur.span (!isBreak ·)).2
  else if cur.atLineEnd then some cur
  else none

/-- Whether a document starts or ends here. -/
def atMarker (cur : Cursor) : Bool :=
  cur.column == 0 &&
    match cur.rest with
    | a :: b :: c :: rest => ((a == '-' && b == '-' && c == '-')
        || (a == '.' && b == '.' && c == '.')) && isGap rest
    | _ => false

end Cursor

/-- What stands between two parts of a scalar: the blanks before the first line end, and the line
ends, both in reverse. A line may have been joined to the next one by a backslash at its end. -/
structure Gap where
  spaces : List Char := []
  breaks : List Char := []
  joined : Bool := false

namespace Gap

/-- Whether the line has ended. -/
def endsLine (g : Gap) : Bool := g.joined || !g.breaks.isEmpty

/-- Adds a blank; those at the start of a line do not count. -/
def addSpace (g : Gap) (c : Char) : Gap :=
  if g.endsLine then g else { g with spaces := c :: g.spaces }

def addBreak (g : Gap) (c : Char) : Gap := { g with breaks := c :: g.breaks }

/-- What line ends inside a scalar stand for: a single line feed becomes a blank, and of several
line ends the first is dropped if it is a line feed. -/
def folded : List Char → List Char
  | ['\n'] => [' ']
  | '\n' :: others => others
  | breaks => breaks

/-- A text, given in reverse, with what the gap after it stands for. -/
def fill (g : Gap) (text : List Char) : List Char :=
  if g.joined then g.breaks ++ text
  else if g.breaks.isEmpty then g.spaces ++ text
  else (folded g.breaks.reverse).reverse ++ text

@[simp] theorem fill_empty (text : List Char) : ({} : Gap).fill text = text := by
  simp [fill]

end Gap

end CommandBot.Yaml
