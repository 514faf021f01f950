import CommandBot.Json.Token
import CommandBot.Yaml.Cursor

/-!
# Reading YAML scalars

Scalars are read with or without quotes. A scalar may go on over several lines, between which a
`Gap` says what their ends stand for.
-/

namespace CommandBot.Yaml

/-! ### Without quotes -/

/-- Whether a plain scalar may start with the first of some characters. -/
def startsPlain (inFlow : Bool) : List Char → Bool
  | [] => false
  | c :: rest =>
      if isSpace c || isBreak c then false
      else if c = '-' then !rest.head?.any isSpace
      else if c = '?' ∨ c = ':' then !inFlow && !Cursor.isGap rest
      else !("&*!|>%@#,[]\"'".toList.contains c || c == '\x60' || c == '\x7b' || c == '\x7d')

/-- Whether there is a colon that may neither stand in a plain scalar inside brackets nor end it. -/
def atStrayColon : List Char → Bool
  | ':' :: c :: _ => isBracketOrComma c || c == '?'
  | _ => false

/-- Whether the first of some characters ends a plain scalar: a colon before a gap, or inside
brackets one that has a meaning there. -/
def endsPlain (inFlow : Bool) : List Char → Bool
  | [] => true
  | c :: rest => (c == ':' && Cursor.isGap rest) || (inFlow && isBracketOrComma c)

/-- Whether a plain scalar does not go on after a gap, since the line is not indented, a document
starts or ends there, or a comment starts. -/
def endsAfterGap (inFlow : Bool) (indent : Nat) (cur : Cursor) : Bool :=
  (!inFlow && cur.column < indent) || cur.atMarker || cur.rest.head? == some '#'

/-- What has been read of a plain scalar, in reverse, the gap after it, and what is left. -/
structure PlainText where
  text : List Char
  gap : Gap
  cursor : Cursor

/-- Reads a plain scalar, in which lines are indented at least to `indent`. Of the blanks at the
start of a line none within the indentation may be a tab. -/
def plainFrom (inFlow : Bool) (indent : Nat) (text : List Char) (gap : Gap) (inGap : Bool)
    (line column : Nat) : List Char → Option PlainText
  | [] => some ⟨text, gap, ⟨[], line, column⟩⟩
  | c :: rest =>
      if isSpace c then
        if gap.endsLine && c == '\t' && column < indent then none
        else plainFrom inFlow indent text (gap.addSpace c) true line (column + 1) rest
      else if isBreak c then
        plainFrom inFlow indent text (gap.addBreak c) true (line + 1) 0 rest
      else if (inGap && endsAfterGap inFlow indent ⟨c :: rest, line, column⟩) then
        some ⟨text, gap, ⟨c :: rest, line, column⟩⟩
      else if inFlow && atStrayColon (c :: rest) then none
      else if endsPlain inFlow (c :: rest) then some ⟨text, gap, ⟨c :: rest, line, column⟩⟩
      else plainFrom inFlow indent (c :: gap.fill text) {} false line (column + 1) rest

/-- A scalar that has been read, whether the line has ended after it, and what is left. -/
structure ReadScalar where
  text : String
  endsLine : Bool
  cursor : Cursor

def plain? (inFlow : Bool) (indent : Nat) (cur : Cursor) : Option ReadScalar :=
  (plainFrom inFlow indent [] {} false cur.line cur.column cur.rest).map fun p =>
    ⟨String.ofList p.text.reverse, p.gap.endsLine, p.cursor⟩

/-! ### Between quotes -/

/-- Reads a scalar between single quotes, after the first of them; two quotes stand for one. -/
def singleQuoted (text : List Char) (gap : Gap) (cur : Cursor) :
    (fuel : Nat) → Option (String × Cursor)
  | 0 => none
  | fuel + 1 =>
      if cur.atMarker then none
      else
        match cur.rest with
        | [] => none
        | '\'' :: '\'' :: _ => singleQuoted ('\'' :: gap.fill text) {} (cur.advance 2) fuel
        | '\'' :: _ => some (String.ofList (gap.fill text).reverse, cur.advance 1)
        | c :: rest =>
            if isSpace c then singleQuoted text (gap.addSpace c) (cur.past c rest) fuel
            else if isBreak c then singleQuoted text (gap.addBreak c) (cur.past c rest) fuel
            else singleQuoted (c :: gap.fill text) {} (cur.past c rest) fuel

/-- The character that a letter after a backslash stands for. -/
def escape? (c : Char) : Option Char :=
  ("0abtnvfre \"/\\N_LP\t".toList.zip
    ([0, 7, 8, 9, 10, 11, 12, 13, 27, 32, 34, 47, 92, 0x85, 0xA0, 0x2028, 0x2029, 9].map
      Char.ofNat)).lookup c

/-- How many hexadecimal digits follow a letter after a backslash. -/
def escapeLength? (c : Char) : Option Nat :=
  if c = 'x' then some 2 else if c = 'u' then some 4 else if c = 'U' then some 8 else none

/-- The number that hexadecimal digits stand for. -/
def hexNumber? (digits : List Char) : Option Nat :=
  digits.foldlM (fun acc c => (Json.hexValue? c).map (16 * acc + ·)) 0

def hexChar? (digits : List Char) : Option Char := do
  let code ← hexNumber? digits
  if code < 0xD800 ∨ (0xE000 ≤ code ∧ code < 0x110000) then some (Char.ofNat code) else none

/-- What the first of some characters stands for after a backslash, and how many of them are
needed for it. -/
def escaped? : List Char → Option (Char × Nat)
  | [] => none
  | c :: rest =>
      match escapeLength? c with
      | some n =>
          if rest.length < n then none else (hexChar? (rest.take n)).map fun e => (e, n + 1)
      | none => (escape? c).map fun e => (e, 1)

/-- Reads a scalar between double quotes, after the first of them. A backslash at the end of a
line joins it to the next one. -/
def doubleQuoted (text : List Char) (gap : Gap) (cur : Cursor) :
    (fuel : Nat) → Option (String × Cursor)
  | 0 => none
  | fuel + 1 =>
      if cur.atMarker then none
      else
        match cur.rest with
        | [] => none
        | '"' :: _ => some (String.ofList (gap.fill text).reverse, cur.advance 1)
        | '\\' :: rest =>
            if rest.head?.any isBreak then
              doubleQuoted (gap.fill text) { joined := true } (cur.advance 1).skipBreak fuel
            else
              (escaped? rest).bind fun (e, n) =>
                doubleQuoted (e :: gap.fill text) {} (cur.advance (n + 1)) fuel
        | c :: rest =>
            if isSpace c then doubleQuoted text (gap.addSpace c) (cur.past c rest) fuel
            else if isBreak c then doubleQuoted text (gap.addBreak c) (cur.past c rest) fuel
            else doubleQuoted (c :: gap.fill text) {} (cur.past c rest) fuel

def quoted? (cur : Cursor) : Option (String × Cursor) :=
  match cur.rest with
  | '"' :: rest => doubleQuoted [] {} (cur.advance 1) (rest.length + 1)
  | '\'' :: rest => singleQuoted [] {} (cur.advance 1) (rest.length + 1)
  | _ => none

/-! ### Lines of a block -/

/-- What is done with the line ends after the last line of a block: they are dropped, all but the
first are dropped, or they are kept. -/
inductive Chomping where
  | strip
  | clip
  | keep
  deriving DecidableEq, Repr

/-- Reads what stands after the mark of a block: how it is chomped and by how much it is indented,
in any order. -/
def blockHeader? (cur : Cursor) : Option (Chomping × Option Nat × Cursor) :=
  let chomping? (cur : Cursor) : Option Chomping :=
    if cur.rest.head? == some '+' then some .keep
    else if cur.rest.head? == some '-' then some .strip
    else none
  let digit? (cur : Cursor) : Option Nat :=
    (cur.rest.head?.filter Char.isDigit).map fun c => c.toNat - 48
  match chomping? cur, digit? cur with
  | some chomping, _ =>
      match digit? (cur.advance 1) with
      | some 0 => none
      | some n => some (chomping, some n, cur.advance 2)
      | none => some (chomping, none, cur.advance 1)
  | none, some 0 => none
  | none, some n =>
      match chomping? (cur.advance 1) with
      | some chomping => some (chomping, some n, cur.advance 2)
      | none => some (.clip, some n, cur.advance 1)
  | none, none => some (.clip, none, cur)

/-- The line ends before the next line of a block, in reverse, the greatest column before them, and
the cursor at the line. Without an indentation all blanks are skipped, and no tab may stand
within the indentation. -/
def blockBreaks (indent : Option Nat) (breaks : List Char) (deepest : Nat)
    (line column : Nat) : List Char → Option (List Char × Nat × Cursor)
  | [] => some (breaks, max deepest column, ⟨[], line, column⟩)
  | c :: rest =>
      let within := indent.all fun n => column < n
      if c = ' ' ∧ within then blockBreaks indent breaks deepest line (column + 1) rest
      else if c = '\t' ∧ within then none
      else if isBreak c then
        blockBreaks indent (c :: breaks) (max deepest column) (line + 1) 0 rest
      else some (breaks, max deepest column, ⟨c :: rest, line, column⟩)

/-- Reads the lines of a block, indented to `indent`. Of what has been read `lead` is the end of
the last line, `breaks` are the ends of empty lines after it, in reverse, and `wasBlank` says
whether that line starts with a blank. The end of a line is folded into a blank between two lines
of which neither starts with one. -/
def blockLines (literal : Bool) (chomping : Chomping) (indent : Nat) (text lead breaks : List Char)
    (wasBlank : Bool) (cur : Cursor) : (fuel : Nat) → Option (String × Cursor)
  | 0 => none
  | fuel + 1 =>
      if cur.column = indent ∧ !cur.rest.isEmpty then do
        let isBlank := cur.rest.head?.any isSpace
        let text :=
          if !literal && lead == ['\n'] && !wasBlank && !isBlank then
            if breaks.isEmpty then ' ' :: text else breaks ++ text
          else breaks ++ (lead ++ text)
        let (content, stop) := cur.span (!isBreak ·)
        let next := stop.skipBreak
        let (breaks, _, after) ← blockBreaks (some indent) [] 0 next.line next.column next.rest
        blockLines literal chomping indent (content.reverse ++ text) (stop.rest.take 1) breaks
          isBlank after fuel
      else
        let text := if chomping = .strip then text else lead ++ text
        let text := if chomping = .keep then breaks ++ text else text
        some (String.ofList text.reverse, cur)

/-- Reads a block after its mark. The parent of the block is indented to one column less than
`least`. -/
def block? (literal : Bool) (least : Nat) (cur : Cursor) : Option (String × Cursor) := do
  let (chomping, increment, cur) ← blockHeader? cur
  let cur := (← cur.lineEnd?).skipBreak
  let given := increment.map fun n => (least - 1) + n
  let (breaks, deepest, after) ← blockBreaks given [] 0 cur.line cur.column cur.rest
  let indent := given.getD (max deepest (max least 1))
  blockLines literal chomping indent [] [] breaks false after (after.rest.length + 1)

end CommandBot.Yaml
