import CommandBot.Yaml.Tag

/-!
# Reading YAML tokens

A `Lexer` goes through a text token by token. It keeps the columns of the lists and maps on lines
of their own that are open, and the brackets that are. A key is known as such only by the colon
after it, so that the place of the last token that may be a key is kept (`PendingKey`): the colon
has to follow in the same line and within `PendingKey.reach` characters.
-/

namespace CommandBot.Yaml

/-- A token that may turn out to be a key: how many tokens are before it, and where it starts. It is
required to be one if nothing else may stand there. -/
structure PendingKey where
  position : Nat
  required : Bool
  line : Nat
  column : Nat
  deriving Repr

/-- How many characters there may be from the start of a key to the colon after it. -/
def PendingKey.reach : Nat := 1024

/-- Whether a colon here comes too late for the key. -/
def PendingKey.isStale (k : PendingKey) (cur : Cursor) : Bool :=
  k.line < cur.line || k.column + PendingKey.reach < cur.column

/-- A text that has been read in part. The tokens are in reverse; `indents` are the columns of the
open lists and maps, the innermost first; `outer` are the pending keys outside of each open
bracket, and `pending` is the one inside. -/
structure Lexer where
  cursor : Cursor
  tokens : List Token := []
  count : Nat := 0
  indents : List Nat := []
  pending : Option PendingKey := none
  outer : List (Option PendingKey) := []
  keyAllowed : Bool := true

namespace Lexer

def inFlow (l : Lexer) : Bool := !l.outer.isEmpty

/-- The least column of the lines of a scalar. -/
def leastIndent (l : Lexer) : Nat :=
  match l.indents with
  | n :: _ => n + 1
  | [] => 0

def emit (l : Lexer) (token : Token) : Lexer :=
  { l with tokens := token :: l.tokens, count := l.count + 1 }

/-- Puts a token after so many tokens. -/
def insert (l : Lexer) (position : Nat) (token : Token) : Lexer :=
  let later := l.count - position
  { l with
    tokens := l.tokens.take later ++ token :: l.tokens.drop later
    count := l.count + 1 }

/-- Opens a list or map on lines of its own, if one at this column is not open already. -/
def roll (l : Lexer) (column position : Nat) (token : Token) : Lexer :=
  if l.inFlow || l.indents.head?.any (column ≤ ·) then l
  else { l.insert position token with indents := column :: l.indents }

/-- Closes the lists and maps that are indented more than a column, or all of them. -/
def unroll (l : Lexer) (column : Option Nat) : Lexer :=
  if l.inFlow then l
  else
    let closed := l.indents.takeWhile fun n => column.all (· < n)
    { l with
      indents := l.indents.drop closed.length
      tokens := List.replicate closed.length .blockEnd ++ l.tokens
      count := l.count + closed.length }

/-- Gives up the pending key, if it is not required. -/
def dropKey (l : Lexer) : Option Lexer :=
  if l.pending.any (·.required) then none else some { l with pending := none }

/-- Gives up the pending key if it is too late for a colon. -/
def refresh (l : Lexer) : Option Lexer :=
  if l.pending.any (·.isStale l.cursor) then l.dropKey else some l

/-- Keeps in mind that the next token may be a key. -/
def saveKey (l : Lexer) : Option Lexer :=
  if l.keyAllowed then do
    let l ← l.dropKey
    let required := !l.inFlow && l.indents.head? == some l.cursor.column
    some { l with pending := some ⟨l.count, required, l.cursor.line, l.cursor.column⟩ }
  else some l

/-- Skips blanks, line ends and comments. On a new line a key may start. A tab may not stand where
a key may start, except inside brackets. -/
def skipGap (inFlow keyAllowed : Bool) (line column : Nat) : List Char → Cursor × Bool
  | [] => (⟨[], line, column⟩, keyAllowed)
  | c :: rest =>
      if column = 0 ∧ isOrderMark c then skipGap inFlow keyAllowed line 1 rest
      else if c = ' ' ∨ (c = '\t' ∧ (inFlow || !keyAllowed)) then
        skipGap inFlow keyAllowed line (column + 1) rest
      else if isBreak c then skipGap inFlow (keyAllowed || !inFlow) (line + 1) 0 rest
      else if c = '#' then skipComment inFlow keyAllowed line column rest
      else (⟨c :: rest, line, column⟩, keyAllowed)
where
  /-- Skips the rest of a comment. -/
  skipComment (inFlow keyAllowed : Bool) (line column : Nat) : List Char → Cursor × Bool
    | [] => (⟨[], line, column⟩, keyAllowed)
    | c :: rest =>
        if isBreak c then skipGap inFlow (keyAllowed || !inFlow) (line + 1) 0 rest
        else skipComment inFlow keyAllowed line (column + 1) rest

def seek (l : Lexer) : Lexer :=
  let (cursor, keyAllowed) :=
    skipGap l.inFlow l.keyAllowed l.cursor.line l.cursor.column l.cursor.rest
  { l with cursor := cursor, keyAllowed := keyAllowed }

/-! ### Single tokens -/

/-- Goes on by so many characters, after which a key may start or not. -/
def proceed (l : Lexer) (n : Nat) (keyAllowed : Bool) : Lexer :=
  { l with cursor := l.cursor.advance n, keyAllowed := keyAllowed }

def takeDirective (l : Lexer) : Option Lexer := do
  let l ← (l.unroll none).dropKey
  let (token, after) ← directive? l.cursor
  some { l.emit token with cursor := after, keyAllowed := false }

/-- The start or end of a document. -/
def takeMarker (l : Lexer) (token : Token) : Option Lexer := do
  let l ← (l.unroll none).dropKey
  some ((l.emit token).proceed 3 false)

/-- A bracket that opens a list or map, which may be a key as a whole. -/
def takeOpening (l : Lexer) (token : Token) : Option Lexer := do
  let l ← l.saveKey
  let l := { l with outer := l.pending :: l.outer, pending := none }
  some ((l.emit token).proceed 1 true)

/-- A bracket that closes a list or map. -/
def takeClosing (l : Lexer) (token : Token) : Option Lexer := do
  let l ← l.dropKey
  let l := match l.outer with
    | pending :: outer => { l with outer := outer, pending := pending }
    | [] => l
  some ((l.emit token).proceed 1 false)

def takeComma (l : Lexer) : Option Lexer := do
  let l ← l.dropKey
  some ((l.emit .comma).proceed 1 true)

/-- The dash before an item. -/
def takeDash (l : Lexer) : Option Lexer :=
  if !l.inFlow && !l.keyAllowed then none
  else do
    let l ← (l.roll l.cursor.column l.count .blockListStart).dropKey
    some ((l.emit .dash).proceed 1 true)

/-- The question mark before a key. -/
def takeKey (l : Lexer) : Option Lexer :=
  if !l.inFlow && !l.keyAllowed then none
  else do
    let l ← (l.roll l.cursor.column l.count .blockMapStart).dropKey
    some ((l.emit .key).proceed 1 (!l.inFlow))

/-- The colon before a value. What is pending becomes a key by it. -/
def takeValue (l : Lexer) : Option Lexer :=
  match l.pending with
  | some k =>
      let l := (l.insert k.position .key).roll k.column k.position .blockMapStart
      some (({ l with pending := none }.emit .value).proceed 1 false)
  | none =>
      if !l.inFlow && !l.keyAllowed then none
      else
        let l := l.roll l.cursor.column l.count .blockMapStart
        some ((l.emit .value).proceed 1 (!l.inFlow))

/-- A mark or a reference. -/
def takeMark (l : Lexer) (token : String → Token) : Option Lexer := do
  let l ← l.saveKey
  let (name, after) ← markName? (l.cursor.advance 1)
  some { l.emit (token name) with cursor := after, keyAllowed := false }

/-- A tag, which ends at a gap, or inside brackets at a comma. -/
def takeTag (l : Lexer) : Option Lexer := do
  let l ← l.saveKey
  let (handle, suffix, after) ← tag? l.cursor
  if Cursor.isGap after.rest || (l.inFlow && after.rest.head? == some ',') then
    some { l.emit (.tag handle suffix) with cursor := after, keyAllowed := false }
  else none

def takeBlock (l : Lexer) (literal : Bool) : Option Lexer := do
  let l ← l.dropKey
  let (text, after) ← block? literal l.leastIndent (l.cursor.advance 1)
  some { l.emit (.scalar text (if literal then .literal else .folded)) with
    cursor := after
    keyAllowed := true }

def takeQuoted (l : Lexer) : Option Lexer := do
  let l ← l.saveKey
  let (text, after) ← quoted? l.cursor
  some { l.emit (.scalar text .quoted) with cursor := after, keyAllowed := false }

/-- A plain scalar, after which a key may start if its line has ended. -/
def takePlain (l : Lexer) : Option Lexer := do
  let l ← l.saveKey
  let read ← plain? l.inFlow l.leastIndent l.cursor
  some { l.emit (.scalar read.text .plain) with
    cursor := read.cursor
    keyAllowed := read.endsLine }

/-- The token that starts with the first character of what is left. -/
def take (l : Lexer) (c : Char) (rest : List Char) : Option Lexer :=
  if l.cursor.column = 0 ∧ c = '%' then l.takeDirective
  else if l.cursor.atMarker then l.takeMarker (if c = '-' then .documentStart else .documentEnd)
  else if c = '[' then l.takeOpening .listStart
  else if c = '\x7b' then l.takeOpening .mapStart
  else if c = ']' then l.takeClosing .listEnd
  else if c = '\x7d' then l.takeClosing .mapEnd
  else if c = ',' then l.takeComma
  else if c = '-' ∧ Cursor.isGap rest then l.takeDash
  else if c = '?' ∧ (l.inFlow || Cursor.isGap rest) then l.takeKey
  else if c = ':' ∧ (l.inFlow || Cursor.isGap rest) then l.takeValue
  else if c = '*' then l.takeMark .reference
  else if c = '&' then l.takeMark .mark
  else if c = '!' then l.takeTag
  else if c = '|' ∧ !l.inFlow then l.takeBlock true
  else if c = '>' ∧ !l.inFlow then l.takeBlock false
  else if c = '\'' ∨ c = '"' then l.takeQuoted
  else if startsPlain l.inFlow (c :: rest) then l.takePlain
  else none

/-- The tokens of the text that is left, after those before it. -/
def run (l : Lexer) : (fuel : Nat) → Option (List Token)
  | 0 => none
  | fuel + 1 => do
      let l ← l.seek.refresh
      match l.cursor.rest with
      | [] => (l.unroll none).dropKey.map (·.tokens.reverse)
      | c :: rest =>
          let l ← (l.unroll (some l.cursor.column)).take c rest
          l.run fuel

end Lexer

/-- Line ends in one spelling. -/
def normalLines : List Char → List Char
  | '\r' :: '\n' :: rest => '\n' :: normalLines rest
  | c :: rest => (if c = '\r' ∨ c.toNat = 0x85 then '\n' else c) :: normalLines rest
  | [] => []

/-- Whether a text may hold the character. -/
def isAllowed (c : Char) : Bool :=
  let n := c.toNat
  n == 9 || n == 10 || n == 13 || (0x20 ≤ n && n ≤ 0x7E) || n == 0x85
    || (0xA0 ≤ n && n ≤ 0xFFFD) || 0x10000 ≤ n

def tokens? (text : String) : Option (List Token) :=
  let chars := text.toList
  if chars.all isAllowed then
    let lines := normalLines chars
    Lexer.run { cursor := ⟨lines, 0, 0⟩ } (lines.length + 1)
  else none

end CommandBot.Yaml
