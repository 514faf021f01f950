import CommandBot.Text.Utf8
import CommandBot.Yaml.Scalar
import CommandBot.Yaml.Token

/-!
# Marks, tags and directives

The parts of a YAML text that say something about a node or about the document: `&` gives a node a
mark and `*` refers to it, `!` gives it a tag, and a line that starts with `%` is a directive.
-/

namespace CommandBot.Yaml

/-- Reads the name of a mark after `&` or `*`. -/
def markName? (cur : Cursor) : Option (String × Cursor) :=
  let (name, after) := cur.span isWordChar
  if name.isEmpty then none
  else if Cursor.isGap after.rest || after.rest.head?.any ("?:,]\x7d%@\x60".toList.contains ·) then
    some (String.ofList name, after)
  else none

/-! ### Tags -/

/-- A character of a tag; between `<` and `>` commas and brackets may stand as well. -/
def isTagChar (verbatim : Bool) (c : Char) : Bool :=
  isWordChar c || ";/?:@&=+$.%!~*'()".toList.contains c
    || (verbatim && (c == ',' || c == '[' || c == ']'))

/-- The byte that is written as a percent sign and two hexadecimal digits. -/
def octet? : List Char → Option Nat
  | '%' :: a :: b :: _ => hexNumber? [a, b]
  | _ => none

/-- How many bytes a character has that starts with this one. -/
def octetCount? (lead : Nat) : Option Nat :=
  if lead < 0x80 then some 1
  else if lead / 32 = 6 then some 2
  else if lead / 16 = 14 then some 3
  else if lead / 8 = 30 then some 4
  else none

def octets? : (count : Nat) → List Char → Option (List Nat)
  | 0, _ => some []
  | count + 1, rest => do
      let byte ← octet? rest
      let others ← octets? count (rest.drop 3)
      if others.all fun b => b / 64 == 2 then some (byte :: others) else none

/-- Reads the characters of a tag, some of which may be written as bytes. -/
def tagText? (verbatim : Bool) (read : List Char) (cur : Cursor) :
    (fuel : Nat) → Option (List Char × Cursor)
  | 0 => none
  | fuel + 1 =>
      match cur.rest with
      | '%' :: _ => do
          let lead ← octet? cur.rest
          let count ← octetCount? lead
          let bytes ← octets? count cur.rest
          let text := Text.lossy ⟨(bytes.map UInt8.ofNat).toArray⟩
          tagText? verbatim (text.toList.reverse ++ read) (cur.advance (3 * count)) fuel
      | c :: rest =>
          if isTagChar verbatim c then tagText? verbatim (c :: read) (cur.past c rest) fuel
          else some (read.reverse, cur)
      | [] => some (read.reverse, cur)

/-- Reads the rest of a tag, which may not be empty. -/
def tagRest? (verbatim : Bool) (head : List Char) (cur : Cursor) : Option (String × Cursor) := do
  let (text, after) ← tagText? verbatim [] cur (cur.rest.length + 1)
  if head.isEmpty && text.isEmpty then none
  else some (String.ofList (head.drop 1 ++ text), after)

/-- Reads a handle, which starts with an exclamation mark and may end with another one. -/
def handle (cur : Cursor) : List Char × Cursor :=
  let (name, after) := (cur.advance 1).span isWordChar
  if after.rest.head? == some '!' then ('!' :: name ++ ['!'], after.advance 1)
  else ('!' :: name, after)

/-- Whether a handle ends with an exclamation mark of its own. -/
def isClosedHandle (name : List Char) : Bool := 1 < name.length && name.getLast? == some '!'

/-- Reads a tag: its handle, and what stands after it. -/
def tag? (cur : Cursor) : Option (String × String × Cursor) :=
  match cur.rest with
  | '!' :: '<' :: _ => do
      let (suffix, after) ← tagRest? true [] (cur.advance 2)
      if after.rest.head? == some '>' then some ("", suffix, after.advance 1) else none
  | _ => do
      let (name, after) := handle cur
      if isClosedHandle name then
        let (suffix, after) ← tagRest? false [] after
        some (String.ofList name, suffix, after)
      else
        let (suffix, after) ← tagRest? false name after
        some (if suffix.isEmpty then ("", "!", after) else ("!", suffix, after))

/-! ### Directives -/

/-- Reads a number of at most nine digits. -/
def versionNumber? (cur : Cursor) : Option (Nat × Cursor) :=
  let (digits, after) := cur.span Char.isDigit
  if digits.isEmpty || 9 < digits.length then none
  else some (digits.foldl (fun n c => 10 * n + (c.toNat - 48)) 0, after)

/-- Reads what a directive says after its name. -/
def directiveValue? (name : List Char) (cur : Cursor) : Option (Token × Cursor) :=
  if name = ['Y', 'A', 'M', 'L'] then do
    let (major, cur) ← versionNumber? cur.skipSpaces
    if cur.rest.head? ≠ some '.' then none
    else
      let (minor, cur) ← versionNumber? (cur.advance 1)
      some (.version major minor, cur)
  else if name = ['T', 'A', 'G'] then do
    let cur := cur.skipSpaces
    if cur.rest.head? ≠ some '!' then none
    else
      let (name, cur) := handle cur
      if (name.length = 1 || isClosedHandle name) && cur.rest.head?.any isSpace then
        let (expansion, cur) ← tagRest? true [] cur.skipSpaces
        if Cursor.isGap cur.rest then some (.handle (String.ofList name) expansion, cur) else none
      else none
  else none

/-- Reads a directive up to the end of its line. -/
def directive? (cur : Cursor) : Option (Token × Cursor) := do
  let (name, after) := (cur.advance 1).span isWordChar
  if Cursor.isGap after.rest then
    let (token, after) ← directiveValue? name after
    some (token, (← after.lineEnd?).skipBreak)
  else none

end CommandBot.Yaml
