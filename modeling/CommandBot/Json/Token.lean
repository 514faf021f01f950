/-!
# Tokens of a JSON text

The text is cut into tokens by a machine that reads one character at a time. It is either between
tokens, inside a string, or in a run of the characters that numbers or words are made of. A run is
taken as far as it goes and then has to be a number or one of the three words as a whole.
-/

namespace CommandBot.Json

/-- A number as it is written: an optional minus, the digits before the point, those after it if
there is one, and the exponent if there is one, with its sign. -/
structure NumberText where
  negative : Bool
  whole : List Char
  fraction : Option (List Char)
  exponent : Option (Bool × List Char)
  deriving Repr, DecidableEq

/-- A part of a string: a character that stands for itself or for which a short escape stands, or
the four hexadecimal digits of an escape, which may be half a character. -/
inductive StringPart where
  | char (c : Char)
  | unit (code : Nat)
  deriving Repr, DecidableEq

/-- A token of a JSON text. -/
inductive Token where
  | beginArray
  | endArray
  | beginObject
  | endObject
  | comma
  | colon
  | null
  | bool (b : Bool)
  | number (text : NumberText)
  | string (parts : List StringPart)
  deriving Repr, DecidableEq

/-- How far an escape in a string has been read. -/
inductive Escape where
  | none
  | backslash
  | hex (code : Nat) (missing : Nat)
  deriving Repr, DecidableEq

/-- Where the machine stands. What has been read of the present token is kept in reverse. -/
inductive LexState where
  | between
  | inString (read : List StringPart) (escape : Escape)
  | inNumber (read : List Char)
  | inWord (read : List Char)
  deriving Repr, DecidableEq

def isSpace (c : Char) : Bool := c == ' ' || c == '\n' || c == '\t' || c == '\r'

def isNumberChar (c : Char) : Bool :=
  c.isDigit || c == '-' || c == '+' || c == '.' || c == 'e' || c == 'E'

def startsNumber (c : Char) : Bool := c.isDigit || c == '-'

/-- Digits before the point: no leading zero unless it is the only one. -/
def isWhole : List Char → Bool
  | [] => false
  | ['0'] => true
  | c :: rest => c.isDigit && c != '0' && rest.all Char.isDigit

/-- One or more digits. -/
def isDigits (digits : List Char) : Bool := !digits.isEmpty && digits.all Char.isDigit

/-- The exponent after its letter. -/
def exponentOf? : List Char → Option (Bool × List Char)
  | '-' :: digits => if isDigits digits then some (true, digits) else none
  | '+' :: digits => if isDigits digits then some (false, digits) else none
  | digits => if isDigits digits then some (false, digits) else none

/-- A number from its parts: before the point, after it, and after the letter `e`. -/
def NumberText.ofParts? (negative : Bool) (whole : List Char) (fraction : Option (List Char))
    (exponent : Option (List Char)) : Option NumberText :=
  if isWhole whole && fraction.all isDigits then
    match exponent with
    | some e => (exponentOf? e).map fun e => ⟨negative, whole, fraction, some e⟩
    | none => some ⟨negative, whole, fraction, none⟩
  else none

/-- What stands before the first character with the property, and what after it, if any has it. -/
def cutAt (p : Char → Bool) (text : List Char) : List Char × Option (List Char) :=
  (text.takeWhile (!p ·), (text.dropWhile (!p ·)).tail?)

/-- Reads a run of characters as a number. -/
def NumberText.ofChars? (text : List Char) : Option NumberText :=
  let (negative, text) := match text with
    | '-' :: rest => (true, rest)
    | rest => (false, rest)
  let (mantissa, exponent) := cutAt (fun c => c == 'e' || c == 'E') text
  let (whole, fraction) := cutAt (· == '.') mantissa
  NumberText.ofParts? negative whole fraction exponent

/-- Reads a run of letters as one of the words. -/
def wordToken? (word : List Char) : Option Token :=
  if word = ['n', 'u', 'l', 'l'] then some .null
  else if word = ['t', 'r', 'u', 'e'] then some (.bool true)
  else if word = ['f', 'a', 'l', 's', 'e'] then some (.bool false)
  else none

def hexValue? (c : Char) : Option Nat :=
  if '0' ≤ c ∧ c ≤ '9' then some (c.toNat - 48)
  else if 'a' ≤ c ∧ c ≤ 'f' then some (c.toNat - 87)
  else if 'A' ≤ c ∧ c ≤ 'F' then some (c.toNat - 55)
  else none

/-- The character that a letter after a backslash stands for. -/
def escaped? (c : Char) : Option Char :=
  if c = '"' ∨ c = '\\' ∨ c = '/' then some c
  else if c = 'b' then some (Char.ofNat 8)
  else if c = 'f' then some (Char.ofNat 12)
  else if c = 'n' then some '\n'
  else if c = 'r' then some '\r'
  else if c = 't' then some '\t'
  else none

/-- One character inside a string. -/
def stringStep (read : List StringPart) (escape : Escape) (c : Char) :
    Option (List Token × LexState) :=
  match escape with
  | .none =>
      if c = '"' then some ([.string read.reverse], .between)
      else if c = '\\' then some ([], .inString read .backslash)
      else if c.toNat < 32 then none
      else some ([], .inString (.char c :: read) .none)
  | .backslash =>
      if c = 'u' then some ([], .inString read (.hex 0 4))
      else (escaped? c).map fun e => ([], .inString (.char e :: read) .none)
  | .hex code missing =>
      (hexValue? c).map fun d =>
        if missing ≤ 1 then ([], .inString (.unit (16 * code + d) :: read) .none)
        else ([], .inString read (.hex (16 * code + d) (missing - 1)))

/-- One character between tokens. -/
def betweenStep (c : Char) : Option (List Token × LexState) :=
  if isSpace c then some ([], .between)
  else if c = '[' then some ([.beginArray], .between)
  else if c = ']' then some ([.endArray], .between)
  else if c = '\x7b' then some ([.beginObject], .between)
  else if c = '\x7d' then some ([.endObject], .between)
  else if c = ',' then some ([.comma], .between)
  else if c = ':' then some ([.colon], .between)
  else if c = '"' then some ([], .inString [] .none)
  else if startsNumber c then some ([], .inNumber [c])
  else if c.isAlpha then some ([], .inWord [c])
  else none

/-- The token that ends where the machine stands, if it stands in a run. -/
def endRun : LexState → Option (List Token)
  | .between => some []
  | .inString _ _ => none
  | .inNumber read => (NumberText.ofChars? read.reverse).map fun n => [.number n]
  | .inWord read => (wordToken? read.reverse).map fun t => [t]

/-- Ends a run and takes the character as the first after it. -/
def endRunStep (state : LexState) (c : Char) : Option (List Token × LexState) := do
  let done ← endRun state
  let (next, state) ← betweenStep c
  some (done ++ next, state)

/-- One character: the tokens that it completes, and where the machine stands after it. -/
def lexStep (state : LexState) (c : Char) : Option (List Token × LexState) :=
  match state with
  | .between => betweenStep c
  | .inString read escape => stringStep read escape c
  | .inNumber read =>
      if isNumberChar c then some ([], .inNumber (c :: read)) else endRunStep (.inNumber read) c
  | .inWord read =>
      if c.isAlpha then some ([], .inWord (c :: read)) else endRunStep (.inWord read) c

/-- The tokens of a text that is read from the given state on. -/
def lexFrom (state : LexState) : List Char → Option (List Token)
  | [] => endRun state
  | c :: rest => do
      let (done, state) ← lexStep state c
      let tokens ← lexFrom state rest
      some (done ++ tokens)

def lex (text : List Char) : Option (List Token) := lexFrom .between text

@[simp] theorem lexFrom_nil (state : LexState) : lexFrom state [] = endRun state := rfl

theorem lexFrom_cons (state : LexState) (c : Char) (rest : List Char) :
    lexFrom state (c :: rest) =
      (lexStep state c).bind fun s => (lexFrom s.2 rest).bind fun ts => some (s.1 ++ ts) := rfl

end CommandBot.Json
