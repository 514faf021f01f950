import CommandBot.Json.Token

/-!
# JSON as it is written

A `Raw` value is the shape of a JSON text before it is given a meaning: numbers are digits, the
members of an object stand in the order of the text, possibly several with one key, and a string
may hold half characters. What is skipped over in reading a text has to have this shape and
nothing more. `Raw.ofTokens?` reads it with a stack of the arrays and objects that are still open.
-/

namespace CommandBot.Json

/-- The shape of a JSON text. -/
inductive Raw where
  | null
  | bool (b : Bool)
  | number (text : NumberText)
  | string (parts : List StringPart)
  | array (items : List Raw)
  | object (members : List (List StringPart × Raw))
  deriving Repr, Inhabited

/-- An array or object that is still open, with what it holds so far in reverse. A member waits
for its value. -/
inductive Frame where
  | array (items : List Raw)
  | object (members : List (List StringPart × Raw))
  | member (key : List StringPart) (members : List (List StringPart × Raw))

/-- What may come next. -/
inductive Expecting where
  | value
  | itemOrEnd
  | keyOrEnd
  | key
  | colon
  | commaOrEnd
  | nothing (done : Raw)

/-- A text that has been read in part. -/
structure Parse where
  frames : List Frame
  expecting : Expecting

namespace Parse

/-- Before the first token. -/
def start : Parse := ⟨[], .value⟩

/-- A value has been read in full: it becomes an item, a member or the whole text. -/
def complete (value : Raw) : List Frame → Option Parse
  | [] => some ⟨[], .nothing value⟩
  | .array items :: rest => some ⟨.array (value :: items) :: rest, .commaOrEnd⟩
  | .member key members :: rest => some ⟨.object ((key, value) :: members) :: rest, .commaOrEnd⟩
  | .object _ :: _ => none

/-- A token where a value may start. -/
def startValue (frames : List Frame) : Token → Option Parse
  | .null => complete .null frames
  | .bool b => complete (.bool b) frames
  | .number text => complete (.number text) frames
  | .string parts => complete (.string parts) frames
  | .beginArray => some ⟨.array [] :: frames, .itemOrEnd⟩
  | .beginObject => some ⟨.object [] :: frames, .keyOrEnd⟩
  | _ => none

/-- A string where a key may stand. -/
def startMember (frames : List Frame) : Token → Option Parse
  | .string key =>
      match frames with
      | .object members :: rest => some ⟨.member key members :: rest, .colon⟩
      | _ => none
  | _ => none

/-- A bracket that closes the innermost array or object. -/
def close (frames : List Frame) : Token → Option Parse
  | .endArray =>
      match frames with
      | .array items :: rest => complete (.array items.reverse) rest
      | _ => none
  | .endObject =>
      match frames with
      | .object members :: rest => complete (.object members.reverse) rest
      | _ => none
  | _ => none

/-- A comma between items or members. -/
def next : List Frame → Option Parse
  | .array items :: rest => some ⟨.array items :: rest, .value⟩
  | .object members :: rest => some ⟨.object members :: rest, .key⟩
  | _ => none

def step (p : Parse) (token : Token) : Option Parse :=
  match p.expecting with
  | .value => startValue p.frames token
  | .itemOrEnd => if token = .endArray then close p.frames token else startValue p.frames token
  | .keyOrEnd => if token = .endObject then close p.frames token else startMember p.frames token
  | .key => startMember p.frames token
  | .colon => if token = .colon then some ⟨p.frames, .value⟩ else none
  | .commaOrEnd => if token = .comma then next p.frames else close p.frames token
  | .nothing _ => none

/-- The whole text, if nothing is missing. -/
def result? (p : Parse) : Option Raw :=
  match p.expecting with
  | .nothing done => some done
  | _ => none

def run (p : Parse) : List Token → Option Parse
  | [] => some p
  | token :: rest => (p.step token).bind fun p => p.run rest

@[simp] theorem run_nil (p : Parse) : p.run [] = some p := rfl

theorem run_cons (p : Parse) (token : Token) (rest : List Token) :
    p.run (token :: rest) = (p.step token).bind fun p => p.run rest := rfl

end Parse

/-- The shape of a list of tokens. -/
def Raw.ofTokens? (tokens : List Token) : Option Raw :=
  (Parse.start.run tokens).bind Parse.result?

def Raw.ofText? (text : String) : Option Raw := (lex text.toList).bind Raw.ofTokens?

end CommandBot.Json
