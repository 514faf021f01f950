import CommandBot.Yaml.Lexer

/-!
# Reading YAML

`read?` reads a text that holds at most one document. Lists and maps are written on lines of their
own or inside brackets; where a node may stand and nothing is written there is the blank one. A
mark gets the number of different names before it, and a reference leads to the last node with the
number that its name has there.
-/

namespace CommandBot.Yaml

/-- What is left of the tokens, the numbers of the names of marks, and the nodes that have marks,
the last first. -/
structure Reading where
  tokens : List Token
  marks : List (String × Nat) := []
  marked : List (Nat × Node) := []

/-- The handles of tags with what they stand for. -/
abbrev Handles := List (String × String)

/-- What is said of a node before it: its mark, and its tag. -/
structure Properties where
  mark : Option String := none
  tag : Option String := none

namespace Properties

/-- Whether anything is said. -/
def any (p : Properties) : Bool := p.mark.isSome || p.tag.isSome

/-- The tag that a handle and a suffix stand for. -/
def tagOf? (handles : Handles) (handle suffix : String) : Option String :=
  if handle.isEmpty then some suffix else (handles.lookup handle).map (· ++ suffix)

/-- Reads a mark and a tag, each of which may be missing, in any order. -/
def read? (handles : Handles) : List Token → Option (Properties × List Token)
  | .mark name :: .tag handle suffix :: rest =>
      (tagOf? handles handle suffix).map fun tag => (⟨some name, some tag⟩, rest)
  | .tag handle suffix :: .mark name :: rest =>
      (tagOf? handles handle suffix).map fun tag => (⟨some name, some tag⟩, rest)
  | .mark name :: rest => some (⟨some name, none⟩, rest)
  | .tag handle suffix :: rest =>
      (tagOf? handles handle suffix).map fun tag => (⟨none, some tag⟩, rest)
  | rest => some ({}, rest)

end Properties

/-- Gives a name of a mark its number. -/
def Reading.assign (r : Reading) (name : String) : Nat × Reading :=
  let number := r.marks.length
  let others := r.marks.filter fun e => e.1 ≠ name
  (number, { r with marks := (name, number) :: others })

def Reading.at (r : Reading) (tokens : List Token) : Reading := { r with tokens := tokens }

/-- The tokens at which nothing is written between two parts of a map on lines of its own. -/
def endsEntry : List Token → Bool
  | .key :: _ => true
  | .value :: _ => true
  | .blockEnd :: _ => true
  | _ => false

/-- The tokens at which nothing is written as an item of a list on lines of its own. -/
def endsItem : List Token → Bool
  | .dash :: _ => true
  | .blockEnd :: _ => true
  | _ => false

/-- The tokens at which nothing is written as a value inside brackets. -/
def endsFlowValue (closing : Token) : List Token → Bool
  | token :: _ => token == .comma || token == closing
  | [] => false

/-- The tokens at which nothing is written as a key inside brackets. -/
def endsFlowKey (closing : Token) (tokens : List Token) : Bool :=
  tokens.head? == some .value || endsFlowValue closing tokens

/-- The tokens after the comma before the next item, of which the first has none. -/
def afterComma? (first : Bool) : List Token → Option (List Token)
  | .comma :: rest => if first then some (.comma :: rest) else some rest
  | tokens => if first then some tokens else none

mutual

/-- Reads a node. A list or map on lines of its own may stand here if `block` holds, and the items
of a list that is not indented if `bare` holds. -/
def node (handles : Handles) (block bare : Bool) (r : Reading) :
    (fuel : Nat) → Option (Node × Reading)
  | 0 => none
  | fuel + 1 =>
      match r.tokens with
      | .reference name :: rest =>
          (r.marks.lookup name).map fun number => (.reference number, r.at rest)
      | tokens => do
          let (said, tokens) ← Properties.read? handles tokens
          match said.mark with
          | none => content handles block bare said (r.at tokens) fuel
          | some name =>
              let (number, inner) := (r.at tokens).assign name
              let (value, after) ←
                content handles block bare said { inner with marked := [] } fuel
              some (value, { after with marked := after.marked ++ (number, value) :: r.marked })
termination_by structural fuel => fuel

/-- Reads what follows the mark and tag of a node. -/
def content (handles : Handles) (block bare : Bool) (said : Properties) (r : Reading) :
    (fuel : Nat) → Option (Node × Reading)
  | 0 => none
  | fuel + 1 =>
      match r.tokens with
      | .scalar text style :: rest => some (.scalar ⟨text, style, said.tag⟩, r.at rest)
      | .listStart :: rest => flowItems handles true [] (r.at rest) fuel
      | .mapStart :: rest => flowEntries handles true [] (r.at rest) fuel
      | .dash :: rest =>
          if bare then bareItems handles [] (r.at (.dash :: rest)) fuel
          else if said.any then some (.scalar ⟨"", .plain, said.tag⟩, r)
          else none
      | .blockListStart :: rest =>
          if block then blockItems handles [] (r.at rest) fuel
          else if said.any then some (.scalar ⟨"", .plain, said.tag⟩, r)
          else none
      | .blockMapStart :: rest =>
          if block then blockEntries handles [] (r.at rest) fuel
          else if said.any then some (.scalar ⟨"", .plain, said.tag⟩, r)
          else none
      | _ => if said.any then some (.scalar ⟨"", .plain, said.tag⟩, r) else none
termination_by structural fuel => fuel

/-- Reads the items of a list on lines of its own, those read so far in reverse. -/
def blockItems (handles : Handles) (read : List Node) (r : Reading) :
    (fuel : Nat) → Option (Node × Reading)
  | 0 => none
  | fuel + 1 =>
      match r.tokens with
      | .dash :: rest =>
          if endsItem rest then blockItems handles (.blank :: read) (r.at rest) fuel
          else do
            let (item, r) ← node handles true false (r.at rest) fuel
            blockItems handles (item :: read) r fuel
      | .blockEnd :: rest => some (.list read.reverse, r.at rest)
      | _ => none
termination_by structural fuel => fuel

/-- Reads the items of a list that is not indented, which ends before any other token. -/
def bareItems (handles : Handles) (read : List Node) (r : Reading) :
    (fuel : Nat) → Option (Node × Reading)
  | 0 => none
  | fuel + 1 =>
      match r.tokens with
      | .dash :: rest =>
          if endsItem rest || endsEntry rest then
            bareItems handles (.blank :: read) (r.at rest) fuel
          else do
            let (item, r) ← node handles true false (r.at rest) fuel
            bareItems handles (item :: read) r fuel
      | _ => some (.list read.reverse, r)
termination_by structural fuel => fuel

/-- Reads a key or value of a map on lines of its own. -/
def blockPart (handles : Handles) (r : Reading) : (fuel : Nat) → Option (Node × Reading)
  | 0 => none
  | fuel + 1 =>
      if endsEntry r.tokens then some (.blank, r) else node handles true true r fuel
termination_by structural fuel => fuel

/-- Reads the entries of a map on lines of its own, those read so far in reverse. -/
def blockEntries (handles : Handles) (read : List (Node × Node)) (r : Reading) :
    (fuel : Nat) → Option (Node × Reading)
  | 0 => none
  | fuel + 1 =>
      match r.tokens with
      | .key :: rest => do
          let (key, r) ← blockPart handles (r.at rest) fuel
          match r.tokens with
          | .value :: rest => do
              let (value, r) ← blockPart handles (r.at rest) fuel
              blockEntries handles ((key, value) :: read) r fuel
          | _ => blockEntries handles ((key, .blank) :: read) r fuel
      | .blockEnd :: rest => some (.map read.reverse, r.at rest)
      | _ => none
termination_by structural fuel => fuel

/-- Reads the value after a key inside brackets, where nothing may be written. -/
def flowValue (handles : Handles) (closing : Token) (r : Reading) :
    (fuel : Nat) → Option (Node × Reading)
  | 0 => none
  | fuel + 1 =>
      match r.tokens with
      | .value :: rest =>
          if endsFlowValue closing rest then some (.blank, r.at rest)
          else node handles false false (r.at rest) fuel
      | _ => some (.blank, r)
termination_by structural fuel => fuel

/-- Reads the items of a list inside brackets, those read so far in reverse. A key and its value are
a map with one entry; if there is no key the token in its place is skipped. -/
def flowItems (handles : Handles) (first : Bool) (read : List Node) (r : Reading) :
    (fuel : Nat) → Option (Node × Reading)
  | 0 => none
  | fuel + 1 =>
      match r.tokens with
      | .listEnd :: rest => some (.list read.reverse, r.at rest)
      | tokens => do
          let tokens ← afterComma? first tokens
          match tokens with
          | .listEnd :: rest => some (.list read.reverse, r.at rest)
          | .key :: rest => do
              let (key, r) ←
                if endsFlowKey .listEnd rest then some (.blank, r.at (rest.drop 1))
                else node handles false false (r.at rest) fuel
              let (value, r) ← flowValue handles .listEnd r fuel
              flowItems handles false (.map [(key, value)] :: read) r fuel
          | tokens => do
              let (item, r) ← node handles false false (r.at tokens) fuel
              flowItems handles false (item :: read) r fuel
termination_by structural fuel => fuel

/-- Reads the entries of a map inside brackets, those read so far in reverse. A node without a
colon after it is a key whose value is not written. -/
def flowEntries (handles : Handles) (first : Bool) (read : List (Node × Node)) (r : Reading) :
    (fuel : Nat) → Option (Node × Reading)
  | 0 => none
  | fuel + 1 =>
      match r.tokens with
      | .mapEnd :: rest => some (.map read.reverse, r.at rest)
      | tokens => do
          let tokens ← afterComma? first tokens
          match tokens with
          | .mapEnd :: rest => some (.map read.reverse, r.at rest)
          | .key :: rest => do
              let (key, r) ←
                if endsFlowKey .mapEnd rest then some (.blank, r.at rest)
                else node handles false false (r.at rest) fuel
              let (value, r) ← flowValue handles .mapEnd r fuel
              flowEntries handles false ((key, value) :: read) r fuel
          | tokens => do
              let (key, r) ← node handles false false (r.at tokens) fuel
              flowEntries handles false ((key, .blank) :: read) r fuel
termination_by structural fuel => fuel

end

/-- The directives before a document: the handles that they define, and the tokens after them. The
version may be named once. -/
def directives? (handles : Handles) (versioned : Bool) :
    List Token → Option (Handles × List Token)
  | .version major minor :: rest =>
      if versioned || major ≠ 1 || !(minor == 1 || minor == 2) then none
      else directives? handles true rest
  | .handle name expansion :: rest =>
      if handles.any (·.1 == name) then none
      else directives? (handles ++ [(name, expansion)]) versioned rest
  | rest => some (handles, rest)

/-- The handles that need no directive. -/
def standardHandles : Handles := [("!", "!"), ("!!", "tag:yaml.org,2002:")]

/-- Whether the tokens start another part of the text than the node of a document. -/
def endsDocument : List Token → Bool
  | [] => true
  | .version _ _ :: _ => true
  | .handle _ _ :: _ => true
  | .documentStart :: _ => true
  | .documentEnd :: _ => true
  | _ => false

/-- Whether there are only end markers. -/
def isClosed (tokens : List Token) : Bool := tokens.all (· == .documentEnd)

/-- The document of a list of tokens. After directives it has to be marked as started. -/
def Document.ofTokens? (tokens : List Token) : Option Document := do
  if tokens.isEmpty then some ⟨none, []⟩
  else
    let fuel := 4 * tokens.length + 8
    let (defined, rest) ← directives? [] false tokens
    let handles := defined ++ standardHandles
    let (root, after) ← match rest with
      | .documentStart :: rest =>
          if endsDocument rest then some (.blank, { tokens := rest })
          else node handles true false { tokens := rest } fuel
      | rest =>
          if rest.length < tokens.length then none
          else node handles true false { tokens := rest } fuel
    if isClosed after.tokens then some ⟨some root, after.marked⟩ else none

def read? (text : String) : Option Document := (tokens? text).bind Document.ofTokens?

end CommandBot.Yaml
