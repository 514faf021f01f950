import CommandBot.Author
import CommandBot.Files.Path
import CommandBot.KeyMap
import CommandBot.Number.Integer
import CommandBot.Text.Casing
import CommandBot.Yaml.Reader

/-!
# The config of the bot

The bot has a config of its own, apart from those of its channels: how it talks to the chat, which
channels it serves, who has which role, and how it reports trouble. It is written in YAML, where
every part may be missing.
-/

namespace CommandBot

/-- How the bot talks to the chat. -/
inductive Transport where
  | matrix
  | console
  deriving DecidableEq, Repr

/-- The account of the bot at a Matrix server. -/
structure MatrixAccount where
  homeserver : String
  username : String
  password : String
  deriving DecidableEq, Repr

/-- What is reported, and where. Level 1 is for errors, level 2 also for every start. -/
structure TelemetryConfig where
  level : Nat := 0
  webhook : Option String := none
  username : String := "rasbot"
  deriving DecidableEq, Repr

/-- How long a module may take, in seconds, and how many lines may wait in a channel. -/
structure EngineConfig where
  moduleTimeout : Nat := 30
  queueCapacity : Nat := 64
  deriving DecidableEq, Repr

/-- The config of the bot. -/
structure AppConfig where
  transport : Transport := .matrix
  matrix : Option MatrixAccount := none
  /-- Where the config of each channel is stored, below the data directory. -/
  channels : KeyMap String := .empty
  dataDirectory : String := "data"
  moderators : List String := []
  subscribers : List String := []
  vips : List String := []
  engine : EngineConfig := {}
  telemetry : TelemetryConfig := {}

namespace AppConfig

/-- Where the config of a channel is stored. -/
def channelPath (c : AppConfig) (path : String) : String := Path.join c.dataDirectory path

/-- Whether an id is in a list, in any letter case. -/
def isListed (list : List String) (id : String) : Bool :=
  list.any fun other => Text.lower other == Text.lower id

/-- The author of this id and name, with the roles that the config gives. -/
def author (c : AppConfig) (id name : String) : Author :=
  ⟨id, name, isListed c.moderators id, isListed c.subscribers id, isListed c.vips id⟩

/-! ### Reading -/

open Yaml (Node Document)

/-- The value of a digit in a base up to 16. -/
def digitIn? (base : Nat) (c : Char) : Option Nat :=
  (Json.hexValue? c).filter (· < base)

/-- The value of one or more digits in a base. -/
def digitsIn? (base : Nat) (digits : List Char) : Option Nat :=
  if digits.isEmpty then none
  else digits.foldlM (fun acc c => (digitIn? base c).map (base * acc + ·)) 0

/-- A number that is written in base 10, or in another base with a mark in front. A zero in front
of other digits makes it a text. -/
def number? (text : List Char) : Option Nat :=
  let bare := match text with
    | '+' :: rest => rest
    | rest => rest
  match bare with
  | '0' :: 'x' :: digits => digitsIn? 16 digits
  | '0' :: 'o' :: digits => digitsIn? 8 digits
  | '0' :: 'b' :: digits => digitsIn? 2 digits
  | ['0'] => some 0
  | '0' :: _ => none
  | digits => digitsIn? 10 digits

section Document

/-! Every part of a config may be a reference to a node elsewhere in the document `doc`. -/

variable (doc : Document)

/-- A text; a scalar stands for the text that is written, whatever it looks like. -/
def string? (node : Node) : Option String :=
  match doc.follow node with
  | .scalar s => some s.text
  | _ => none

/-- Whether a node is left out: it is a plain scalar that stands for null. One with the tag of null
has to be a word for it, and with another tag it is not left out. -/
def isMissing? (node : Node) : Option Bool :=
  match doc.follow node with
  | .scalar s =>
      if s.style ≠ .plain then some false
      else
        match s.tag with
        | none => some (s.text.isEmpty || Yaml.isNullWord s.text)
        | some tag =>
            if tag ≠ Yaml.nullTag then some false
            else if Yaml.isNullWord s.text then some true
            else none
  | _ => some false

/-- What `read` makes of a node that may be left out. -/
def optional? {α : Type} (read : Node → Option α) (node : Node) : Option (Option α) := do
  if ← isMissing? doc node then some none else (read node).map some

/-- A number of so many bits, which is plain or has the tag of numbers. -/
def natural? (bits : Nat) (node : Node) : Option Nat :=
  match doc.follow node with
  | .scalar s =>
      if s.style = .plain ∨ (s.style = .literal ∧ s.tag = some Yaml.integerTag) then
        (number? s.text.toList).filter (· < Number.twoPow bits)
      else none
  | _ => none

/-- The items of a list; nothing written is an empty list. -/
def items? (node : Node) : Option (List Node) :=
  match doc.follow node with
  | .list items => some items
  | other => if other.isBlank then some [] else none

/-- The entries of a map with their keys as texts; nothing written is an empty map. -/
def entries? (node : Node) : Option (List (String × Node)) :=
  match doc.follow node with
  | .map entries => entries.mapM fun e => (string? doc e.1).map fun key => (key, e.2)
  | other => if other.isBlank then some [] else none

/-- The entries of a record, in which none of the named fields may be given twice. -/
def fields? (names : List String) (node : Node) : Option (List (String × Node)) := do
  let entries ← entries? doc node
  if names.all fun name => (entries.filter fun e => e.1 == name).length ≤ 1 then some entries
  else none

/-- A field of a record, which has a default if it is missing. -/
def field? {α : Type} (entries : List (String × Node)) (name : String) (default : α)
    (read : Node → Option α) : Option α :=
  match entries.lookup name with
  | none => some default
  | some node => read node

def strings? (node : Node) : Option (List String) :=
  (items? doc node).bind fun items => items.mapM (string? doc)

/-- A map of texts, where of several entries with one key the last counts. -/
def stringMap? (node : Node) : Option (KeyMap String) := do
  let entries ← entries? doc node
  let pairs ← entries.mapM fun e => (string? doc e.2).map fun value => (e.1, value)
  some (.ofList pairs)

/-- The way to the chat of this name. -/
def transportOf? : String → Option Transport
  | "matrix" => some .matrix
  | "console" => some .console
  | _ => none

/-- The way to the chat. It is named by a scalar, or by a tag of the document's own, after which
nothing but null is written. -/
def transport? (node : Node) : Option Transport :=
  match doc.follow node with
  | .scalar s =>
      match (s.tag.getD "").toList with
      | '!' :: name =>
          if s.style = .plain ∧ (s.text.isEmpty || Yaml.isNullWord s.text) then
            transportOf? (String.ofList name)
          else none
      | _ => transportOf? s.text
  | _ => none

/-- The account at a Matrix server, all of which has to be given. -/
def account? (node : Node) : Option MatrixAccount := do
  let entries ← fields? doc ["homeserver", "username", "password"] node
  let given (name : String) : Option String := (entries.lookup name).bind (string? doc)
  some ⟨← given "homeserver", ← given "username", ← given "password"⟩

def engine? (node : Node) : Option EngineConfig := do
  let entries ← fields? doc ["module_timeout_secs", "queue_capacity"] node
  some ⟨← field? entries "module_timeout_secs" 30 (natural? doc 64),
    ← field? entries "queue_capacity" 64 (natural? doc 64)⟩

def reports? (node : Node) : Option TelemetryConfig := do
  let entries ← fields? doc ["level", "webhook_url", "username"] node
  some ⟨← field? entries "level" 0 (natural? doc 8),
    ← field? entries "webhook_url" none (optional? doc (string? doc)),
    ← field? entries "username" "rasbot" (string? doc)⟩

/-- The config that a node stands for. -/
def ofNode? (node : Node) : Option AppConfig := do
  let entries ← fields? doc ["transport", "matrix", "channels", "data_dir", "moderators",
    "subscribers", "vips", "engine", "telemetry"] node
  some
    { transport := ← field? entries "transport" .matrix (transport? doc)
      matrix := ← field? entries "matrix" none (optional? doc (account? doc))
      channels := ← field? entries "channels" .empty (stringMap? doc)
      dataDirectory := ← field? entries "data_dir" "data" (string? doc)
      moderators := ← field? entries "moderators" [] (strings? doc)
      subscribers := ← field? entries "subscribers" [] (strings? doc)
      vips := ← field? entries "vips" [] (strings? doc)
      engine := ← field? entries "engine" {} (engine? doc)
      telemetry := ← field? entries "telemetry" {} (reports? doc) }

end Document

/-- Reads the text of a config. An empty text is the config in which everything is missing. -/
def read? (text : String) : Option AppConfig := do
  let doc ← Yaml.read? text
  match doc.root with
  | some node => ofNode? doc node
  | none => some {}

end AppConfig

end CommandBot
