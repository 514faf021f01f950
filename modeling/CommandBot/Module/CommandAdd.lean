import CommandBot.Module.Kind
import CommandBot.Module.Settings
import CommandBot.Wording

/-!
# The module `cmdadd`

Its arguments are the name of a command, a cooldown if the next word is a whole number, any number
of the two flags, and the response. It stores the command over one of the same name; what is
missing or not allowed is told, and then nothing changes.
-/

namespace CommandBot.CommandAdd

def help : String :=
  "Adds a new command, or modifies an existing one. "
    ++ "Usage: cmdadd <name> <cooldown?> <-modonly?> <-hidden?> <response>."

/-- How the flags are spelled, and the cooldown of a command that is given none. -/
structure Settings where
  modOnlyFlag : String
  hiddenFlag : String
  defaultCooldown : Int
  deriving DecidableEq, Repr

/-- The options of the module before a channel sets any. -/
def defaults : Json.Options :=
  .ofList [("modonly_arg", .string "-modonly"), ("hidden_arg", .string "-hidden"),
    ("default_cooldown", .integer 5)]

/-- Reads the settings from the options, in ascending order of the keys. -/
def readSettings (options : Json.Options) : Except String Settings := do
  let defaultCooldown ← Settings.setting options "default_cooldown"
    (Settings.readInteger (Number.fitsSigned 64) "i64")
  let hiddenFlag ← Settings.setting options "hidden_arg" Settings.readString
  let modOnlyFlag ← Settings.setting options "modonly_arg" Settings.readString
  .ok ⟨modOnlyFlag, hiddenFlag, defaultCooldown⟩

/-- A command that is to be stored under a name. -/
structure Definition where
  name : String
  entry : StoredCommand
  deriving DecidableEq, Repr

/-- The cooldown that the words start with, or that of the settings, and the words after it. -/
def takeCooldown (settings : Settings) : List String → Int × List String
  | [] => (settings.defaultCooldown, [])
  | word :: rest =>
      match Number.readSigned? 64 word with
      | some cooldown => (cooldown, rest)
      | none => (settings.defaultCooldown, word :: rest)

/-- The flags that the words start with, and the words after them. -/
def takeFlags (settings : Settings) (modOnly hidden : Bool) : List String → Bool × Bool × List String
  | [] => (modOnly, hidden, [])
  | word :: rest =>
      if Text.lower word = Text.lower settings.modOnlyFlag then takeFlags settings true hidden rest
      else if Text.lower word = Text.lower settings.hiddenFlag then
        takeFlags settings modOnly true rest
      else (modOnly, hidden, word :: rest)

/-- Reads the arguments, or says what is missing. -/
def parse (settings : Settings) : List String → Except String Definition
  | [] => .error Wording.noCommandInfo
  | name :: words =>
      let (cooldown, words) := takeCooldown settings words
      let (modOnly, hidden, words) := takeFlags settings false false words
      if words.isEmpty then .error Wording.commandIncomplete
      else .ok ⟨Text.lower name, ⟨cooldown, modOnly, hidden, " ".intercalate words⟩⟩

/-- Stores a command, and says so or why not. A fault that is not about the arguments is passed
on. -/
def store (channel : Channel) (definition : Definition) : Except Fault (String × Channel) :=
  match channel.commands.add definition.name definition.entry with
  | .ok commands =>
      .ok (Wording.commandAdded definition.name,
        { channel with commands := commands }.markUnsaved)
  | .error (.invalidCooldown _) => .ok (Wording.negativeCooldown, channel)
  | .error (.invalidCommandName _) => .ok (Wording.invalidName, channel)
  | .error fault => .error fault

/-- What the module does with its arguments. -/
def perform (settings : Settings) (args : List String) (channel : Channel) :
    Except Fault (String × Channel) :=
  match parse settings args with
  | .error text => .ok (text, channel)
  | .ok definition => store channel definition

def kind : Kind Settings :=
  ⟨"cmdadd", help, .all, true, defaults, fun _ before options =>
    ((readSettings options).mapError ("invalid cmdadd config: " ++ ·), before)⟩

end CommandBot.CommandAdd
