import CommandBot.Fault
import CommandBot.KeyMap
import CommandBot.Number.Power
import CommandBot.Text.Casing

/-!
# The commands of a channel

A `Commands` holds the commands that a channel answers to, each under its name in lowercase, so
that names are the same in any letter case. Commands are stored as entries (`StoredCommand`), whose
cooldown may be any integer; a name that is no name or a negative cooldown is refused when an entry
becomes a command.
-/

namespace CommandBot

/-- A trigger of the chat and the template of its response. -/
structure Command where
  name : String
  /-- Seconds between two uses. -/
  cooldown : Nat
  modOnly : Bool
  /-- Left out where commands are listed. -/
  hidden : Bool
  response : String
  deriving DecidableEq, Repr, Inhabited

/-- A command as it stands in a channel's config, under a name. -/
structure StoredCommand where
  cooldown : Int := 0
  modOnly : Bool := false
  hidden : Bool := false
  response : String
  deriving DecidableEq, Repr, Inhabited

/-- The entry of a command. A cooldown is cut to the range that a config can hold. -/
def Command.stored (c : Command) : StoredCommand :=
  ⟨min c.cooldown (Number.twoPow 63 - 1), c.modOnly, c.hidden, c.response⟩

/-- The pattern of command names, as it is shown to the chat. -/
def namePattern : String := "^[A-Za-z0-9_]+$"

/-- A name is one or more ASCII letters, digits and underscores. -/
def isValidName (name : String) : Bool := !name.toList.isEmpty && name.toList.all Text.isNameChar

/-- The commands of a channel by name. -/
structure Commands where
  byName : KeyMap Command
  deriving DecidableEq, Repr, Inhabited

/-- The names of the commands that are shown, by who may use them. -/
structure Listing where
  forAll : List String
  modOnly : List String
  deriving DecidableEq, Repr

namespace Commands

def empty : Commands := ⟨.empty⟩

/-- The command of this name in any letter case. -/
def lookup (cs : Commands) (name : String) : Option Command := cs.byName.get? (Text.lower name)

def size (cs : Commands) : Nat := cs.byName.size

/-- Stores a command under its name in lowercase, over one of the same name. -/
def add (cs : Commands) (name : String) (entry : StoredCommand) : Except Fault Commands :=
  if !isValidName name then .error (.invalidCommandName name)
  else if entry.cooldown < 0 then .error (.invalidCooldown entry.cooldown)
  else
    let key := Text.lower name
    .ok ⟨cs.byName.insert key
      ⟨key, entry.cooldown.toNat, entry.modOnly, entry.hidden, entry.response⟩⟩

/-- Removes the command of this name, and gives it. -/
def remove (cs : Commands) (name : String) : Except Fault (Command × Commands) :=
  match cs.lookup name with
  | some command => .ok (command, ⟨cs.byName.erase (Text.lower name)⟩)
  | none => .error (.commandNotFound name)

/-- Adds an entry whose name must be new. -/
def addNew (cs : Commands) (name : String) (entry : StoredCommand) : Except Fault Commands :=
  if (cs.lookup name).isSome then .error (.duplicateCommand (Text.lower name))
  else cs.add name entry

/-- Adds entries in turn, up to the first that is refused. -/
def addAllNew (cs : Commands) : List (String × StoredCommand) → Except Fault Commands
  | [] => .ok cs
  | (name, entry) :: rest =>
      match cs.addNew name entry with
      | .ok cs => cs.addAllNew rest
      | .error fault => .error fault

def ofEntries (entries : List (String × StoredCommand)) : Except Fault Commands :=
  empty.addAllNew entries

/-- The entries of the commands, as they are stored. -/
def toEntries (cs : Commands) : KeyMap StoredCommand :=
  KeyMap.ofList (cs.byName.values.map fun c => (c.name, c.stored))

/-- The commands that are not hidden, in order of their names. -/
def listed (cs : Commands) : Listing :=
  let shown := cs.byName.values.filter fun c => !c.hidden
  ⟨(shown.filter fun c => !c.modOnly).map (·.name), (shown.filter (·.modOnly)).map (·.name)⟩

@[simp] theorem lookup_empty (name : String) : empty.lookup name = none := rfl

@[simp] theorem addAllNew_nil (cs : Commands) : cs.addAllNew [] = .ok cs := rfl

end Commands

end CommandBot
