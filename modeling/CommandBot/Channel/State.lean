import CommandBot.Commands
import CommandBot.Cooldown
import CommandBot.Json.Basic

/-!
# The state of a channel

A `Channel` is what the lines of a channel and the modules that they call may change: the sigil
that starts a command line, the commands and their last uses, and the options that are stored for
the modules. A change that has to be stored marks the channel as unsaved.
-/

namespace CommandBot

/-- The state of one channel. -/
structure Channel where
  name : String
  /-- What a line has to start with to be a command line. -/
  sigil : String
  commands : Commands
  cooldowns : CommandCooldowns
  startedAt : Instant
  /-- The stored options of each module, by its name in lowercase or as it was stored. -/
  options : KeyMap Json.Options
  /-- Whether something has changed since the channel was last stored. -/
  unsaved : Bool

namespace Channel

/-- A channel that starts now. -/
def start (name sigil : String) (commands : Commands) (now : Instant) : Channel :=
  ⟨name, sigil, commands, .empty, now, .empty, false⟩

/-- Marks a change that has to be stored. -/
def markUnsaved (c : Channel) : Channel := { c with unsaved := true }

/-- Whether something has to be stored; after that nothing has. -/
def takeUnsaved (c : Channel) : Bool × Channel := (c.unsaved, { c with unsaved := false })

/-- Stores an option of a module. The running module keeps its own; the option counts from the
next start on. -/
def setOption (c : Channel) (moduleName key : String) (value : Json) : Channel :=
  let name := Text.lower moduleName
  let options := (c.options.get? name).getD .empty
  { c with options := c.options.insert name (options.insert key value) }.markUnsaved

@[simp] theorem markUnsaved_unsaved (c : Channel) : c.markUnsaved.unsaved = true := rfl

end Channel

end CommandBot
