import CommandBot.Text.Quoted

/-!
# Faults

What can go wrong when the commands of a channel are changed or a response is put together. Each
fault has a short code and a message; what of it is told to the chat is decided elsewhere.
-/

namespace CommandBot

/-- Why a command is not accepted or a response cannot be given. -/
inductive Fault where
  | invalidCommandName (name : String)
  | invalidCooldown (seconds : Int)
  | duplicateCommand (name : String)
  | commandNotFound (name : String)
  | moduleNotFound (name : String)
  | moduleUnavailable (name reason : String)
  | insufficientArguments (name : String) (required available : Nat)
  | unknownPlaceholder (name : String)
  | moduleFailed (message : String)
  deriving DecidableEq, Repr, Inhabited

namespace Fault

/-- The code of a fault in reports. -/
def code : Fault → String
  | invalidCommandName _ => "invalid_command_name"
  | invalidCooldown _ => "invalid_cooldown"
  | duplicateCommand _ => "duplicate_command"
  | commandNotFound _ => "command_not_found"
  | moduleNotFound _ => "module_not_found"
  | moduleUnavailable _ _ => "module_unavailable"
  | insufficientArguments _ _ _ => "insufficient_arguments"
  | unknownPlaceholder _ => "unknown_placeholder"
  | moduleFailed _ => "module_error"

def message : Fault → String
  | invalidCommandName name => "invalid command name: " ++ Text.quoted name
  | invalidCooldown seconds => s!"invalid cooldown: {seconds} (must not be negative)"
  | duplicateCommand name => s!"duplicate command name: {name} (names are case-insensitive)"
  | commandNotFound name => s!"command not found: {name}"
  | moduleNotFound name => s!"module not found: {name}"
  | moduleUnavailable name reason => s!"module unavailable: {name} ({reason})"
  | insufficientArguments name required available =>
      s!"module {name} needs {required} argument(s), got {available}"
  | unknownPlaceholder name => s!"unknown placeholder: &{name}&"
  | moduleFailed message => s!"module error: {message}"

end Fault

end CommandBot
