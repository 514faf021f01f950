import CommandBot.Module.Kind
import CommandBot.Wording

/-!
# The module `cmddel`

It removes the command that its argument names, together with its last use, so that a command
which is added again under the name may be used at once.
-/

namespace CommandBot.CommandRemove

def help : String := "Removes a command. Usage: cmddel <name>"

/-- What the module does with its arguments. -/
def perform (args : List String) (channel : Channel) : String × Channel :=
  match args with
  | [] => (Wording.nameToRemove, channel)
  | name :: _ =>
      match channel.commands.remove name with
      | .ok (removed, commands) =>
          (Wording.commandRemoved removed.name,
            { channel with
              commands := commands
              cooldowns := channel.cooldowns.forget removed.name }.markUnsaved)
      | .error _ => (Wording.commandMissing name, channel)

def kind : Kind Unit :=
  ⟨"cmddel", help, .upTo 1, true, .empty, fun _ before _ => (.ok (), before)⟩

end CommandBot.CommandRemove
