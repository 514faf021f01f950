import CommandBot.Module.Kind
import CommandBot.Template.Token
import CommandBot.Wording

/-!
# The module `help`

Without an argument it lists the commands of the channel. With a name it gives the help of the
module of that name, or else names the modules that the command of that name mentions.
-/

namespace CommandBot.Help

def help : String :=
  "Prints all available commands, or, if provided a name, prints the help message for it. "
    ++ "Usage: help <name?>"

/-- The modules that a template mentions, each once, in order of first appearance. -/
def mentioned (modules : Modules Unit) (template : String) : List String :=
  (((Template.tokens template).map (·.name)).filter modules.contains).eraseDups

def describeCommand (call : Invocation) (name : String) : String :=
  match call.channel.commands.lookup name with
  | none => Wording.noMatch
  | some command =>
      match mentioned call.modules command.response with
      | [] => Wording.commandWithoutModules name
      | used => Wording.commandUsesModules name used

def describe (call : Invocation) (name : String) : String :=
  match call.modules.lookup name with
  | .ok m => m.help
  | .error (.moduleUnavailable _ _) => Wording.namedModuleUnavailable name
  | .error _ => describeCommand call name

def answer (call : Invocation) : String :=
  match call.args with
  | [] => Wording.availableCommands call.channel.commands.listed
  | arg :: _ => describe call (Text.lower arg)

def kind : Kind Unit :=
  ⟨"help", help, .upTo 1, true, .empty, fun _ before _ => (.ok (), before)⟩

end CommandBot.Help
