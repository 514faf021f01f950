import CommandBot.Module.CommandAdd
import CommandBot.Module.CommandRemove
import CommandBot.Module.Help
import CommandBot.Module.Sigil
import CommandBot.Module.Target
import CommandBot.Request.Basic

/-!
# The modules that come with the bot

`help`, `cmdadd`, `cmddel`, `prefix` and `target` are loaded in every channel, `request` only where
the config asks for it.
-/

namespace CommandBot

/-- The body of a module that comes with the bot. -/
inductive Builtin where
  | help
  | commandAdd (settings : CommandAdd.Settings)
  | commandRemove
  | sigil
  | target
  | request (state : Request.State)
  deriving DecidableEq, Repr

namespace Builtin

/-- A run that answers with a text and leaves its body as it is. -/
def say (body : Builtin) (call : Invocation) (answer : String × Channel) : Run Builtin :=
  .reply body call answer.2 answer.1

/-- What the module `cmdadd` does when it is called. -/
def runCommandAdd (settings : CommandAdd.Settings) (call : Invocation) : Run Builtin :=
  match CommandAdd.perform settings call.args call.channel with
  | .ok answer => say (.commandAdd settings) call answer
  | .error fault => .instant (.commandAdd settings) call.channel call.exchanges (.error fault)

/-- What a module does when it is called. -/
def call (network : Network) : Builtin → Invocation → Run Builtin
  | .help, c => say .help c (Help.answer c, c.channel)
  | .commandAdd settings, c => runCommandAdd settings c
  | .commandRemove, c => say .commandRemove c (CommandRemove.perform c.args c.channel)
  | .sigil, c => say .sigil c (Sigil.perform c.args c.channel)
  | .target, c => say .target c (Target.answer c, c.channel)
  | .request state, c => (Request.run network state c).map .request

instance : Callable Builtin := ⟨call⟩

def catalogue : Catalogue Builtin :=
  [Help.kind.map fun _ => .help,
    CommandAdd.kind.map .commandAdd,
    CommandRemove.kind.map fun _ => .commandRemove,
    Sigil.kind.map fun _ => .sigil,
    Target.kind.map fun _ => .target,
    Request.kind.map .request]

end Builtin

end CommandBot
