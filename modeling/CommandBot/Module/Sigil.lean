import CommandBot.Module.Kind
import CommandBot.Wording

/-!
# The module `prefix`

It shows the sigil that command lines start with, or changes it to its argument.
-/

namespace CommandBot.Sigil

def help : String := "Shows the command prefix, or changes it. Usage: prefix <new prefix?>"

/-- What the module does with its arguments. -/
def perform (args : List String) (channel : Channel) : String × Channel :=
  match args with
  | [] => (Wording.currentSigil channel.sigil, channel)
  | sigil :: _ => (Wording.sigilChanged sigil, { channel with sigil := sigil }.markUnsaved)

def kind : Kind Unit :=
  ⟨"prefix", help, .upTo 1, true, .empty, fun _ before _ => (.ok (), before)⟩

end CommandBot.Sigil
