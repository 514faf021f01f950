import CommandBot.Module.Kind
import CommandBot.Wording

/-!
# The module `target`

It names the user that is mentioned, without the `@` of the mention, or else the caller.
-/

namespace CommandBot.Target

def help : String :=
  "Returns a mentioned user. If no user is mentioned, returns the caller. Usage: target <@user?>"

/-- The name of a mentioned user. -/
def unmention (user : String) : String :=
  match user.toList with
  | '@' :: rest => String.ofList rest
  | _ => user

def answer (call : Invocation) : String :=
  match call.args with
  | [] => call.author.name
  | user :: _ => unmention user

def kind : Kind Unit :=
  ⟨"target", help, .upTo 1, true, .empty, fun _ before _ => (.ok (), before)⟩

end CommandBot.Target
