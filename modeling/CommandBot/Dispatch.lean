import CommandBot.Template.Resolve
import CommandBot.Wording

/-!
# Handling a line

A line of the chat passes through gates before anything happens: it has to start with the sigil of
the channel, name a command, come from a moderator if the command is for moderators, and respect
the command's cooldown. A line that is stopped at a gate leaves no trace. One that passes counts as
a use of the command, whatever becomes of its response.
-/

namespace CommandBot

/-- Why a line is answered with nothing. -/
inductive Ignored where
  | notPrefixed
  | unknownCommand (name : String)
  | denied (name : String)
  | onCooldown (name : String) (remaining : Duration)
  | emptyResponse
  deriving DecidableEq, Repr

/-- What becomes of a line. -/
inductive Outcome where
  | ignored (why : Ignored)
  | sent (text : String)
  | suppressed
  | errored (fault : Fault) (reply : Option String)
  deriving DecidableEq, Repr

namespace Outcome

/-- What is said in the chat, if anything. -/
def reply : Outcome → Option String
  | .sent text => some text
  | .errored _ reply => reply
  | .ignored _ => none
  | .suppressed => none

end Outcome

namespace Dispatch

variable {ι : Type}

/-- What is told to the chat of a fault. -/
def faultReply (modules : Modules ι) : Fault → Option String
  | .insufficientArguments name _ _ =>
      match modules.lookup name with
      | .ok m => some (Wording.usage m.help)
      | .error _ => some Wording.missingArguments
  | .moduleUnavailable _ _ => some Wording.moduleUnavailable
  | .moduleNotFound _ => some Wording.moduleUnavailable
  | .moduleFailed _ => some Wording.moduleFailed
  | _ => none

/-- The words of a line after the sigil, if it starts with it, white space before it aside. -/
def commandWords? (sigil line : String) : Option (List String) :=
  (Text.dropLead? sigil.toList (Text.trimStart line.toList)).map fun rest =>
    (Text.words rest).map String.ofList

def outcomeOf (modules : Modules ι) : Except Fault Template.Resolution → Outcome
  | .ok ⟨.text chars, _⟩ =>
      if chars.all Text.isBlank then .ignored .emptyResponse else .sent (String.ofList chars)
  | .ok ⟨.suppressed, _⟩ => .suppressed
  | .error fault => .errored fault (faultReply modules fault)

variable [Callable ι]

/-- Responds to a command that has been admitted. -/
def respond (network : Network) (request : Template.Request) (command : Command)
    (args : List String) (scene : Scene ι) : Outcome × Scene ι :=
  let resolved := Template.resolve network request command.response args scene
  (outcomeOf resolved.scene.modules resolved.result, resolved.scene)

/-- Admits a command to its response if it is not used too early. -/
def tryUse (network : Network) (request : Template.Request) (command : Command)
    (args : List String) (scene : Scene ι) : Outcome × Scene ι :=
  match scene.channel.cooldowns.use command.name (Duration.seconds command.cooldown) scene.now with
  | (.waiting remaining, _) => (.ignored (.onCooldown command.name remaining), scene)
  | (.ready, cooldowns) =>
      respond network request command args
        { scene with channel := { scene.channel with cooldowns := cooldowns } }

/-- Handles a line. -/
def dispatch (network : Network) (request : Template.Request) (line : String)
    (scene : Scene ι) : Outcome × Scene ι :=
  match commandWords? scene.channel.sigil line with
  | none => (.ignored .notPrefixed, scene)
  | some words =>
      let name := Text.lower (words.headD "")
      match scene.channel.commands.lookup name with
      | none => (.ignored (.unknownCommand name), scene)
      | some command =>
          if command.modOnly && !request.author.isModerator then
            (.ignored (.denied command.name), scene)
          else tryUse network request command words.tail scene

end Dispatch

end CommandBot
