import CommandBot.Module.Basic
import CommandBot.Text.Casing

/-!
# Canned modules

Modules that do one simple thing each. They stand in for others where a channel is tried out: they
answer with fixed texts, give back their arguments, wait, count, fail, or change the channel.
-/

namespace CommandBot

/-- What a canned module does. -/
inductive Canned where
  /-- Answers with a text. -/
  | fixed (text : String)
  /-- Answers with its arguments between brackets. -/
  | echo
  /-- Answers with its arguments, put together with a text between them. -/
  | join (separator : String)
  /-- Calls the response off. -/
  | veto
  /-- Fails. -/
  | fail (fault : Fault)
  /-- Waits and then answers with a text. -/
  | slow (span : Duration) (text : String)
  /-- Answers with the number of its calls, counted from a start. -/
  | count (calls : Nat)
  /-- Sets the option that its first argument names, of a module, to its second. -/
  | setOption (moduleName : String)
  /-- Gives the channel a new name. -/
  | rename
  deriving DecidableEq, Repr

namespace Canned

/-- Sets the option that the arguments name. -/
def setOptionOf (moduleName : String) (args : List String) (channel : Channel) :
    String × Channel :=
  let key := args.headD ""
  let value := match args with
    | _ :: value :: _ => Json.string value
    | _ => Json.null
  (key, channel.setOption moduleName key value)

/-- What a canned module does when it is called. -/
def call (body : Canned) (c : Invocation) : Run Canned :=
  match body with
  | .fixed text => .reply body c c.channel text
  | .echo => .reply body c c.channel ("[" ++ ",".intercalate c.args ++ "]")
  | .join separator => .reply body c c.channel (separator.intercalate c.args)
  | .veto => .instant body c.channel c.exchanges (.ok .veto)
  | .fail fault => .instant body c.channel c.exchanges (.error fault)
  | .slow span text =>
      (Run.reply body c c.channel text).after ⟨span, ⟨body, c.channel, c.exchanges⟩⟩
  | .count calls => .reply (.count (calls + 1)) c c.channel (toString (calls + 1))
  | .setOption moduleName =>
      let (key, channel) := setOptionOf moduleName c.args c.channel
      .reply body c channel key
  | .rename => .reply body c { c.channel with name := String.join c.args } ""

instance : Callable Canned := ⟨fun _ => call⟩

end Canned

end CommandBot
