import CommandBot.Module.Builtin
import CommandBot.Proofs.Module.Runs
import CommandBot.Proofs.Request.Gates

/-!
# What the modules of the bot do to a channel

`Builtin.Deed` lists all that a call of one of these modules can do to the channel and to the module
itself, and `always_deed` says that nothing else ever comes of a call, also of one that is cut off
or fails. Later proofs go through this list and never look into the modules.
-/

namespace CommandBot.Builtin

/-- What a call does to the body of a module and to the channel. -/
inductive Deed (call : Invocation) : Builtin → Builtin → Channel → Prop
  | nothing (body : Builtin) : Deed call body body call.channel
  /-- The last success of a caller is kept. -/
  | charged (state : Request.State) (cooldowns : CallerCooldowns) :
      Deed call (.request state) (.request { state with cooldowns := cooldowns }) call.channel
  | defined {settings : CommandAdd.Settings} {definition : CommandAdd.Definition}
      {commands : Commands} (hparse : CommandAdd.parse settings call.args = .ok definition)
      (hadd : call.channel.commands.add definition.name definition.entry = .ok commands) :
      Deed call (.commandAdd settings) (.commandAdd settings)
        { call.channel with commands := commands }.markUnsaved
  | removed {name : String} {command : Command} {commands : Commands}
      (hremove : call.channel.commands.remove name = .ok (command, commands)) :
      Deed call .commandRemove .commandRemove
        { call.channel with
          commands := commands
          cooldowns := call.channel.cooldowns.forget command.name }.markUnsaved
  | resigned {sigil : String} (harg : sigil ∈ call.args) :
      Deed call .sigil .sigil { call.channel with sigil := sigil }.markUnsaved
  | toggled (state : Request.State) (submode : Bool) (hmod : call.author.isModerator = true) :
      Deed call (.request state)
        (.request { state with settings := { state.settings with submode := submode } })
        (call.channel.setOption "request" "submode" (.bool submode))

theorem always_say {p : Effects Builtin → Prop} {body : Builtin} {call : Invocation}
    {answer : String × Channel} (h : p ⟨body, answer.2, call.exchanges⟩) :
    (say body call answer).Always p :=
  Run.always_instant h _

theorem deed_commandAdd (settings : CommandAdd.Settings) (call : Invocation) :
    (runCommandAdd settings call).Always fun e =>
      Deed call (.commandAdd settings) e.body e.channel := by
  unfold runCommandAdd CommandAdd.perform
  cases hparse : CommandAdd.parse settings call.args with
  | error text => exact always_say (Deed.nothing _)
  | ok definition =>
      simp only [CommandAdd.store]
      cases hadd : call.channel.commands.add definition.name definition.entry with
      | ok commands => exact always_say (.defined hparse hadd)
      | error fault =>
          cases fault with
          | invalidCooldown seconds => exact always_say (Deed.nothing _)
          | invalidCommandName name => exact always_say (Deed.nothing _)
          | _ => exact Run.always_instant (Deed.nothing _) _

theorem deed_commandRemove (call : Invocation) :
    Deed call .commandRemove .commandRemove (CommandRemove.perform call.args call.channel).2 := by
  unfold CommandRemove.perform
  split
  · exact Deed.nothing _
  · split
    · rename_i hremove
      exact Deed.removed hremove
    · exact Deed.nothing _

theorem deed_sigil (call : Invocation) :
    Deed call .sigil .sigil (Sigil.perform call.args call.channel).2 := by
  unfold Sigil.perform
  split
  · exact Deed.nothing _
  · rename_i sigil rest hargs
    exact Deed.resigned (by rw [hargs]; exact List.mem_cons_self)

/-- What holds of all that a call of the module `request` can do. -/
def RequestDeed (call : Invocation) (state : Request.State) (e : Effects Request.State) : Prop :=
  Deed call (.request state) (.request e.body) e.channel

theorem deed_deliver (network : Network) (state : Request.State) (call : Invocation)
    (now : Instant) (before : List Exchange) (message : String) :
    (Request.deliver network state call now before message).Always (RequestDeed call state) := by
  unfold Request.deliver
  refine Run.Always.after ?_ (Deed.nothing _)
  split
  · exact Run.always_instant (Deed.charged state _) _
  · exact Run.always_instant (Deed.nothing _) _

theorem deed_fulfil (network : Network) (state : Request.State) (call : Invocation)
    (link : Request.MapLink) (mods : String) :
    (Request.fulfil network state call link mods).Always (RequestDeed call state) := by
  unfold Request.fulfil
  refine Run.Always.after ?_ (Deed.nothing _)
  split
  · exact Run.always_instant (Deed.nothing _) _
  · exact deed_deliver network state call _ _ _

theorem deed_request (network : Network) (state : Request.State) (call : Invocation) :
    (Request.run network state call).Always (RequestDeed call state) := by
  cases Request.course network state call with
  | held _ hrun =>
      rw [hrun]
      exact Run.always_instant (Deed.nothing _) _
  | switches h hrun =>
      rw [hrun]
      exact Run.always_instant (Deed.toggled state _ h.moderator) _
  | passes h hrun =>
      rw [hrun]
      exact deed_fulfil network state call _ _
  | answers _ _ _ _ hrun =>
      rw [hrun]
      exact Run.always_instant (Deed.nothing _) _

/-- Whatever a call has done when it ends or is cut off is on the list. -/
theorem always_deed (network : Network) (body : Builtin) (c : Invocation) :
    (Callable.call network body c).Always fun e => Deed c body e.body e.channel := by
  cases body with
  | help => exact always_say (Deed.nothing _)
  | commandAdd settings => exact deed_commandAdd settings c
  | commandRemove => exact always_say (deed_commandRemove c)
  | sigil => exact always_say (deed_sigil c)
  | target => exact always_say (Deed.nothing _)
  | request state => exact Run.Always.map (deed_request network state c)

end CommandBot.Builtin
