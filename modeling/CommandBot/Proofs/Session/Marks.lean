import CommandBot.Proofs.Session.LastUse

/-!
# The last uses that a channel keeps

Every last use that a channel keeps is that of a command which stands in it (`IsTidy`). The use of a
command is marked under the name of the command that stands in the channel, and a call that removes
a command forgets its last use (`KeepsUses.isTidy`). A command that has been removed and added again
is therefore like a new one: it is admitted at once, whatever its cooldown
(`marks_registered_over_run`).
-/

namespace CommandBot

/-- Every last use is that of a command which stands in the channel. -/
def Channel.IsTidy (c : Channel) : Prop :=
  ∀ key t, c.cooldowns.lastUse.get? key = some t →
    ∃ command, c.commands.byName.get? key = some command

/-- A call that forgets the last uses of the commands it removes, and changes no other, leaves the
channel tidy. -/
theorem KeepsUses.isTidy {before after : Channel} (h : KeepsUses before after)
    (hcommands : before.commands.WellFormed) (hbefore : before.IsTidy) : after.IsTidy := by
  intro key t hlast
  cases hafter : after.commands.byName.get? key with
  | some command => exact ⟨command, rfl⟩
  | none =>
      exfalso
      cases hget : before.commands.byName.get? key with
      | some command =>
          rw [h.forgotten hcommands key command hget hafter] at hlast
          cases hlast
      | none =>
          rw [h.kept hcommands key (.inl hget)] at hlast
          obtain ⟨command, hcommand⟩ := hbefore key t hlast
          rw [hget] at hcommand
          cases hcommand

/-- Marking the use of a command that stands in the channel leaves it tidy. -/
theorem Channel.IsTidy.charged {ι : Type} {scene : Scene ι} (h : scene.channel.IsTidy)
    {command : Command}
    (hget : scene.channel.commands.byName.get? command.name = some command) :
    (Dispatch.charged command scene).channel.IsTidy := by
  intro key t hlast
  rw [Dispatch.get?_lastUse_charged] at hlast
  split at hlast
  · rename_i hkey
    exact ⟨command, by rw [hkey]; exact hget⟩
  · exact h key t hlast

theorem isTidy_dispatch {scene : Scene (Builtin ⊕ Canned)}
    (hcommands : scene.channel.commands.WellFormed) (h : scene.channel.IsTidy) (network : Network)
    (request : Template.Request) (line : String) :
    (Dispatch.dispatch network request line scene).2.channel.IsTidy := by
  rcases Dispatch.dispatch_cases network request line scene with
    ⟨-, hsame⟩ | ⟨command, args, hnamed, -, hrespond⟩
  · rw [hsame]
    exact h
  · obtain ⟨⟨name, hlookup⟩, -⟩ := Dispatch.named?_eq_some hnamed
    have hcharged := h.charged (Commands.lookup_eq_some hlookup hcommands).2
    let response := Dispatch.respond network request command args (Dispatch.charged command scene)
    -- that the commands stay well-formed is what the next call relies on
    have hboth : response.2.channel.commands.WellFormed ∧ response.2.channel.IsTidy := by
      refine respond_induction (p := fun _ current =>
        current.channel.commands.WellFormed ∧ current.channel.IsTidy) ⟨hcommands, hcharged⟩
        fun _ before after hkeeps _ hbefore => ?_
      exact ⟨hkeeps.wellFormed hbefore.1, hkeeps.isTidy hbefore.1 hbefore.2⟩
    rw [hrespond]
    exact hboth.2

/-- A command that was removed and has not been used since has no last use. -/
theorem UseEvent.lastAdmission_eq_none {name : String} {before after : List UseEvent}
    (h : ∀ t, .admitted name t ∉ after) :
    lastAdmission name (before ++ .removed name :: after) = none := by
  rw [lastAdmission_append, List.foldl_cons, follow, if_pos rfl]
  cases hlast : after.foldl (follow name) none with
  | none => rfl
  | some t =>
      rcases mem_of_foldl_follow hlast with hnone | hmem
      · cases hnone
      · exact absurd hmem (h t)

/-- A call of `cmddel` removes the command that its argument names in any letter case, and no
other. -/
theorem lost_commandRemove {scene : Scene (Builtin ⊕ Canned)}
    (hcommands : scene.channel.commands.WellFormed) {m : Module (Builtin ⊕ Canned)}
    (hbody : m.body = .inl .commandRemove) {word : String} {command : Command}
    (hlookup : scene.channel.commands.lookup word = some command) (network : Network)
    (request : Template.Request) (name : String) (rest : List String) :
    ∀ gone, gone ∈ Template.lost scene
        (Template.callModule network request name m (word :: rest) scene).2 ↔
      gone = command.name := by
  obtain ⟨hname, hget⟩ := Commands.lookup_eq_some hlookup hcommands
  have hremove : scene.channel.commands.remove word =
      .ok (command, ⟨scene.channel.commands.byName.erase (Text.lower word)⟩) :=
    Commands.remove_eq_ok_iff.2 ⟨hlookup, rfl⟩
  have hchannel : (Template.callModule network request name m (word :: rest)
      scene).2.channel.commands =
      ⟨scene.channel.commands.byName.erase (Text.lower word)⟩ := by
    have hperform : (Template.callModule network request name m (word :: rest) scene).2.channel =
        (CommandRemove.perform (word :: rest) scene.channel).2 := by
      rw [Template.callModule, hbody]
      rfl
    rw [hperform, CommandRemove.perform, hremove]
    rfl
  intro gone
  rw [Template.mem_lost_iff, hchannel, ← hname]
  constructor
  · rintro ⟨⟨found, hfound⟩, hnone⟩
    by_cases hgone : gone = command.name
    · exact hgone
    · rw [KeyMap.get?_erase_of_ne _ hgone, hfound] at hnone
      cases hnone
  · rintro rfl
    exact ⟨⟨command, hget⟩, KeyMap.get?_erase_self _ _⟩

namespace Session

theorem isTidy_play {events : List UseEvent} {s : Session (Builtin ⊕ Canned)}
    (htracks : Tracks events s.scene) (h : s.scene.channel.IsTidy) (network : Network)
    (patience : Duration) (turns : List Turn) :
    (s.play network patience turns).scene.channel.IsTidy := by
  induction turns generalizing events s with
  | nil => exact h
  | cons turn rest ih =>
      refine ih (tracks_take htracks network patience turn) ?_
      cases turn with
      | line author text => exact isTidy_dispatch htracks.wellFormed h network ⟨author, patience⟩ text
      | wait span => exact h

/-- After any turns of a session every last use that is kept is that of a command which stands in
the channel under its own name. A command that was removed, and has not been used since it was
removed, is admitted at once when it stands in the channel again and is used by one who may use it,
whatever its cooldown. What removes a command is a call of `cmddel` with its name in any letter
case, be it from the command's own template. -/
theorem marks_registered_over_run {catalogue : Catalogue (Builtin ⊕ Canned)}
    {before : List Exchange} {now : Instant} {name : String} {config : Channel.Config}
    {start : Session (Builtin ⊕ Canned)} {outset : Network}
    (hstart : Session.start catalogue outset now before name config = .ok start)
    (network : Network) (patience : Duration) (turns : List Turn) :
    let s := start.play network patience turns
    let past := start.events network patience turns
    (∀ key t, s.scene.channel.cooldowns.lastUse.get? key = some t →
      ∃ command, s.scene.channel.commands.byName.get? key = some command ∧ command.name = key) ∧
    (∀ author text command args, Dispatch.named? s.scene.channel text = some (command, args) →
      (command.modOnly = true → author.isModerator = true) →
      ∀ earlier later, past = earlier ++ .removed command.name :: later →
        (∀ t, .admitted command.name t ∉ later) →
        (s.handle network patience author text).1.isStopped = false) ∧
    (∀ (scene : Scene (Builtin ⊕ Canned)) (m : Module (Builtin ⊕ Canned)) request place word rest
      command, scene.channel.commands.WellFormed → m.body = .inl .commandRemove →
      scene.channel.commands.lookup word = some command →
      ∀ gone, gone ∈ Template.lost scene
          (Template.callModule network request place m (word :: rest) scene).2 ↔
        gone = command.name) := by
  intro s past
  have htracks : Tracks past s.scene := tracks_play (tracks_of_start hstart) network patience turns
  refine ⟨fun key t hlast => ?_, fun author text command args hnamed hpermitted earlier later hpast
    hunused => ?_, fun scene m request place word rest command hcommands hbody hlookup =>
      lost_commandRemove hcommands hbody hlookup network request place rest⟩
  · have htidy : s.scene.channel.IsTidy := by
      refine isTidy_play (tracks_of_start hstart) (fun key t hlast => ?_) network patience turns
      obtain ⟨-, commands, -, hchannel, -, -⟩ := start_eq_ok hstart
      rw [hchannel] at hlast
      exact absurd hlast (by simp [Channel.start, CommandCooldowns.empty])
    obtain ⟨command, hget⟩ := htidy key t hlast
    exact ⟨command, hget, (htracks.wellFormed key command hget).named⟩
  · rw [outcome_handle, ← Bool.not_eq_true, htracks.isStopped_iff hnamed hpermitted]
    rintro ⟨t, hlast, -⟩
    rw [hpast, UseEvent.lastAdmission_eq_none hunused] at hlast
    cases hlast

/-- A command removes itself, in other letter case, and stores itself anew with a cooldown of a day.
The next line for it is admitted at once. -/
theorem marks_registered_over_run_self :
    let config : Channel.Config :=
      ⟨"r!", .ofList [("x", { cooldown := 600, response := "&cmddel& &cmdadd&" })], [], .empty⟩
    let ann : Author := ⟨"1", "ann", false, false, false⟩
    let catalogue : Catalogue (Builtin ⊕ Canned) := Builtin.catalogue.map fun k => k.map .inl
    let turns : List Turn := [.line ann "r!x X x 86400 again"]
    ∃ s, start catalogue .down 0 [] "room" config = .ok s ∧
      s.events .down 0 turns = [.admitted "x" 0, .removed "x"] ∧
      ((s.play .down 0 turns).handle .down 0 ann "r!x").1.isStopped = false := by
  intro config ann catalogue turns
  have hrun : ((start catalogue .down 0 [] "room" config).toOption.map fun s =>
      (s.events .down 0 turns, Dispatch.named? (s.play .down 0 turns).scene.channel "r!x")) =
      some ([.admitted "x" 0, .removed "x"], some (⟨"x", 86400, false, false, "again"⟩, [])) := by
    decide +kernel
  obtain ⟨s, hstart, hrun⟩ := exists_of_toOption_map_eq_some hrun
  obtain ⟨hevents, hnamed⟩ := Prod.mk.inj hrun
  refine ⟨s, hstart, hevents, ?_⟩
  exact (marks_registered_over_run hstart .down 0 turns).2.1 ann "r!x" _ _ hnamed
    (fun h => by cases h) [.admitted "x" 0] [] hevents (fun t h => by cases h)

end Session

end CommandBot
