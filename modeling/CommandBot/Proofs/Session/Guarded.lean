import CommandBot.Proofs.Module.Builtin
import CommandBot.Proofs.Module.Loading
import CommandBot.Proofs.Session.Turns

/-!
# What viewers cannot change

Three modules change the commands or the sigil, and a session is guarded when every command that
calls one of them is for moderators. Whatever lines come from others, such a session keeps its
commands, its sigil, its options and the mode of its requests, and it stays guarded. The reason is
that a placeholder reaches only the module that stands under its own name: what a module says and
what a line brings along as arguments is never read as a template.
-/

namespace CommandBot

/-- The names of the modules that change the commands or the sigil. -/
def adminNames : List String := ["cmdadd", "cmddel", "prefix"]

/-- Every command that calls a module of these names is for moderators. -/
def Commands.IsGuarded (cs : Commands) : Prop :=
  ∀ key command, cs.byName.get? key = some command →
    (∃ t ∈ Template.tokens command.response, t.name ∈ adminNames) → command.modOnly = true

namespace Builtin

/-- Whether requests come from privileged viewers only, if this is the module of requests. -/
def submode? : Builtin → Option Bool
  | .request state => some state.settings.submode
  | _ => none

/-- In the hands of others than moderators a module of another name changes nothing of note. -/
theorem Deed.harmless {call : Invocation} {body after : Builtin} {channel : Channel}
    (h : Deed call body after channel) (hname : body.home ∉ adminNames)
    (hauthor : call.author.isModerator = false) :
    channel = call.channel ∧ after.home = body.home ∧ after.submode? = body.submode? := by
  cases h with
  | nothing => exact ⟨rfl, rfl, rfl⟩
  | charged => exact ⟨rfl, rfl, rfl⟩
  | defined => exact absurd (by simp [home, adminNames]) hname
  | removed => exact absurd (by simp [home, adminNames]) hname
  | resigned => exact absurd (by simp [home, adminNames]) hname
  | toggled state submode hmod =>
      rw [hauthor] at hmod
      cases hmod

end Builtin

/-- Whether the module of requests takes those of privileged viewers only, if it is loaded. -/
def Modules.submode? (ms : Modules Builtin) : Option Bool :=
  match ms.slots.get? "request" with
  | some (.loaded m) => m.body.submode?
  | _ => none

theorem Modules.submode?_setBody {ms : Modules Builtin} {name : String} {m : Module Builtin}
    {body : Builtin} (hlookup : ms.lookup name = .ok m) (hbody : body.submode? = m.body.submode?) :
    (ms.setBody name m body).submode? = ms.submode? := by
  have hget := Modules.get?_of_lookup hlookup
  rw [submode?, submode?, get?_setBody]
  by_cases hkey : "request" = Text.lower name
  · rw [if_pos hkey, hkey, hget]
    exact hbody
  · rw [if_neg hkey]

namespace Session

/-- The session has only modules of the bot, each under its own name, and every command that calls
one of those which change the commands or the sigil is for moderators. -/
structure IsGuarded (s : Session Builtin) : Prop where
  modules : s.scene.modules.Every fun key body => body.home = key
  commands : s.scene.channel.commands.IsGuarded

/-- What others than moderators cannot change is as in another scene. -/
structure IsKept (start scene : Scene Builtin) : Prop where
  commands : scene.channel.commands = start.channel.commands
  sigil : scene.channel.sigil = start.channel.sigil
  options : scene.channel.options = start.channel.options
  unsaved : scene.channel.unsaved = start.channel.unsaved
  submode : scene.modules.submode? = start.modules.submode?
  modules : scene.modules.Every fun key body => body.home = key

theorem isKept_callModule {start scene : Scene Builtin} {network : Network}
    {request : Template.Request} {name : String} {m : Module Builtin} {args : List String}
    (h : IsKept start scene) (hlookup : scene.modules.lookup name = .ok m)
    (hname : Text.lower name ∉ adminNames) (hauthor : request.author.isModerator = false) :
    IsKept start (Template.callModule network request name m args scene).2 := by
  have hhome : m.body.home = Text.lower name := h.modules.of_lookup hlookup
  obtain ⟨e, hdeed, hchannel, hmodules, -⟩ := Template.callModule_of_always
    (Builtin.always_deed network m.body (Template.invocation request args scene)) name
  obtain ⟨hsame, hafter, hsubmode⟩ := hdeed.harmless (by rwa [hhome]) hauthor
  have hscene : (Template.callModule network request name m args scene).2.channel =
      scene.channel := hchannel.trans hsame
  exact
    { commands := by rw [hscene, h.commands]
      sigil := by rw [hscene, h.sigil]
      options := by rw [hscene, h.options]
      unsaved := by rw [hscene, h.unsaved]
      submode := by rw [hmodules, Modules.submode?_setBody hlookup hsubmode, h.submode]
      modules := by
        rw [hmodules]
        exact h.modules.setBody (hafter.trans hhome) m }

theorem isKept_dispatch {start scene : Scene Builtin} {network : Network}
    {request : Template.Request} (line : String) (h : IsKept start scene)
    (hguarded : start.channel.commands.IsGuarded) (hauthor : request.author.isModerator = false) :
    IsKept start (Dispatch.dispatch network request line scene).2 := by
  refine Dispatch.dispatch_induction h
    (fun _ hscene => ⟨hscene.1, hscene.2, hscene.3, hscene.4, hscene.5, hscene.6⟩) ?_
  intro command args hnamed hpermitted word hword m taken current hlookup _ hcurrent
  refine isKept_callModule hcurrent hlookup (fun hadmin => ?_) hauthor
  -- the command is not for moderators, so that none of its placeholders has such a name
  obtain ⟨⟨name, hname⟩, -⟩ := Dispatch.named?_eq_some hnamed
  rw [h.commands] at hname
  rw [Template.lower_tokenName] at hadmin
  obtain ⟨t, ht, htoken⟩ := Template.exists_mem_tokens hword
  have hmod := hpermitted (hguarded _ command hname ⟨t, ht, by rwa [htoken]⟩)
  rw [hauthor] at hmod
  cases hmod

theorem isKept_take {start : Scene Builtin} {network : Network} {patience : Duration} {turn : Turn}
    {s : Session Builtin} (h : IsKept start s.scene) (hguarded : start.channel.commands.IsGuarded)
    (hturn : ∀ author text, turn = .line author text → author.isModerator = false) :
    IsKept start (s.take network patience turn).scene := by
  cases turn with
  | line author text =>
      have hauthor := hturn author text rfl
      exact isKept_dispatch text h hguarded hauthor
  | wait span => exact ⟨h.1, h.2, h.3, h.4, h.5, h.6⟩

theorem isGuarded_of_start_initial {network : Network} {now : Instant} {before : List Exchange}
    {name : String} {s : Session Builtin}
    (h : start Builtin.catalogue network now before name .initial = .ok s) : s.IsGuarded := by
  have hentries : ∀ e ∈ Channel.Config.initial.commands.entries,
      (∃ t ∈ Template.tokens e.2.response, t.name ∈ adminNames) → e.2.modOnly = true := by
    decide +kernel
  refine ⟨fun key m hget => (resident_of_start h key m hget).home, ?_⟩
  obtain ⟨-, commands, hcommands, hchannel, -, -⟩ := start_eq_ok h
  rw [hchannel]
  intro key command hget
  obtain ⟨e, he, rfl⟩ := Commands.exists_of_get?_ofEntries hcommands hget
  exact hentries e he

/-- Whatever lines others than moderators send, a guarded session keeps its commands, its sigil, its
options, whether something has to be stored, and the mode of its requests, and it stays guarded. A
new channel is guarded. -/
theorem unchanged_of_not_moderator {s : Session Builtin} (hguarded : s.IsGuarded)
    (network : Network) (patience : Duration) {turns : List Turn}
    (hturns : ∀ author text, .line author text ∈ turns → author.isModerator = false) :
    let after := s.play network patience turns
    after.scene.channel.commands = s.scene.channel.commands ∧
      after.scene.channel.sigil = s.scene.channel.sigil ∧
      after.scene.channel.options = s.scene.channel.options ∧
      after.scene.channel.unsaved = s.scene.channel.unsaved ∧
      after.scene.modules.submode? = s.scene.modules.submode? ∧
      after.IsGuarded ∧
      ∀ network now before name fresh,
        start Builtin.catalogue network now before name .initial = .ok fresh → fresh.IsGuarded := by
  have hkept : IsKept s.scene (s.play network patience turns).scene :=
    play_induction (p := fun t => IsKept s.scene t.scene)
      (fun turn hturn t ht => isKept_take ht hguarded.commands fun author text heq =>
        hturns author text (heq ▸ hturn))
      ⟨rfl, rfl, rfl, rfl, rfl, hguarded.modules⟩
  refine ⟨hkept.commands, hkept.sigil, hkept.options, hkept.unsaved, hkept.submode,
    ⟨hkept.modules, ?_⟩, fun _ _ _ _ _ h => isGuarded_of_start_initial h⟩
  rw [hkept.commands]
  exact hguarded.commands

/-- A viewer who tries to add a command to a new channel and to change its sigil. -/
theorem unchanged_of_not_moderator_initial :
    ∃ s : Session Builtin,
      start Builtin.catalogue .down 0 [] "room" .initial = .ok s ∧ s.IsGuarded ∧
        (s.play .down 0 [.line ⟨"1", "ann", false, true, true⟩ "r!cmdadd x 0 hi",
          .line ⟨"1", "ann", false, true, true⟩ "r!prefix !"]).scene.channel.commands =
            s.scene.channel.commands := by
  have hok : (start Builtin.catalogue .down 0 [] "room" .initial).isOk = true := by decide +kernel
  cases hstart : start Builtin.catalogue .down 0 [] "room" .initial with
  | error e =>
      rw [hstart] at hok
      cases hok
  | ok s =>
      have hguarded := isGuarded_of_start_initial hstart
      refine ⟨s, rfl, hguarded, ?_⟩
      refine (unchanged_of_not_moderator hguarded .down 0 fun author text hmem => ?_).1
      simp only [List.mem_cons, Turn.line.injEq, List.not_mem_nil, or_false] at hmem
      rcases hmem with ⟨rfl, -⟩ | ⟨rfl, -⟩
      · rfl
      · rfl

end Session

end CommandBot
