import CommandBot.Proofs.Channel.ConfigText
import CommandBot.Proofs.Module.Builtin
import CommandBot.Proofs.Module.Loading
import CommandBot.Proofs.Session.Turns

/-!
# Sessions that can be stored

The config that is stored of a sound channel is read back (`read?_text_toConfig`) and describes the
session (`isDescribedBy_toConfig`), and lines keep a scene sound (`IsSound.dispatch`). A line that
changes something of what is stored marks the channel as unsaved (`IsMarked`).
-/

namespace CommandBot

/-- What has to hold of a channel so that it can be stored and started again. -/
structure Channel.IsSound (c : Channel) : Prop where
  wellFormed : c.commands.WellFormed
  storable : c.commands.IsStorable
  sigil : Text.isBlankText c.sigil = false
  floatFree : Channel.Config.FloatFree c.options
  readsBack : Channel.Config.ReadsBack c.options

/-- What has to hold of a channel so that a session starts from what is stored of it. The options
may be any. -/
structure Channel.IsStartable (c : Channel) : Prop where
  wellFormed : c.commands.WellFormed
  storable : c.commands.IsStorable
  sigil : Text.isBlankText c.sigil = false

theorem Channel.IsSound.startable {c : Channel} (h : c.IsSound) : c.IsStartable :=
  ⟨h.wellFormed, h.storable, h.sigil⟩

/-- The channel can be stored and started again, and its modules keep it so. -/
structure IsSound (scene : Scene Builtin) : Prop where
  channel : scene.channel.IsSound
  resident : scene.modules.Every Builtin.IsResident

/-- What is stored of a channel is as before, or the channel is marked. -/
structure IsMarked (before after : Channel) : Prop where
  stays : before.unsaved = true → after.unsaved = true
  marked : after.unsaved = true ∨
    (after.sigil = before.sigil ∧ after.commands = before.commands ∧
      after.options = before.options)

theorem IsMarked.refl (channel : Channel) : IsMarked channel channel :=
  ⟨fun h => h, .inr ⟨rfl, rfl, rfl⟩⟩

theorem IsMarked.trans {a b c : Channel} (h : IsMarked a b) (h' : IsMarked b c) : IsMarked a c := by
  refine ⟨fun ha => h'.stays (h.stays ha), ?_⟩
  rcases h'.marked with hc | ⟨hsigil, hcommands, hoptions⟩
  · exact .inl hc
  · rcases h.marked with hb | ⟨hsigil', hcommands', hoptions'⟩
    · exact .inl (h'.stays hb)
    · exact .inr ⟨hsigil.trans hsigil', hcommands.trans hcommands', hoptions.trans hoptions'⟩

theorem isMarked_of_unsaved {before after : Channel} (h : after.unsaved = true) :
    IsMarked before after :=
  ⟨fun _ => h, .inl h⟩

namespace Builtin

theorem Deed.isMarked {call : Invocation} {body after : Builtin} {channel : Channel}
    (h : Deed call body after channel) : IsMarked call.channel channel := by
  cases h with
  | nothing => exact .refl _
  | charged => exact .refl _
  | defined => exact isMarked_of_unsaved rfl
  | removed => exact isMarked_of_unsaved rfl
  | resigned => exact isMarked_of_unsaved rfl
  | toggled => exact isMarked_of_unsaved rfl

/-- A command that `cmdadd` reads from its arguments has a cooldown that can be stored. -/
theorem fits_of_parse {settings : CommandAdd.Settings} {args : List String}
    {definition : CommandAdd.Definition}
    (hdefault : Number.fitsSigned 64 settings.defaultCooldown = true)
    (h : CommandAdd.parse settings args = .ok definition) : definition.entry.Fits := by
  have htake : ∀ words, Number.fitsSigned 64 (CommandAdd.takeCooldown settings words).1 = true := by
    intro words
    unfold CommandAdd.takeCooldown
    split
    · exact hdefault
    · split
      · rename_i hread
        exact (Option.filter_eq_some_iff.1 hread).2
      · exact hdefault
  cases args with
  | nil => cases h
  | cons name words =>
      simp only [CommandAdd.parse] at h
      split at h
      · cases h
      · obtain rfl := Except.ok.inj h
        exact htake words

theorem Deed.isResident {call : Invocation} {key : String} {body after : Builtin}
    {channel : Channel} (h : Deed call body after channel) (hbody : body.IsResident key) :
    after.IsResident key := by
  cases h with
  | nothing => exact hbody
  | charged => exact ⟨hbody.home, fun _ h => nomatch h⟩
  | defined => exact hbody
  | removed => exact hbody
  | resigned => exact hbody
  | toggled => exact ⟨hbody.home, fun _ h => nomatch h⟩

/-- Every deed of a resident module, with arguments that are not blank, leaves a channel that can be
started again. -/
theorem Deed.isStartable {call : Invocation} {key : String} {body after : Builtin}
    {channel : Channel} (h : Deed call body after channel) (hcall : call.channel.IsStartable)
    (hbody : body.IsResident key) (hargs : ∀ a ∈ call.args, Text.isBlankText a = false) :
    channel.IsStartable := by
  cases h with
  | nothing => exact hcall
  | charged => exact hcall
  | defined hparse hadd =>
      have hfits := fits_of_parse (hbody.fits _ rfl) hparse
      exact { hcall with
        wellFormed := hcall.wellFormed.add hadd
        storable := hcall.storable.add hfits hadd }
  | removed hremove =>
      exact { hcall with
        wellFormed := hcall.wellFormed.remove hremove
        storable := hcall.storable.remove hremove }
  | resigned harg => exact { hcall with sigil := hargs _ harg }
  | toggled => exact { hcall with }

/-- A module stores no options but truth values. -/
theorem Deed.everyOption {call : Invocation} {body after : Builtin} {channel : Channel}
    {p : Json → Prop} (h : Deed call body after channel)
    (hcall : EveryOption p call.channel.options) (hbool : ∀ b, p (.bool b)) : EveryOption p channel.options := by
  cases h with
  | nothing => exact hcall
  | charged => exact hcall
  | defined => exact hcall
  | removed => exact hcall
  | resigned => exact hcall
  | toggled state submode => exact hcall.setOption "request" "submode" (hbool submode)

/-- Every deed of a resident module, with arguments that are not blank, leaves a sound channel. -/
theorem Deed.isSound {call : Invocation} {key : String} {body after : Builtin} {channel : Channel}
    (h : Deed call body after channel) (hcall : call.channel.IsSound) (hbody : body.IsResident key)
    (hargs : ∀ a ∈ call.args, Text.isBlankText a = false) : channel.IsSound :=
  { h.isStartable hcall.startable hbody hargs with
    floatFree := h.everyOption hcall.floatFree fun _ => trivial
    readsBack := h.everyOption hcall.readsBack fun _ => rfl }

/-- What the use of a command and every deed of a resident module keep up of a channel holds after
a line, and the modules stay resident. -/
theorem dispatch_of_deed {p : Channel → Prop}
    (huse : ∀ channel cooldowns, p channel → p { channel with cooldowns := cooldowns })
    (hdeed : ∀ {call : Invocation} {key : String} {body after : Builtin} {channel : Channel},
      Deed call body after channel → p call.channel → body.IsResident key →
        (∀ a ∈ call.args, Text.isBlankText a = false) → p channel)
    {scene : Scene Builtin} (h : p scene.channel) (hresident : scene.modules.Every IsResident)
    (network : Network) (request : Template.Request) (line : String) :
    p (Dispatch.dispatch network request line scene).2.channel ∧
      (Dispatch.dispatch network request line scene).2.modules.Every IsResident := by
  refine Dispatch.dispatch_induction
    (p := fun current => p current.channel ∧ current.modules.Every IsResident)
    ⟨h, hresident⟩ (fun command hscene => ⟨huse _ _ hscene.1, hscene.2⟩) ?_
  intro command args hnamed _ word _ m taken current hlookup htaken hcurrent
  have hargs := (Dispatch.named?_eq_some hnamed).2
  have hbody : m.body.IsResident (Text.lower (Template.tokenName word)) :=
    hcurrent.2.of_lookup hlookup
  obtain ⟨e, hmade, hchannel, hmodules, -⟩ := Template.callModule_of_always
    (always_deed network m.body (Template.invocation request taken current))
    (Template.tokenName word)
  rw [hchannel, hmodules]
  exact ⟨hdeed hmade hcurrent.1 hbody fun a ha => hargs a (htaken a ha),
    hcurrent.2.setBody (hmade.isResident hbody) m⟩

end Builtin

/-- A line keeps a scene sound. -/
theorem IsSound.dispatch {scene : Scene Builtin} (h : IsSound scene) (network : Network)
    (request : Template.Request) (line : String) :
    IsSound (Dispatch.dispatch network request line scene).2 := by
  obtain ⟨hchannel, hresident⟩ := Builtin.dispatch_of_deed
    (fun channel cooldowns hchannel => { hchannel with }) Builtin.Deed.isSound h.channel h.resident
    network request line
  exact ⟨hchannel, hresident⟩

theorem isMarked_dispatch (network : Network) (request : Template.Request) (line : String)
    (scene : Scene Builtin) :
    IsMarked scene.channel (Dispatch.dispatch network request line scene).2.channel := by
  refine Dispatch.dispatch_induction (p := fun current => IsMarked scene.channel current.channel)
    (.refl _) (fun command hscene => hscene.trans ⟨id, .inr ⟨rfl, rfl, rfl⟩⟩) ?_
  intro command args _ _ word _ m taken current _ _ hcurrent
  obtain ⟨e, hdeed, hchannel, -, -⟩ := Template.callModule_of_always
    (Builtin.always_deed network m.body (Template.invocation request taken current))
    (Template.tokenName word)
  rw [hchannel]
  exact hcurrent.trans hdeed.isMarked

namespace Session

theorem isSound_handle {s : Session Builtin} (h : IsSound s.scene) (network : Network)
    (patience : Duration) (author : Author) (text : String) :
    IsSound (s.handle network patience author text).2.scene :=
  h.dispatch network ⟨author, patience⟩ text

theorem isSound_advance {s : Session Builtin} (h : IsSound s.scene) (span : Duration) :
    IsSound (s.advance span).scene :=
  ⟨h.channel, h.resident⟩

theorem isSound_takeUnsaved {s : Session Builtin} (h : IsSound s.scene) :
    IsSound s.takeUnsaved.2.scene :=
  ⟨{ h.channel with }, h.resident⟩

/-- A line that leaves the channel without a mark changes nothing of what is stored. -/
theorem eq_of_unsaved_handle {network : Network} {patience : Duration} {author : Author}
    {text : String} {s : Session Builtin}
    (h : (s.handle network patience author text).2.scene.channel.unsaved = false) :
    (s.handle network patience author text).2.scene.channel.sigil = s.scene.channel.sigil ∧
      (s.handle network patience author text).2.scene.channel.commands =
        s.scene.channel.commands ∧
      (s.handle network patience author text).2.scene.channel.options =
        s.scene.channel.options := by
  have hmarked : IsMarked s.scene.channel
      (s.handle network patience author text).2.scene.channel :=
    isMarked_dispatch network ⟨author, patience⟩ text s.scene
  rcases hmarked.marked with hunsaved | hsame
  · rw [hunsaved] at h
    cases h
  · exact hsame

theorem toConfig_handle {network : Network} {patience : Duration} {author : Author} {text : String}
    {s : Session Builtin}
    (h : (s.handle network patience author text).2.scene.channel.unsaved = false) :
    (s.handle network patience author text).2.toConfig = s.toConfig := by
  have hrequested : (s.handle network patience author text).2.requested = s.requested := rfl
  obtain ⟨hsigil, hcommands, hoptions⟩ := eq_of_unsaved_handle h
  rw [toConfig, toConfig, hsigil, hcommands, hoptions, hrequested]

theorem isStartable_of_start {ι : Type} {catalogue : Catalogue ι} {network : Network}
    {now : Instant} {before : List Exchange} {name : String} {config : Channel.Config}
    {s : Session ι} (h : start catalogue network now before name config = .ok s)
    (hfits : ∀ name entry, config.commands.get? name = some entry → entry.Fits) :
    s.scene.channel.IsStartable := by
  obtain ⟨hsigil, commands, hcommands, hchannel, -, -⟩ := start_eq_ok h
  have hentries : ∀ e ∈ config.commands.entries, e.2.Fits :=
    fun e he => hfits e.1 e.2 (KeyMap.get?_of_mem he)
  rw [hchannel]
  exact
    { wellFormed := Commands.wellFormed_of_ofEntries hcommands
      storable := Commands.isStorable_of_ofEntries hentries hcommands
      sigil := hsigil }

theorem isSound_of_start {network : Network} {now : Instant} {before : List Exchange}
    {name : String} {config : Channel.Config} {s : Session Builtin}
    (h : start Builtin.catalogue network now before name config = .ok s)
    (hfits : ∀ name entry, config.commands.get? name = some entry → entry.Fits)
    (hfree : Channel.Config.FloatFree config.options)
    (hback : Channel.Config.ReadsBack config.options) : IsSound s.scene := by
  obtain ⟨-, commands, -, hchannel, -, -⟩ := start_eq_ok h
  have hoptions : s.scene.channel.options = config.options := by rw [hchannel]
  refine ⟨{ isStartable_of_start h hfits with floatFree := ?_, readsBack := ?_ },
    resident_of_start h⟩
  · rwa [hoptions]
  · rwa [hoptions]

/-- The config describes the session: one that is started from it has the same sigil, commands,
modules asked for and options. -/
structure IsDescribedBy {ι : Type} (s : Session ι) (config : Channel.Config) : Prop where
  sigil : config.sigil = s.scene.channel.sigil
  commands : Commands.ofEntries config.commands.entries = .ok s.scene.channel.commands
  requested : config.modules = s.requested
  options : config.options = s.scene.channel.options

theorem IsDescribedBy.handle {s : Session Builtin} {config : Channel.Config}
    (h : s.IsDescribedBy config) {network : Network} {patience : Duration} {author : Author}
    {text : String}
    (hclean : (s.handle network patience author text).2.scene.channel.unsaved = false) :
    (s.handle network patience author text).2.IsDescribedBy config := by
  obtain ⟨hsigil, hcommands, hoptions⟩ := eq_of_unsaved_handle hclean
  exact
    { sigil := h.sigil.trans hsigil.symm
      commands := by rw [hcommands, h.commands]
      requested := h.requested
      options := h.options.trans hoptions.symm }

theorem IsDescribedBy.advance {ι : Type} {s : Session ι} {config : Channel.Config}
    (h : s.IsDescribedBy config) (span : Duration) : (s.advance span).IsDescribedBy config :=
  ⟨h.sigil, h.commands, h.requested, h.options⟩

theorem IsDescribedBy.takeUnsaved {ι : Type} {s : Session ι} {config : Channel.Config}
    (h : s.IsDescribedBy config) : s.takeUnsaved.2.IsDescribedBy config :=
  ⟨h.sigil, h.commands, h.requested, h.options⟩

theorem toConfig_advance {ι : Type} (s : Session ι) (span : Duration) :
    (s.advance span).toConfig = s.toConfig := rfl

theorem toConfig_takeUnsaved {ι : Type} (s : Session ι) : s.takeUnsaved.2.toConfig = s.toConfig :=
  rfl

theorem isDescribedBy_toConfig {ι : Type} {s : Session ι} (h : s.scene.channel.IsStartable) :
    s.IsDescribedBy s.toConfig :=
  ⟨rfl, Commands.ofEntries_toEntries h.wellFormed h.storable, rfl, rfl⟩

theorem read?_text_toConfig {ι : Type} {s : Session ι} (h : s.scene.channel.IsSound) :
    Channel.Config.read? s.toConfig.text = some s.toConfig :=
  (Channel.Config.read?_text_eq_some_iff (c := s.toConfig) h.floatFree fun _ _ hget =>
    Commands.fits_of_mem_toEntries h.wellFormed (KeyMap.mem_of_get? hget)).2 h.readsBack

/-- A session whose sigil is not blank starts again from a config that describes it. -/
theorem exists_start_of_isDescribedBy {ι : Type} {s : Session ι} {config : Channel.Config}
    (h : s.IsDescribedBy config) (hsigil : Text.isBlankText s.scene.channel.sigil = false)
    (catalogue : Catalogue ι) (network : Network) (now : Instant) (before : List Exchange)
    (name : String) :
    ∃ fresh, start catalogue network now before name config = .ok fresh ∧
      fresh.scene.channel.sigil = s.scene.channel.sigil ∧
      fresh.scene.channel.commands = s.scene.channel.commands ∧
      fresh.requested = s.requested ∧
      fresh.scene.channel.options = s.scene.channel.options := by
  rw [← h.sigil] at hsigil
  unfold start
  rw [hsigil, h.commands]
  exact ⟨_, rfl, h.sigil, rfl, h.requested, h.options⟩

end Session

end CommandBot
