import CommandBot.Proofs.Module.Places
import CommandBot.Proofs.Session.Restart
import CommandBot.Proofs.Session.Start

/-!
# What an option that is set comes to at the next start

An option that is set while a session runs takes no effect in it. It is stored, and the next start
builds its modules from what is stored: of every option the last value that it was set to counts,
else the value that was stored before, and else the default of the kind
(`next_start_uses_set_options`).
-/

namespace CommandBot

/-- Which modules a config asks for, and with which options, does not matter to its being valid. -/
theorem Channel.Config.isValid_congr {c c' : Channel.Config} (hsigil : c.sigil = c'.sigil)
    (hcommands : c.commands = c'.commands) : c.IsValid ↔ c'.IsValid := by
  rw [isValid_iff, isValid_iff, hsigil, hcommands]

namespace Session

/-- Sets options of modules, in order. -/
def setOptions {ι : Type} (s : Session ι) (changes : List OptionChange) : Session ι :=
  s.mapChannel (·.setOptions changes)

/-- Some started session has come here by moves. -/
def IsReached (s : Session Builtin) : Prop :=
  ∃ outset now before name config origin,
    start Builtin.catalogue outset now before name config = .ok origin ∧
      (∀ name entry, config.commands.get? name = some entry → entry.Fits) ∧
      ∃ network patience moves, s = origin.moveAll network patience moves

theorem IsReached.isValid_toConfig {s : Session Builtin} (h : s.IsReached) :
    s.toConfig.IsValid := by
  obtain ⟨outset, now, before, name, config, origin, hstart, hfits, network, patience, moves,
    rfl⟩ := h
  have hrestartable := (isRestartable_of_start hstart hfits).moveAll network patience moves
  obtain ⟨fresh, hfresh, -⟩ :=
    exists_isContinuedBy hrestartable.channel Builtin.catalogue outset now before name
  exact (exists_start_iff _ _ _ _ _ _).1 ⟨fresh, hfresh⟩

theorem toConfig_setOptions {ι : Type} (s : Session ι) (changes : List OptionChange) :
    (s.setOptions changes).toConfig =
      { s.toConfig with options := (s.scene.channel.setOptions changes).options } := by
  rw [toConfig, setOptions, mapChannel, Channel.setOptions_eq]
  rfl

/-- The place of every kind that a new session has asked for holds what was built of it from the
options in effect. -/
theorem get?_of_start {network : Network} {now : Instant} {before : List Exchange} {name : String}
    {config : Channel.Config} {s : Session Builtin}
    (h : start Builtin.catalogue network now before name config = .ok s) {k : Kind Builtin}
    (hk : k ∈ Builtin.catalogue) (hwanted : k.IsWanted config.modules) :
    ∃ sofar, s.scene.modules.slots.get? k.name =
      some (k.place (k.build network sofar (k.inEffect config.options)).1) := by
  obtain ⟨-, -, -, -, hmodules, -⟩ := start_eq_ok h
  rw [hmodules]
  exact Catalogue.get?_load Builtin.isProper_catalogue hk network before hwanted config.options

theorem options_of_start {ι : Type} {catalogue : Catalogue ι} {network : Network} {now : Instant}
    {before : List Exchange} {name : String} {config : Channel.Config} {s : Session ι}
    (h : start catalogue network now before name config = .ok s) :
    s.scene.channel.options = config.options := by
  obtain ⟨-, commands, -, hchannel, -, -⟩ := start_eq_ok h
  rw [hchannel]

/-- After options have been set in a session, in any order and with modules named in any letter
case, the session is to be stored, and it starts again if it did before, as every session does that
has been started once. Then every kind is built from its options in effect, where a key has the last
value that it was set to, else what was stored under the name of the kind, and else its default. The
options of modules that were not named stay as they are, and no key is lost. -/
theorem next_start_uses_set_options (s : Session Builtin) (changes : List OptionChange) :
    let t := s.setOptions changes
    let stored := s.scene.channel.options
    (s.IsReached → s.toConfig.IsValid) ∧
    (∀ network now before name,
      (∃ fresh, start Builtin.catalogue network now before name t.toConfig = .ok fresh) ↔
        s.toConfig.IsValid) ∧
    (∀ network now before name fresh,
      start Builtin.catalogue network now before name t.toConfig = .ok fresh →
      ∀ k ∈ Builtin.catalogue,
        let inEffect := k.inEffect fresh.scene.channel.options
        (∀ key, inEffect.get? key =
          ((OptionChange.lastValue? changes k.name key).or (optionAt? stored k.name key)).or
            (k.defaults.get? key)) ∧
        (k.IsWanted s.requested → ∃ sofar, fresh.scene.modules.slots.get? k.name =
          some (k.place (k.build network sofar inEffect).1))) ∧
    (∀ name, (∀ change ∈ changes, Text.lower change.moduleName ≠ name) →
      t.scene.channel.options.get? name = stored.get? name) ∧
    (∀ name set, stored.get? name = some set →
      ∃ set', t.scene.channel.options.get? name = some set' ∧ ∀ key ∈ set.keys, key ∈ set'.keys) ∧
    (changes ≠ [] → t.scene.channel.unsaved = true) := by
  intro t stored
  have hconfig : t.toConfig = { s.toConfig with options := t.scene.channel.options } :=
    toConfig_setOptions s changes
  refine ⟨IsReached.isValid_toConfig, fun network now before name => ?_,
    fun network now before name fresh hfresh k hk => ⟨fun key => ?_, fun hwanted => ?_⟩,
    fun name hname => s.scene.channel.get?_setOptions_of_forall_ne hname,
    fun name set hset => s.scene.channel.exists_get?_setOptions changes hset,
    fun hchanges => s.scene.channel.unsaved_setOptions hchanges⟩
  · rw [exists_start_iff, hconfig]
    exact Channel.Config.isValid_congr rfl rfl
  · rw [Kind.get?_inEffect, options_of_start hfresh, hconfig]
    exact congrArg (Option.or · _) (s.scene.channel.optionAt?_setOptions changes k.name key)
  · have hmodules : t.toConfig.modules = s.requested := by rw [hconfig]; rfl
    rw [options_of_start hfresh]
    exact get?_of_start hfresh hk (by rwa [hmodules])

/-- The default cooldown of new commands is set twice, with the module named in two spellings, and
the bot is started again. -/
theorem next_start_uses_set_options_twice :
    let config : Channel.Config :=
      ⟨"!", .empty, ["Request"], .ofList [("cmdadd", .ofList [("hidden_arg", .string "-h")])]⟩
    let changes : List OptionChange :=
      [⟨"CmdAdd", "default_cooldown", .integer 7⟩, ⟨"cmdadd", "default_cooldown", .integer 30⟩]
    let kind : Kind Builtin := CommandAdd.kind.map .commandAdd
    ∃ s, start Builtin.catalogue .down 0 [] "room" config = .ok s ∧
      (s.setOptions changes).scene.channel.unsaved = true ∧
      ∃ fresh,
        start Builtin.catalogue .down 1 [] "room" (s.setOptions changes).toConfig = .ok fresh ∧
        (kind.inEffect fresh.scene.channel.options).get? "default_cooldown" = some (.integer 30) ∧
        (kind.inEffect fresh.scene.channel.options).get? "hidden_arg" = some (.string "-h") ∧
        ∃ sofar, fresh.scene.modules.slots.get? "cmdadd" =
          some (kind.place (kind.build .down sofar
            (kind.inEffect fresh.scene.channel.options)).1) := by
  intro config changes kind
  have hvalid : config.IsValid :=
    config.isValid_iff.2 ⟨by decide +kernel, config.exists_ofEntries_iff.2 (by decide +kernel)⟩
  obtain ⟨s, hstart⟩ := (exists_start_iff Builtin.catalogue .down 0 [] "room" config).2 hvalid
  have hfits : ∀ name entry, config.commands.get? name = some entry → entry.Fits :=
    fun name entry hget => nomatch hget
  have hreached : s.IsReached :=
    ⟨.down, 0, [], "room", config, s, hstart, hfits, .down, 0, [], rfl⟩
  obtain ⟨hconfig, hfresh, hkinds, -, -, hunsaved⟩ := next_start_uses_set_options s changes
  obtain ⟨fresh, hfresh⟩ := (hfresh .down 1 [] "room").2 (hconfig hreached)
  have hkind : kind ∈ Builtin.catalogue := by simp [Builtin.catalogue, kind]
  obtain ⟨hkeys, hplace⟩ := hkinds .down 1 [] "room" fresh hfresh kind hkind
  rw [options_of_start hstart] at hkeys
  exact ⟨s, hstart, hunsaved (by simp [changes]), fresh, hfresh, hkeys "default_cooldown",
    hkeys "hidden_arg", hplace (.inl rfl)⟩

end Session

end CommandBot
