import CommandBot.Proofs.Commands.Entries
import CommandBot.Proofs.Session.Turns

/-!
# Which configs start a session

A session starts from the configs that are valid (`Channel.Config.IsValid`), whatever modules they
ask for and whatever options they hold: modules that cannot be built do not keep a session from
starting. The config that should be stored of a new session is the one it was started from, with the
names of the commands in lowercase (`start_iff_isValid`).
-/

namespace CommandBot

namespace Channel.Config

/-- The sigil is not blank, and the commands have valid names, which stay distinct in lowercase, and
cooldowns that are not negative. -/
structure IsValid (c : Config) : Prop where
  sigil : ∃ d ∈ c.sigil.toList, Text.isBlank d = false
  named : ∀ name entry, c.commands.get? name = some entry → MatchesNamePattern name
  cooldown : ∀ name entry, c.commands.get? name = some entry → 0 ≤ entry.cooldown
  distinct : ∀ name other entry entry', c.commands.get? name = some entry →
    c.commands.get? other = some entry' → Text.lower name = Text.lower other → name = other

/-- The config with the names of its commands in lowercase. -/
def lowered (c : Config) : Config :=
  { c with commands := .ofList (c.commands.entries.map fun e => (Text.lower e.1, e.2)) }

theorem exists_ofEntries_iff (c : Config) :
    (∃ commands, Commands.ofEntries c.commands.entries = .ok commands) ↔
      (∀ e ∈ c.commands.entries, isValidName e.1 = true ∧ 0 ≤ e.2.cooldown) ∧
        c.commands.entries.Pairwise fun a b => Text.lower a.1 ≠ Text.lower b.1 := by
  simp [Commands.ofEntries_eq_ok_iff]

theorem isValid_iff (c : Config) :
    c.IsValid ↔ Text.isBlankText c.sigil = false ∧
      ∃ commands, Commands.ofEntries c.commands.entries = .ok commands := by
  rw [Text.isBlankText_eq_false_iff, exists_ofEntries_iff, KeyMap.pairwise_image_ne_iff]
  constructor
  · intro h
    refine ⟨h.sigil, fun e he => ⟨?_, h.cooldown _ _ (KeyMap.get?_of_mem he)⟩, h.distinct⟩
    exact (isValidName_iff_matchesNamePattern _).2 (h.named _ _ (KeyMap.get?_of_mem he))
  · rintro ⟨hsigil, haccepted, hdistinct⟩
    exact
      { sigil := hsigil
        named := fun _ _ hget =>
          (isValidName_iff_matchesNamePattern _).1 (haccepted _ (KeyMap.mem_of_get? hget)).1
        cooldown := fun _ _ hget => (haccepted _ (KeyMap.mem_of_get? hget)).2
        distinct := hdistinct }

/-- Under a name in lowercase stands the entry of the command that is so named in any letter
case. -/
theorem IsValid.get?_lowered {c : Config} (h : c.IsValid) (key : String) (entry : StoredCommand) :
    c.lowered.commands.get? key = some entry ↔
      ∃ name, Text.lower name = key ∧ c.commands.get? name = some entry := by
  have hkeys : (c.commands.entries.map fun e => (Text.lower e.1, e.2)).Pairwise
      fun a b => a.1 ≠ b.1 :=
    List.pairwise_map.2 ((c.commands.pairwise_image_ne_iff Text.lower).2 h.distinct)
  rw [lowered, KeyMap.get?_ofList_eq_some_iff hkeys, List.mem_map]
  constructor
  · rintro ⟨e, he, hpair⟩
    obtain ⟨rfl, rfl⟩ := Prod.mk.inj hpair
    exact ⟨e.1, rfl, KeyMap.get?_of_mem he⟩
  · rintro ⟨name, rfl, hget⟩
    exact ⟨(name, entry), KeyMap.mem_of_get? hget, rfl⟩

end Channel.Config

namespace Session

variable {ι : Type}

theorem exists_start_iff (catalogue : Catalogue ι) (network : Network) (now : Instant)
    (before : List Exchange) (name : String) (config : Channel.Config) :
    (∃ s, start catalogue network now before name config = .ok s) ↔ config.IsValid := by
  rw [Channel.Config.isValid_iff]
  constructor
  · rintro ⟨s, hstart⟩
    obtain ⟨hsigil, commands, hcommands, -⟩ := start_eq_ok hstart
    exact ⟨hsigil, commands, hcommands⟩
  · rintro ⟨hsigil, commands, hcommands⟩
    rw [start, hsigil, hcommands]
    exact ⟨_, rfl⟩

theorem toConfig_of_start {catalogue : Catalogue ι} {network : Network} {now : Instant}
    {before : List Exchange} {name : String} {config : Channel.Config} {s : Session ι}
    (h : start catalogue network now before name config = .ok s)
    (hfits : ∀ name entry, config.commands.get? name = some entry → entry.Fits) :
    s.toConfig = config.lowered ∧ s.scene.channel.unsaved = false := by
  obtain ⟨-, commands, hcommands, hchannel, -, hrequested⟩ := start_eq_ok h
  have hentries : commands.toEntries = config.lowered.commands :=
    Commands.toEntries_of_ofEntries hcommands fun e he => hfits _ _ (KeyMap.get?_of_mem he)
  rw [toConfig, hchannel, hrequested]
  exact ⟨congrArg (Channel.Config.mk _ · _ _) hentries, rfl⟩

/-- A session starts exactly from the valid configs, and gives the config back with the names of the
commands in lowercase and all the rest as it was. -/
theorem start_iff_isValid (catalogue : Catalogue ι) (network : Network) (now : Instant)
    (before : List Exchange) (name : String) (config : Channel.Config) :
    ((∃ s, start catalogue network now before name config = .ok s) ↔ config.IsValid) ∧
      ∀ s, start catalogue network now before name config = .ok s →
        (∀ name entry, config.commands.get? name = some entry → entry.Fits) →
        s.toConfig = config.lowered ∧
          (∀ key entry, s.toConfig.commands.get? key = some entry ↔
            ∃ name, Text.lower name = key ∧ config.commands.get? name = some entry) ∧
          s.scene.channel.unsaved = false := by
  have hiff := exists_start_iff catalogue network now before name config
  refine ⟨hiff, fun s hstart hfits => ?_⟩
  obtain ⟨hconfig, hsaved⟩ := toConfig_of_start hstart hfits
  refine ⟨hconfig, ?_, hsaved⟩
  rw [hconfig]
  exact (hiff.1 ⟨s, hstart⟩).get?_lowered

/-- Names in capitals, modules that are unknown or asked for twice and options of a wrong type do
not keep a session from starting. -/
theorem start_iff_isValid_capitals :
    let hello : StoredCommand := { cooldown := 5, response := "hello" }
    let config : Channel.Config :=
      ⟨" ! ", .ofList [("HI", hello), ("bye", { modOnly := true, response := "&nope&" })],
        ["Request", "request", "nope"],
        .ofList [("cmdadd", .ofList [("default_cooldown", .string "soon")])]⟩
    ∃ s, start Builtin.catalogue .down 0 [] "room" config = .ok s ∧
      s.toConfig = config.lowered ∧ s.toConfig.commands.get? "hi" = some hello ∧
      s.scene.channel.unsaved = false := by
  intro hello config
  have h := start_iff_isValid Builtin.catalogue .down 0 [] "room" config
  have hvalid : config.IsValid :=
    config.isValid_iff.2 ⟨by decide +kernel, config.exists_ofEntries_iff.2 (by decide +kernel)⟩
  obtain ⟨s, hstart⟩ := h.1.2 hvalid
  have hfits : ∀ name entry, config.commands.get? name = some entry → entry.Fits := by
    intro name entry hget
    have hall : ∀ e ∈ config.commands.entries, e.2.Fits := by decide +kernel
    exact hall _ (KeyMap.mem_of_get? hget)
  obtain ⟨hconfig, hcommands, hsaved⟩ := h.2 s hstart hfits
  have hhello := (hcommands "hi" hello).2 ⟨"HI", by decide +kernel, by decide +kernel⟩
  exact ⟨s, hstart, hconfig, hhello, hsaved⟩

end Session

end CommandBot
