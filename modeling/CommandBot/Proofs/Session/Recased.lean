import CommandBot.Proofs.Session.Options

/-!
# Names of modules in another letter case

Configs that differ in nothing but the letter case in which they name modules start sessions with
the same places for modules. What stands in them may differ all the same: the modules asked for are
named in any letter case, but the options of a module are read only if they are stored under its
name in lowercase. `Kind.inEffect_eq_iff_of_isRecasing` says when this makes no difference, and
`start_of_isRecased` what it comes to.
-/

namespace CommandBot

namespace Channel.Config

/-- The same options for the same modules, whose names may be in another letter case. No module has
options under two names. -/
structure IsRecasing (options options' : KeyMap Json.Options) : Prop where
  forth : ∀ name set, options.get? name = some set →
    ∃ name', Text.lower name' = Text.lower name ∧ options'.get? name' = some set
  back : ∀ name set, options'.get? name = some set →
    ∃ name', Text.lower name' = Text.lower name ∧ options.get? name' = some set
  apart : ∀ name ∈ options.keys, ∀ other ∈ options.keys,
    Text.lower name = Text.lower other → name = other
  apart' : ∀ name ∈ options'.keys, ∀ other ∈ options'.keys,
    Text.lower name = Text.lower other → name = other

/-- The configs differ in nothing but the letter case of the names of modules. -/
structure IsRecased (c c' : Channel.Config) : Prop where
  sigil : c.sigil = c'.sigil
  commands : c.commands = c'.commands
  modules : c.modules.map Text.lower = c'.modules.map Text.lower
  options : IsRecasing c.options c'.options

/-- Under a name that both have stands the same. -/
theorem IsRecasing.eq_of_get? {options options' : KeyMap Json.Options}
    (h : IsRecasing options options') {name : String} {set set' : Json.Options}
    (hget : options.get? name = some set) (hget' : options'.get? name = some set') :
    set = set' := by
  obtain ⟨other, hlower, hother⟩ := h.forth name set hget
  have hmem : ∀ {key value}, options'.get? key = some value → key ∈ options'.keys :=
    fun hkey => (KeyMap.mem_keys_iff _ _).2 ⟨_, hkey⟩
  obtain rfl := h.apart' other (hmem hother) name (hmem hget') hlower
  exact Option.some.inj (hother.symm.trans hget')

theorem isRecasing_singleton {name name' : String} (h : Text.lower name' = Text.lower name)
    (set : Json.Options) : IsRecasing (.ofList [(name, set)]) (.ofList [(name', set)]) := by
  have hkeys : ∀ key, (KeyMap.ofList [(key, set)]).keys = [key] := fun _ => rfl
  have hself : ∀ key, (KeyMap.ofList [(key, set)]).get? key = some set :=
    fun key => KeyMap.get?_insert_self _ _ _
  refine ⟨fun other found hget => ?_, fun other found hget => ?_, ?_, ?_⟩
  · obtain ⟨rfl, rfl⟩ := Prod.mk.inj (List.mem_singleton.1 (KeyMap.mem_of_get? hget))
    exact ⟨name', h, hself name'⟩
  · obtain ⟨rfl, rfl⟩ := Prod.mk.inj (List.mem_singleton.1 (KeyMap.mem_of_get? hget))
    exact ⟨name, h.symm, hself name⟩
  · simp [hkeys]
  · simp [hkeys]

end Channel.Config

open Channel.Config

/-- A kind has the same options in effect exactly if its own name stands in both or in neither of
them, or if what stands under it changes none of its defaults. -/
theorem Kind.inEffect_eq_iff_of_isRecasing {ι : Type} (k : Kind ι)
    {options options' : KeyMap Json.Options} (h : IsRecasing options options') :
    k.inEffect options = k.inEffect options' ↔
      (options.contains k.name = options'.contains k.name) ∨
        ∀ set, options.get? k.name = some set ∨ options'.get? k.name = some set →
          effective k.defaults (some set) = k.defaults := by
  unfold inEffect KeyMap.contains
  cases hget : options.get? k.name with
  | none =>
      cases hget' : options'.get? k.name with
      | none => simp
      | some set' => simp [effective, eq_comm]
  | some set =>
      cases hget' : options'.get? k.name with
      | none => simp [effective]
      | some set' => simp [h.eq_of_get? hget hget']

namespace Session

/-- Of configs that differ in nothing but the letter case of the names of modules either both or
none start a session. The sessions have the same places for modules, and the same stands in those of
names that no kind has. The place of a kind is built from its options in effect in either session,
and these are the same exactly if its own name stands in both or in neither of the configs, or what
stands under it changes no default. If they are for all kinds that are loaded, the modules are the
same altogether. -/
theorem start_of_isRecased {c c' : Channel.Config} (h : c.IsRecased c') (network : Network)
    (now : Instant) (before : List Exchange) (name : String) :
    ((∃ s, start Builtin.catalogue network now before name c = .ok s) ↔
      ∃ s, start Builtin.catalogue network now before name c' = .ok s) ∧
    ∀ s s', start Builtin.catalogue network now before name c = .ok s →
      start Builtin.catalogue network now before name c' = .ok s' →
      (∀ key, s.scene.modules.slots.contains key = s'.scene.modules.slots.contains key) ∧
      (∀ key, (∀ k ∈ Builtin.catalogue, k.name ≠ key) →
        s.scene.modules.slots.get? key = s'.scene.modules.slots.get? key) ∧
      (∀ k ∈ Builtin.catalogue,
        (k.inEffect c.options = k.inEffect c'.options ↔
          c.options.contains k.name = c'.options.contains k.name ∨
            ∀ set, c.options.get? k.name = some set ∨ c'.options.get? k.name = some set →
              Kind.effective k.defaults (some set) = k.defaults) ∧
        (k.IsWanted c.modules → ∃ sofar sofar',
          s.scene.modules.slots.get? k.name =
            some (k.place (k.build network sofar (k.inEffect c.options)).1) ∧
          s'.scene.modules.slots.get? k.name =
            some (k.place (k.build network sofar' (k.inEffect c'.options)).1))) ∧
      ((∀ k ∈ Builtin.catalogue, k.IsWanted c.modules →
        k.inEffect c.options = k.inEffect c'.options) → s.scene.modules = s'.scene.modules) := by
  refine ⟨?_, fun s s' hs hs' => ?_⟩
  · rw [exists_start_iff, exists_start_iff]
    exact isValid_congr h.sigil h.commands
  obtain ⟨-, -, -, -, hmodules, -⟩ := start_eq_ok hs
  obtain ⟨-, -, -, -, hmodules', -⟩ := start_eq_ok hs'
  refine ⟨fun key => ?_, fun key hkey => ?_, fun k hk => ⟨?_, fun hk' => ?_⟩, fun heffect => ?_⟩
  · have hplaces := Catalogue.contains_load_iff Builtin.isProper_catalogue network before
    rw [Bool.eq_iff_iff, hmodules, hmodules', hplaces, hplaces, h.modules]
  · have hunknown := fun requested options => Catalogue.get?_load_of_forall_ne
      Builtin.isProper_catalogue network before requested options hkey
    rw [hmodules, hmodules', hunknown, hunknown, h.modules]
  · exact k.inEffect_eq_iff_of_isRecasing h.options
  · obtain ⟨sofar, hplace⟩ := get?_of_start hs hk hk'
    obtain ⟨sofar', hplace'⟩ := get?_of_start hs' hk (by rwa [Kind.IsWanted, ← h.modules])
    exact ⟨sofar, sofar', hplace, hplace'⟩
  · rw [hmodules, hmodules', Catalogue.load_congr network before h.modules heffect]

/-- Options under two spellings neither of which is the name of their module. -/
theorem start_of_isRecased_capitals :
    let set : Json.Options := .ofList [("default_cooldown", .integer 30)]
    let c : Channel.Config := ⟨"!", .empty, ["Request"], .ofList [("CMDADD", set)]⟩
    let c' : Channel.Config := ⟨"!", .empty, ["REQUEST"], .ofList [("CmdAdd", set)]⟩
    c.IsRecased c' ∧ ∃ s s', start Builtin.catalogue .down 0 [] "room" c = .ok s ∧
      start Builtin.catalogue .down 0 [] "room" c' = .ok s' ∧
      s.scene.modules = s'.scene.modules := by
  intro set c c'
  have hrecased : c.IsRecased c' :=
    { sigil := rfl
      commands := rfl
      modules := by decide +kernel
      options := isRecasing_singleton (by decide +kernel) set }
  have hvalid : c.IsValid :=
    c.isValid_iff.2 ⟨by decide +kernel, c.exists_ofEntries_iff.2 (by decide +kernel)⟩
  obtain ⟨hstart, hmodules⟩ := start_of_isRecased hrecased .down 0 [] "room"
  obtain ⟨s, hs⟩ := (exists_start_iff Builtin.catalogue .down 0 [] "room" c).2 hvalid
  obtain ⟨s', hs'⟩ := hstart.1 ⟨s, hs⟩
  obtain ⟨-, -, hkinds, hsame⟩ := hmodules s s' hs hs'
  have hneither : ∀ name ∈ Builtin.catalogue.map (·.name),
      c.options.contains name = c'.options.contains name := by
    decide +kernel
  exact ⟨hrecased, s, s', hs, hs', hsame fun k hk _ =>
    (hkinds k hk).1.2 (.inl (hneither _ (List.mem_map_of_mem hk)))⟩

/-- With the module named in lowercase its option counts, with a capital it is lost. -/
theorem option_lost_under_capital :
    let set : Json.Options := .ofList [("default_cooldown", .integer 30)]
    let c : Channel.Config := ⟨"!", .empty, [], .ofList [("cmdadd", set)]⟩
    let c' : Channel.Config := ⟨"!", .empty, [], .ofList [("Cmdadd", set)]⟩
    let built (cooldown : Int) : Slot Builtin := .loaded ⟨"cmdadd", CommandAdd.help, .all,
      .commandAdd ⟨"-modonly", "-hidden", cooldown⟩⟩
    c.IsRecased c' ∧ ∃ s s', start Builtin.catalogue .down 0 [] "room" c = .ok s ∧
      start Builtin.catalogue .down 0 [] "room" c' = .ok s' ∧
      s.scene.modules.slots.get? "cmdadd" = some (built 30) ∧
      s'.scene.modules.slots.get? "cmdadd" = some (built 5) := by
  intro set c c' built
  have hrecased : c.IsRecased c' :=
    { sigil := rfl
      commands := rfl
      modules := rfl
      options := isRecasing_singleton (by decide +kernel) set }
  have hplace : (start Builtin.catalogue .down 0 [] "room" c).toOption.map (fun s =>
      s.scene.modules.slots.get? "cmdadd") = some (some (built 30)) := by
    decide +kernel
  have hplace' : (start Builtin.catalogue .down 0 [] "room" c').toOption.map (fun s =>
      s.scene.modules.slots.get? "cmdadd") = some (some (built 5)) := by
    decide +kernel
  obtain ⟨s, hs, hslot⟩ := exists_of_toOption_map_eq_some hplace
  obtain ⟨s', hs', hslot'⟩ := exists_of_toOption_map_eq_some hplace'
  exact ⟨hrecased, s, s', hs, hs', hslot, hslot'⟩

end Session

end CommandBot
