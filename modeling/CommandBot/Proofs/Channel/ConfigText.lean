import CommandBot.Channel.Config
import CommandBot.Channel.State
import CommandBot.Proofs.Commands
import CommandBot.Proofs.Json.Fields

/-!
# Reading the text of a config

A config that is written is read back as it was if its cooldowns fit and each of its options is one
that is read back (`read?_text_eq_some_iff`). A config that is read has cooldowns that fit
(`fits_of_read?`).
-/

namespace CommandBot

/-- Every option that is set for a module has the property. -/
def EveryOption (p : Json → Prop) (options : KeyMap Json.Options) : Prop :=
  ∀ moduleName set, options.get? moduleName = some set →
    ∀ key value, set.get? key = some value → p value

theorem EveryOption.mono {p q : Json → Prop} {options : KeyMap Json.Options}
    (h : EveryOption p options) (hpq : ∀ value, p value → q value) : EveryOption q options :=
  fun moduleName set hset key value hvalue => hpq value (h moduleName set hset key value hvalue)

theorem EveryOption.and {p q : Json → Prop} {options : KeyMap Json.Options}
    (hp : EveryOption p options) (hq : EveryOption q options) :
    EveryOption (fun value => p value ∧ q value) options :=
  fun moduleName set hset key value hvalue =>
    ⟨hp moduleName set hset key value hvalue, hq moduleName set hset key value hvalue⟩

theorem EveryOption.setOption {p : Json → Prop} {c : Channel} (h : EveryOption p c.options)
    (moduleName key : String) {value : Json} (hvalue : p value) :
    EveryOption p (c.setOption moduleName key value).options := by
  intro name set hset other found hfound
  simp only [Channel.setOption, Channel.markUnsaved] at hset
  rw [KeyMap.get?_insert] at hset
  split at hset
  · obtain rfl := Option.some.inj hset
    rw [KeyMap.get?_insert] at hfound
    split at hfound
    · obtain rfl := Option.some.inj hfound
      exact hvalue
    · cases hold : c.options.get? (Text.lower moduleName) with
      | none =>
          rw [hold, Option.getD_none, KeyMap.get?_empty] at hfound
          cases hfound
      | some old =>
          rw [hold, Option.getD_some] at hfound
          exact h _ old hold other found hfound
  · exact h name set hset other found hfound

namespace Channel.Config

/-- No option holds a floating-point number. -/
abbrev FloatFree (options : KeyMap Json.Options) : Prop := EveryOption Json.IsFloatFree options

/-- The value is read from the shape that it is written in, where an option stands. -/
def IsReadBack (value : Json) : Prop := (Json.shape value).value? optionRoom = some value

/-- Every option is read from the shape that it is written in. -/
abbrev ReadsBack (options : KeyMap Json.Options) : Prop := EveryOption IsReadBack options

/-- All options as they are written. -/
def optionsJson (options : KeyMap Json.Options) : Json :=
  .object (options.map fun set => Json.object set.entries).entries

theorem isFloatFree_commandJson (entry : StoredCommand) : (commandJson entry).IsFloatFree :=
  ⟨trivial, trivial, trivial, trivial, trivial⟩

theorem isFloatFree_optionsJson {options : KeyMap Json.Options} (h : FloatFree options) :
    (optionsJson options).IsFloatFree := by
  refine Json.isFloatFree_object_iff.2 fun e he => ?_
  rw [KeyMap.entries_map] at he
  obtain ⟨d, hd, rfl⟩ := List.mem_map.1 he
  exact Json.isFloatFree_object_iff.2 fun o ho =>
    h d.1 d.2 (KeyMap.get?_of_mem hd) o.1 o.2 (KeyMap.get?_of_mem ho)

theorem isFloatFree_toJson {c : Config} (h : FloatFree c.options) : c.toJson.IsFloatFree := by
  refine Json.isFloatFree_object_iff.2 fun e he => ?_
  rcases List.mem_append.1 he with he | he
  · simp only [List.mem_cons, List.not_mem_nil, or_false] at he
    rcases he with rfl | rfl | rfl
    · exact ⟨trivial, trivial⟩
    · refine Json.isFloatFree_object_iff.2 fun d hd => ?_
      rw [KeyMap.entries_map] at hd
      obtain ⟨entry, -, rfl⟩ := List.mem_map.1 hd
      exact isFloatFree_commandJson entry.2
    · refine Json.isFloatFree_array_iff.2 fun item hitem => ?_
      obtain ⟨name, -, rfl⟩ := List.mem_map.1 hitem
      trivial
  · unfold optionsMembers at he
    split at he
    · cases he
    · obtain rfl := List.mem_singleton.1 he
      exact isFloatFree_optionsJson h

/-! ### Commands -/

theorem command?_shape {entry : StoredCommand} (h : entry.Fits) :
    command? (Json.shape (commandJson entry)) = some entry := by
  have hinteger := Json.integer?_shape (Json.integerInRange_of_fitsSigned h)
  have hcooldown : cooldown? (Json.shape (.integer entry.cooldown)) = some entry.cooldown := by
    rw [cooldown?, hinteger]
    exact if_pos h
  have hresponse : (Json.shape (.string entry.response)).string? = some entry.response :=
    Json.string?_shape _
  have hfields : (Json.shape (commandJson entry)).fields?
      ["cooldown", "requires_mod", "hidden", "response"] =
      some [some (Json.shape (.integer entry.cooldown)), some (Json.shape (.bool entry.modOnly)),
        some (Json.shape (.bool entry.hidden)), some (Json.shape (.string entry.response))] :=
    Json.fields?_shape rfl
  simp only [command?, hfields, Option.bind_eq_bind, Option.bind_some, Json.Raw.optional?,
    Json.Raw.required?, hcooldown, hresponse]
  rfl

theorem fits_of_cooldown? {raw : Json.Raw} {n : Int} (h : cooldown? raw = some n) :
    Number.fitsSigned 64 n = true :=
  (Option.filter_eq_some_iff.1 h).2

theorem fits_of_command? {raw : Json.Raw} {entry : StoredCommand} (h : command? raw = some entry) :
    entry.Fits := by
  simp only [command?, Option.bind_eq_bind, Option.bind_eq_some_iff] at h
  obtain ⟨fields, -, h⟩ := h
  split at h
  · simp only [Option.bind_eq_some_iff] at h
    obtain ⟨n, hn, modOnly, -, hidden, -, response, -, hentry⟩ := h
    obtain rfl := Option.some.inj hentry
    unfold Json.Raw.optional? at hn
    split at hn
    · obtain rfl := Option.some.inj hn
      exact (Number.fitsSigned_iff 64 0).2 (by decide)
    · exact fits_of_cooldown? hn
  · cases h

/-! ### Whole configs -/

theorem sigil?_shape (sigil : String) :
    sigil? (Json.shape (.object [("prefix", .string sigil)])) = some sigil := by
  have hfields : (Json.shape (.object [("prefix", .string sigil)])).fields? ["prefix"] =
      some [some (Json.shape (.string sigil))] := Json.fields?_shape rfl
  simp only [sigil?, hfields, Option.bind_eq_bind, Option.bind_some, Json.Raw.required?,
    Json.string?_shape]

theorem modules?_shape (names : List String) :
    modules? (Json.shape (.array (names.map .string))) = some names :=
  Json.mapM_string?_itemShapes names

/-- The map of options is read alike whether it is written or left out when it is empty. -/
theorem optional?_optionsMembers (options : KeyMap Json.Options) :
    Json.Raw.optional? .empty (Json.Raw.mapOf? moduleOptions?)
        (((optionsMembers options).lookup "module_config").map Json.shape) =
      (Json.shape (optionsJson options)).mapOf? moduleOptions? := by
  unfold optionsMembers optionsJson
  split
  · rename_i hempty
    rw [KeyMap.entries_map, List.isEmpty_iff.1 hempty]
    rfl
  · rfl

theorem ofRaw?_shape {c : Config}
    (hfits : ∀ name entry, c.commands.get? name = some entry → entry.Fits) :
    ofRaw? (Json.shape c.toJson) =
      ((Json.shape (optionsJson c.options)).mapOf? moduleOptions?).map fun options =>
        ⟨c.sigil, c.commands, c.modules, options⟩ := by
  have hcommands : (Json.shape (.object (c.commands.map commandJson).entries)).mapOf? command? =
      some c.commands :=
    Json.mapOf?_shape_eq_some_iff.2 fun name entry hget => command?_shape (hfits name entry hget)
  have hfields : (Json.shape c.toJson).fields? ["meta", "commands", "modules", "module_config"] =
      some [some (Json.shape (.object [("prefix", .string c.sigil)])),
        some (Json.shape (.object (c.commands.map commandJson).entries)),
        some (Json.shape (.array (c.modules.map .string))),
        ((optionsMembers c.options).lookup "module_config").map Json.shape] := by
    refine Json.fields?_shape ?_
    unfold optionsMembers
    split
    · rfl
    · rfl
  simp only [ofRaw?, hfields, Option.bind_eq_bind, Option.bind_some, optional?_optionsMembers]
  simp only [Json.Raw.optional?, Json.Raw.required?, sigil?_shape, hcommands, modules?_shape,
    Option.bind_some, Option.map_eq_bind]
  rfl

theorem mapOf?_optionsJson_eq_some_iff {options : KeyMap Json.Options} :
    (Json.shape (optionsJson options)).mapOf? moduleOptions? = some options ↔
      ReadsBack options := by
  have hset : ∀ set : Json.Options, moduleOptions? (Json.shape (.object set.entries)) = some set ↔
      ∀ key value, set.get? key = some value → IsReadBack value := by
    intro set
    have hid : set.map id = set := KeyMap.ext_entries (by simp)
    have hiff :=
      Json.mapOf?_shape_eq_some_iff (f := Json.Raw.value? optionRoom) (g := id) (m := set)
    rw [hid] at hiff
    exact hiff
  rw [optionsJson, Json.mapOf?_shape_eq_some_iff]
  exact forall_congr' fun moduleName => forall_congr' fun set => imp_congr_right fun _ => hset set

theorem read?_text {c : Config} (hfree : FloatFree c.options) :
    read? c.text = ofRaw? (Json.shape c.toJson) := by
  rw [read?, text, Json.ofText?_pretty (isFloatFree_toJson hfree), Option.bind_some]

/-- A config without floating-point numbers whose cooldowns fit is read back just when its options
are. -/
theorem read?_text_eq_some_iff {c : Config} (hfree : FloatFree c.options)
    (hfits : ∀ name entry, c.commands.get? name = some entry → entry.Fits) :
    read? c.text = some c ↔ ReadsBack c.options := by
  rw [read?_text hfree, ofRaw?_shape hfits, ← mapOf?_optionsJson_eq_some_iff]
  constructor
  · intro h
    obtain ⟨options, hoptions, heq⟩ := Option.map_eq_some_iff.1 h
    rw [hoptions, ← congrArg Config.options heq]
  · intro h
    rw [h]
    rfl

theorem fits_of_read? {text : String} {c : Config} (h : read? text = some c) {name : String}
    {entry : StoredCommand} (hget : c.commands.get? name = some entry) : entry.Fits := by
  simp only [read?, ofRaw?, Option.bind_eq_bind, Option.bind_eq_some_iff] at h
  obtain ⟨raw, -, fields, -, h⟩ := h
  split at h
  · simp only [Option.bind_eq_some_iff] at h
    obtain ⟨sigil, -, commands, hcommands, modules, -, options, -, hc⟩ := h
    obtain rfl := Option.some.inj hc
    unfold Json.Raw.optional? at hcommands
    split at hcommands
    · obtain rfl := Option.some.inj hcommands
      rw [KeyMap.get?_empty] at hget
      cases hget
    · obtain ⟨item, -, hitem⟩ := Json.exists_of_mapOf? hcommands hget
      exact fits_of_command? hitem
  · cases h

theorem everyOption_empty (p : Json → Prop) : EveryOption p .empty := by
  intro moduleName set hset
  rw [KeyMap.get?_empty] at hset
  cases hset

theorem read?_text_initial : read? initial.text = some initial := by
  have hfits : ∀ e ∈ initial.commands.entries, Number.fitsSigned 64 e.2.cooldown = true := by
    decide +kernel
  exact (read?_text_eq_some_iff (everyOption_empty _) fun name entry hget =>
    hfits (name, entry) (KeyMap.mem_of_get? hget)).2 (everyOption_empty _)

end Channel.Config

end CommandBot
