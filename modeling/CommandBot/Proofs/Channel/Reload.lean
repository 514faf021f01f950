import CommandBot.Proofs.Channel.ConfigText
import CommandBot.Proofs.Files.Save
import CommandBot.Proofs.Json.ReadBack

/-!
# Saving and loading a config

A config that was loaded and is saved again is loaded as it was or refused, and it is loaded just
when its text nests no deeper than is read and no object among its options starts with the key of a
written value (`Config.IsReloadable`). Both hold of every text that does not use that key.
-/

namespace CommandBot

namespace Channel.Config

/-! ### What a config that is read looks like -/

/-- A config as it is kept: its cooldowns and integers have 64 bits, and the objects among its
options have ascending keys. -/
structure IsProper (c : Config) : Prop where
  fits : ∀ name entry, c.commands.get? name = some entry → entry.Fits
  options : EveryOption Json.IsProper c.options

/-- An option that is read stands in the text with its value. -/
theorem exists_raw_of_read? {text : String} {c : Config} (h : read? text = some c)
    {moduleName : String} {set : Json.Options} (hset : c.options.get? moduleName = some set)
    {key : String} {value : Json} (hvalue : set.get? key = some value) :
    ∃ raw item : Json.Raw, Json.Raw.ofText? text = some raw ∧ item.Part raw ∧
      item.value? optionRoom = some value := by
  obtain ⟨raw, hraw, h⟩ := Option.bind_eq_some_iff.1 h
  simp only [ofRaw?, Option.bind_eq_bind, Option.bind_eq_some_iff] at h
  obtain ⟨fields, hfields, h⟩ := h
  split at h
  · rename_i sigil commands modules options
    simp only [Option.bind_eq_some_iff] at h
    obtain ⟨_, -, _, -, _, -, read, hread, hc⟩ := h
    obtain rfl := Option.some.inj hc
    cases options with
    | none =>
        obtain rfl := Option.some.inj hread
        rw [KeyMap.get?_empty] at hset
        cases hset
    | some options =>
        have hoptions : options.Part raw := Json.part_of_fields? hfields (by simp)
        obtain ⟨setRaw, hsetRaw, hset⟩ := Json.exists_of_mapOf? hread hset
        obtain ⟨item, hitem, hvalue⟩ := Json.exists_of_mapOf? hset hvalue
        exact ⟨raw, item, hraw, (hitem.trans hsetRaw).trans hoptions, hvalue⟩
  · cases h

theorem everyOption_isRead_of_read? {text : String} {c : Config} (h : read? text = some c) :
    EveryOption Json.IsRead c.options := by
  intro moduleName set hset key value hvalue
  obtain ⟨_, _, -, -, hread⟩ := exists_raw_of_read? h hset hvalue
  exact Json.isRead_of_value? hread

theorem isProper_of_read? {text : String} {c : Config} (h : read? text = some c) : c.IsProper where
  fits := fun _ _ hget => fits_of_read? h hget
  options := (everyOption_isRead_of_read? h).mono fun _ hread => hread.toIsProper

/-! ### The depth of a text -/

theorem everyOption_iff_forall_entries {p : Json → Prop} {options : KeyMap Json.Options} :
    EveryOption p options ↔ ∀ set ∈ options.entries, ∀ o ∈ set.2.entries, p o.2 :=
  ⟨fun h _ hset _ ho => h _ _ (KeyMap.get?_of_mem hset) _ _ (KeyMap.get?_of_mem ho),
    fun h _ _ hset _ _ hvalue => h _ (KeyMap.mem_of_get? hset) _ (KeyMap.mem_of_get? hvalue)⟩

theorem depth_optionsJson_le_iff {options : KeyMap Json.Options} {n : Nat} :
    (optionsJson options).depth ≤ n + 2 ↔ EveryOption (fun value => value.depth ≤ n) options := by
  rw [optionsJson, Json.depth_object_le_iff, everyOption_iff_forall_entries, KeyMap.entries_map,
    List.forall_mem_map]
  exact forall₂_congr fun set _ => Json.depth_object_le_iff

/-- The text of a config nests as deep as is read just when each option does where it stands. -/
theorem depth_toJson_le_iff {c : Config} :
    c.toJson.depth ≤ Json.maxDepth ↔
      EveryOption (fun value => value.depth ≤ optionRoom) c.options := by
  have hcommands : (Json.object (c.commands.map commandJson).entries).depth ≤ optionRoom + 2 := by
    rw [Json.depth_object_le_iff, KeyMap.entries_map, List.forall_mem_map]
    exact fun entry _ => Nat.le_add_left 1 optionRoom
  have hmodules : (Json.array (c.modules.map .string)).depth ≤ optionRoom + 2 := by
    rw [Json.depth_array_le_iff, List.forall_mem_map]
    exact fun name _ => Nat.zero_le _
  have hmeta : (Json.object [("prefix", .string c.sigil)]).depth ≤ optionRoom + 2 :=
    Nat.le_add_left 1 (optionRoom + 1)
  have hall : c.toJson.depth ≤ Json.maxDepth ↔
      ∀ e ∈ optionsMembers c.options, e.2.depth ≤ optionRoom + 2 := by
    change (Json.object _).depth ≤ optionRoom + 2 + 1 ↔ _
    simp only [Json.depth_object_le_iff, List.forall_mem_append, List.forall_mem_cons, hmeta,
      hcommands, hmodules, true_and]
    simp
  rw [hall, ← depth_optionsJson_le_iff]
  unfold optionsMembers
  split
  · rename_i hempty
    rw [optionsJson, KeyMap.entries_map, List.isEmpty_iff.1 hempty]
    exact iff_of_true (fun _ he => absurd he List.not_mem_nil) (Nat.le_add_left 1 _)
  · exact List.forall_mem_singleton

/-! ### What is read from the text of a config -/

/-- The text of the config nests no deeper than is read, and no object among its options starts with
the key of a written value. -/
structure IsReloadable (c : Config) : Prop where
  depth : c.toJson.depth ≤ Json.maxDepth
  unmarked : EveryOption Json.IsUnmarked c.options

theorem isReloadable_iff {c : Config} :
    c.IsReloadable ↔
      EveryOption (fun value => value.IsUnmarked ∧ value.depth ≤ optionRoom) c.options :=
  ⟨fun h => h.unmarked.and (depth_toJson_le_iff.1 h.depth),
    fun h => ⟨depth_toJson_le_iff.2 (h.mono fun _ => And.right), h.mono fun _ => And.left⟩⟩

theorem read?_text_eq_some_iff_isReloadable {c : Config} (hfree : FloatFree c.options)
    (hproper : c.IsProper) : read? c.text = some c ↔ c.IsReloadable := by
  have hoptions := hfree.and hproper.options
  rw [read?_text_eq_some_iff hfree hproper.fits, isReloadable_iff]
  constructor
  · intro h
    exact (h.and hoptions).mono fun value ⟨hback, hfree, hproper⟩ =>
      (Json.value?_shape_eq_some_iff hfree hproper).1 hback
  · intro h
    exact (h.and hoptions).mono fun value ⟨hfits, hfree, hproper⟩ =>
      (Json.value?_shape_eq_some_iff hfree hproper).2 hfits

/-- A config that was read is read from its text as it is or not at all. -/
theorem eq_of_read?_text {text : String} {c again : Config} (hread : read? text = some c)
    (hfree : FloatFree c.options) (h : read? c.text = some again) : again = c := by
  rw [read?_text hfree, ofRaw?_shape (isProper_of_read? hread).fits] at h
  obtain ⟨options, hoptions, rfl⟩ := Option.map_eq_some_iff.1 h
  have hsame : options = c.options := by
    refine Json.eq_of_mapOf?_shape hoptions fun name set hset other hother => ?_
    have hid : set.map id = set := KeyMap.ext_entries (by simp)
    rw [← hid] at hother
    refine Json.eq_of_mapOf?_shape hother fun key value hvalue read hvalue' => ?_
    exact Json.eq_of_value?_shape (hfree name set hset key value hvalue)
      (everyOption_isRead_of_read? hread name set hset key value hvalue) hvalue'
  rw [hsame]

/-- No object in the text has the key of a written value. -/
def IsUnreserved (text : String) : Prop :=
  ∀ raw, Json.Raw.ofText? text = some raw → raw.IsUnreserved

theorem isReloadable_of_isUnreserved {text : String} {c : Config} (hread : read? text = some c)
    (h : IsUnreserved text) : c.IsReloadable := by
  refine isReloadable_iff.2 fun moduleName set hset key value hvalue => ?_
  obtain ⟨raw, item, hraw, hitem, hvalue⟩ := exists_raw_of_read? hread hset hvalue
  exact Json.isUnmarked_of_toJson? ((h raw hraw).part hitem) hvalue

end Channel.Config

/-! ### Saving and loading -/

namespace Store

open Channel (Config)

variable {s : Store} {config : Config} {disruption : Option Disruption} {files saved : FileTree}

theorem load_of_save (hsave : s.save config disruption files = (.ok (), saved))
    (disruption' : Option Disruption) :
    s.load disruption' saved =
      (((Config.read? config.text).elim (.error (.parse s.path)) .ok), saved) := by
  have hread := read?_of_save_ok hsave
  rw [load, if_pos (FileTree.exists?_of_read? hread), readStored, hread, Option.bind_some,
    fromUTF8?_toUTF8]
  cases h : Config.read? config.text <;> simp [h]

theorem read?_of_load {text : String} {files after : FileTree}
    (htext : files.read? s.path = some text.toUTF8)
    (hload : s.load disruption files = (.ok config, after)) :
    Config.read? text = some config := by
  rw [load, if_pos (FileTree.exists?_of_read? htext), readStored, htext, Option.bind_some,
    fromUTF8?_toUTF8] at hload
  cases hread : Config.read? text with
  | none => simp [hread] at hload
  | some stored =>
      obtain ⟨rfl, -⟩ : stored = config ∧ files = after := by simpa [hread] using hload
      rfl

/-- What comes of a config that was saved: it is loaded as it was if it is reloadable and refused
if not, and what is loaded is saved as the same bytes again. -/
structure ComesBack (s : Store) (config : Config) (saved : FileTree) : Prop where
  loaded : config.IsReloadable → ∀ disruption, s.load disruption saved = (.ok config, saved)
  refused : ¬ config.IsReloadable →
    ∀ disruption, s.load disruption saved = (.error (.parse s.path), saved)
  rewritten : ∀ again disruption disruption' after,
    s.load disruption saved = (.ok again, saved) →
      s.save again disruption' saved = (.ok (), after) →
        after.read? s.path = saved.read? s.path

theorem comesBack_of_read? {text : String} (hread : Config.read? text = some config)
    (hfree : Config.FloatFree config.options)
    (hsave : s.save config disruption files = (.ok (), saved)) : s.ComesBack config saved where
  loaded h _ := by
    rw [load_of_save hsave, (Config.read?_text_eq_some_iff_isReloadable hfree
      (Config.isProper_of_read? hread)).2 h]
    rfl
  refused h _ := by
    cases hagain : Config.read? config.text with
    | none =>
        rw [load_of_save hsave, hagain]
        rfl
    | some again =>
        rw [Config.eq_of_read?_text hread hfree hagain] at hagain
        exact absurd ((Config.read?_text_eq_some_iff_isReloadable hfree
          (Config.isProper_of_read? hread)).1 hagain) h
  rewritten again _ _ after hload hsave' := by
    have hagain := read?_of_load (read?_of_save_ok hsave) hload
    rw [read?_of_save_ok hsave', read?_of_save_ok hsave,
      Config.eq_of_read?_text hread hfree hagain]

/-- A config without floating-point numbers that was loaded comes back when it is saved, and it is
reloadable if its text does not use the key of a written value. Of all configs those come back that
are reloadable. -/
theorem reload_of_saved (s : Store) :
    (∀ text config disruption files after, FileTree.read? files s.path = some text.toUTF8 →
      s.load disruption files = (.ok config, after) → Config.FloatFree config.options →
        (Config.IsUnreserved text → config.IsReloadable) ∧
          ∀ disruption files saved, s.save config disruption files = (.ok (), saved) →
            s.ComesBack config saved) ∧
      ∀ config disruption files saved, Config.FloatFree config.options → config.IsProper →
        s.save config disruption files = (.ok (), saved) →
          ∀ disruption, s.load disruption saved = (.ok config, saved) ↔ config.IsReloadable := by
  constructor
  · intro text config disruption files after htext hload hfree
    have hread := read?_of_load htext hload
    exact ⟨Config.isReloadable_of_isUnreserved hread,
      fun disruption files saved hsave => comesBack_of_read? hread hfree hsave⟩
  · intro config disruption files saved hfree hproper hsave disruption'
    rw [load_of_save hsave, ← Config.read?_text_eq_some_iff_isReloadable hfree hproper]
    cases Config.read? config.text <;> simp

end Store

namespace Channel.Config

/-- A config that sets one option. -/
def withOption (value : Json) : Config :=
  ⟨"!", .empty, [], KeyMap.empty.insert "x" (KeyMap.empty.insert "v" value)⟩

theorem everyOption_withOption_iff {p : Json → Prop} {value : Json} :
    EveryOption p (withOption value).options ↔ p value := by
  rw [everyOption_iff_forall_entries]
  change (∀ set ∈ [("x", KeyMap.empty.insert "v" value)], ∀ o ∈ set.2.entries, p o.2) ↔ p value
  rw [List.forall_mem_singleton]
  exact List.forall_mem_singleton

theorem read?_text_withOption {value read : Json} (hfree : value.IsFloatFree)
    (hvalue : (Json.shape value).value? optionRoom = some read) :
    read? (withOption value).text = some (withOption read) := by
  have hfits : ∀ name entry, (withOption value).commands.get? name = some entry → entry.Fits :=
    fun _ _ hget => nomatch hget
  have hset : moduleOptions? (Json.shape (.object [("v", value)])) =
      some (KeyMap.empty.insert "v" read) :=
    Json.mapOf?_shape_iff_forall₂ (g := id) (m := KeyMap.empty.insert "v" value) |>.2
      (.cons ⟨rfl, hvalue⟩ .nil)
  have hoptions : (Json.shape (optionsJson (withOption value).options)).mapOf? moduleOptions? =
      some (withOption read).options :=
    Json.mapOf?_shape_iff_forall₂.2 (.cons ⟨rfl, hset⟩ .nil)
  rw [read?_text (everyOption_withOption_iff.2 hfree), ofRaw?_shape hfits, hoptions]
  rfl

end Channel.Config

namespace Store

open Channel (Config)

/-- The first key of this object is not that of a written value, but in order it is. -/
def unsorted : Json := .object [("a", .null), (Json.embeddingKey, .null)]

def sorted : Json := .object [(Json.embeddingKey, .null), ("a", .null)]

theorem value?_unsorted : (Json.shape unsorted).value? Config.optionRoom = some sorted := by
  have hmember : ∀ key, Json.readMember? Json.read? (Config.optionRoom - 1)
      (Json.partsOf key, .null) = some (key, .null) :=
    fun key => Json.readMember?_shape _ (key, .null)
  have hplain : Json.embedding? (Json.memberShapes [("a", .null), (Json.embeddingKey, .null)]) =
      none := Json.embedding?_memberShapes_eq_none_iff.2 (show ¬ "a" = Json.embeddingKey by decide)
  exact Json.toJson?_object hplain
    (Json.mapM_eq_some_iff.2 (.cons (hmember "a") (.cons (hmember Json.embeddingKey) .nil)))

/-- A store in the working directory. -/
def roomStore : Store := ⟨"room.json"⟩

/-- The files of an empty working directory after a config has been saved in it. -/
def filesWith (config : Config) : FileTree := (roomStore.save config none (.empty [])).2

theorem save_new (config : Config) :
    roomStore.save config none (.empty []) = (.ok (), filesWith config) := rfl

theorem exists_save_again (config again : Config) :
    ∃ saved, roomStore.save again none (filesWith config) = (.ok (), saved) := ⟨_, rfl⟩

theorem read?_text_unsorted :
    Config.read? (Config.withOption unsorted).text = some (.withOption sorted) :=
  Config.read?_text_withOption (show unsorted.IsFloatFree from ⟨trivial, trivial, trivial⟩)
    value?_unsorted

/-- A text is loaded, and what is saved of it is refused. -/
theorem refused_after_save :
    ∃ (s : Store) (files saved : FileTree) (text : String) (config : Config),
      files.read? s.path = some text.toUTF8 ∧ s.load none files = (.ok config, files) ∧
        Config.FloatFree config.options ∧ s.save config none files = (.ok (), saved) ∧
          s.load none saved = (.error (.parse s.path), saved) := by
  have hfree : Config.FloatFree (Config.withOption sorted).options :=
    Config.everyOption_withOption_iff.2 ⟨trivial, trivial, trivial⟩
  have hmarked : ¬ (Config.withOption sorted).IsReloadable := fun h =>
    (Config.everyOption_withOption_iff.1 h.unmarked).self rfl
  have hload : roomStore.load none (filesWith (.withOption unsorted)) =
      (.ok (.withOption sorted), filesWith (.withOption unsorted)) := by
    rw [load_of_save (save_new _), read?_text_unsorted]
    rfl
  obtain ⟨saved, hsave⟩ := exists_save_again (.withOption unsorted) (.withOption sorted)
  exact ⟨roomStore, filesWith (.withOption unsorted), saved, (Config.withOption unsorted).text,
    .withOption sorted, read?_of_save_ok (save_new _), hload, hfree, hsave,
    (comesBack_of_read? read?_text_unsorted hfree hsave).refused hmarked none⟩

/-- A config that is saved, loaded, saved again and loaded again. -/
def listed : Config := .withOption (.array [.null, .integer 1])

theorem reload_of_saved_list :
    Config.FloatFree listed.options ∧ listed.IsProper ∧ listed.IsReloadable ∧
      roomStore.load none (filesWith listed) = (.ok listed, filesWith listed) ∧
      ∃ saved, roomStore.save listed none (filesWith listed) = (.ok (), saved) ∧
        roomStore.load none saved = (.ok listed, saved) := by
  have hfree : Config.FloatFree listed.options :=
    Config.everyOption_withOption_iff.2 ⟨trivial, trivial, trivial⟩
  have hproper : listed.IsProper :=
    ⟨(fun _ _ hget => nomatch hget), Config.everyOption_withOption_iff.2
      ⟨⟨trivial, trivial, trivial⟩,
        ⟨trivial, trivial, (rfl : Json.integerInRange 1 = true), trivial⟩⟩⟩
  have hreloadable : listed.IsReloadable :=
    ⟨Config.depth_toJson_le_iff.2 (Config.everyOption_withOption_iff.2 (by decide)),
      Config.everyOption_withOption_iff.2 ⟨not_false, not_false, not_false, trivial⟩⟩
  have hload := ((reload_of_saved roomStore).2 listed none _ _ hfree hproper (save_new _) none).2
    hreloadable
  obtain ⟨saved, hsave⟩ := exists_save_again listed listed
  have hback := ((reload_of_saved roomStore).1 _ _ none _ _ (read?_of_save_ok (save_new _)) hload
    hfree).2 none _ saved hsave
  exact ⟨hfree, hproper, hreloadable, hload, saved, hsave, hback.loaded hreloadable none⟩

end Store

end CommandBot
