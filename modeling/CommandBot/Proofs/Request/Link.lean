import CommandBot.Request.Link

/-!
# The forms of links

A link is an address with an id after it, and there are three forms of links (`LinkForm.Reads`). No
text is of two forms and none has two ids (`LinkForm.Reads.unique`). So it does not matter in which
order a text is held against the forms (`FirstReads`), and `parseLink`, which finds the address
first and then looks at what follows it, reads a link as any such order does (`parseLink_exact`).
-/

namespace CommandBot.Request

/-- One or more digits, of any decimal systems. -/
def IsId (id : String) : Prop := id.toList ≠ [] ∧ ∀ c ∈ id.toList, Text.isDigit c = true

/-- One or more word characters and number signs, as they stand between the address of the sets and
the id of a beatmap. -/
def IsSetPart (part : String) : Prop :=
  part.toList ≠ [] ∧ ∀ c ∈ part.toList, Text.isWordChar c = true ∨ c = '#'

instance (id : String) : Decidable (IsId id) := inferInstanceAs (Decidable (_ ∧ _))

instance (part : String) : Decidable (IsSetPart part) := inferInstanceAs (Decidable (_ ∧ _))

/-- The forms of links: to a beatmap within its set, to a beatmap, and to a set. -/
inductive LinkForm where
  | mapOfSet
  | map
  | set
  deriving DecidableEq, Repr

/-- The link is of the form, and it points there. -/
def LinkForm.Reads : LinkForm → (link : String) → MapLink → Prop
  | .mapOfSet, link, target => ∃ part id, IsSetPart part ∧ IsId id ∧
      link = "https://osu.ppy.sh/beatmapsets/" ++ part ++ "/" ++ id ∧ target = .beatmap id
  | .map, link, target => ∃ id, IsId id ∧
      (link = "https://osu.ppy.sh/b/" ++ id ∨ link = "https://osu.ppy.sh/beatmaps/" ++ id) ∧
        target = .beatmap id
  | .set, link, target => ∃ id, IsId id ∧
      link = "https://osu.ppy.sh/beatmapsets/" ++ id ∧ target = .set id

/-- What comes of holding the link against forms one after the other until it is of one of them. -/
inductive FirstReads (link : String) : List LinkForm → Option MapLink → Prop where
  | none : FirstReads link [] none
  | here {form : LinkForm} {forms : List LinkForm} {target : MapLink} (h : form.Reads link target) :
      FirstReads link (form :: forms) (some target)
  | later {form : LinkForm} {forms : List LinkForm} {result : Option MapLink}
      (h : ∀ target, ¬ form.Reads link target) (hrest : FirstReads link forms result) :
      FirstReads link (form :: forms) result

/-! ### What follows the address -/

theorem not_isDigit_slash : ¬ Text.isDigit '/' = true := by decide +kernel

theorem not_isSetChar_slash : ¬ isSetChar '/' = true := by decide +kernel

theorem isSetChar_iff (c : Char) : isSetChar c = true ↔ Text.isWordChar c = true ∨ c = '#' := by
  simp [isSetChar]

theorem id?_eq_some_iff (text : List Char) (id : String) :
    id? text = some id ↔ IsId id ∧ text = id.toList := by
  have hid : (!text.isEmpty && text.all Text.isDigit) = true ↔ IsId (String.ofList text) := by
    simp [IsId]
  unfold id?
  split
  · rename_i h
    constructor
    · intro hsome
      obtain rfl := Option.some.inj hsome
      exact ⟨hid.1 h, String.toList_ofList.symm⟩
    · rintro ⟨-, rfl⟩
      rw [String.ofList_toList]
  · rename_i h
    constructor
    · intro hnone
      cases hnone
    · rintro ⟨h', rfl⟩
      rw [String.ofList_toList] at hid
      exact absurd (hid.2 h') h

/-- A text is cut at its first slash. -/
theorem takeWhile_ne_slash {part : List Char} (h : '/' ∉ part) (rest : List Char) :
    (part ++ '/' :: rest).takeWhile (· != '/') = part ∧
      (part ++ '/' :: rest).dropWhile (· != '/') = '/' :: rest := by
  have hpart : ∀ c ∈ part, (c != '/') = true := fun c hc => by
    rw [bne_iff_ne]
    rintro rfl
    exact h hc
  rw [List.takeWhile_append_of_pos hpart, List.dropWhile_append_of_pos hpart]
  simp

theorem dropWhile_ne_slash {text : List Char} (h : '/' ∉ text) :
    text.dropWhile (· != '/') = [] := by
  induction text with
  | nil => rfl
  | cons c text ih =>
      obtain ⟨hc, htext⟩ := not_or.1 (mt List.mem_cons.2 h)
      have hne : (c != '/') = true := bne_iff_ne.2 (Ne.symm hc)
      rw [List.dropWhile_cons, if_pos hne, ih htext]

theorem afterSets?_eq_some_iff (text : List Char) (target : MapLink) :
    afterSets? text = some target ↔
      (∃ part id, IsSetPart part ∧ IsId id ∧ text = part.toList ++ '/' :: id.toList ∧
        target = .beatmap id) ∨
      ∃ id, IsId id ∧ text = id.toList ∧ target = .set id := by
  constructor
  · intro h
    have htext := List.takeWhile_append_dropWhile (p := (· != '/')) (l := text)
    unfold afterSets? at h
    simp only at h
    split at h
    · rename_i hrest
      obtain ⟨id, hid, rfl⟩ := Option.map_eq_some_iff.1 h
      obtain ⟨hdigits, rfl⟩ := (id?_eq_some_iff _ _).1 hid
      exact .inr ⟨id, hdigits, rfl, rfl⟩
    · rename_i c last hrest
      split at h
      · rename_i hmiddle
        obtain ⟨id, hid, rfl⟩ := Option.map_eq_some_iff.1 h
        obtain ⟨hdigits, rfl⟩ := (id?_eq_some_iff _ _).1 hid
        have hslash : c = '/' := by
          have hhead := List.head?_dropWhile_not (· != '/') text
          rw [hrest] at hhead
          simpa using hhead
        subst hslash
        refine .inl ⟨String.ofList (text.takeWhile (· != '/')), id, ?_, hdigits, ?_, rfl⟩
        · rw [Bool.and_eq_true, List.all_eq_true] at hmiddle
          rw [IsSetPart, String.toList_ofList]
          exact ⟨by simpa using hmiddle.1, fun d hd => (isSetChar_iff d).1 (hmiddle.2 d hd)⟩
        · rw [String.toList_ofList, ← hrest, htext]
      · cases h
  · rintro (⟨part, id, ⟨hne, hpart⟩, hid, rfl, rfl⟩ | ⟨id, hid, rfl, rfl⟩)
    · have hslash : '/' ∉ part.toList := fun h =>
        not_isSetChar_slash ((isSetChar_iff _).2 (hpart _ h))
      obtain ⟨htake, hdrop⟩ := takeWhile_ne_slash hslash id.toList
      have hall : (!part.toList.isEmpty && part.toList.all isSetChar) = true := by
        rw [Bool.and_eq_true, List.all_eq_true]
        exact ⟨by simpa using hne, fun c hc => (isSetChar_iff c).2 (hpart c hc)⟩
      have hread := (id?_eq_some_iff id.toList id).2 ⟨hid, rfl⟩
      simp only [afterSets?, htake, hdrop, hall, hread, if_true, Option.map_some]
    · have hslash : '/' ∉ id.toList := fun h => not_isDigit_slash (hid.2 _ h)
      have hread := (id?_eq_some_iff id.toList id).2 ⟨hid, rfl⟩
      simp only [afterSets?, dropWhile_ne_slash hslash, hread, Option.map_some]

/-! ### The three addresses -/

theorem sets_ne_short (rest rest' : List Char) :
    setsAddress.toList ++ rest ≠ shortAddress.toList ++ rest' := by
  simp [setsAddress, shortAddress]

theorem sets_ne_long (rest rest' : List Char) :
    setsAddress.toList ++ rest ≠ longAddress.toList ++ rest' := by
  simp [setsAddress, longAddress]

theorem short_ne_long (rest rest' : List Char) :
    shortAddress.toList ++ rest ≠ longAddress.toList ++ rest' := by
  simp [shortAddress, longAddress]

theorem dropLead?_eq_none_of_ne {lead text : List Char} (h : ∀ rest, text ≠ lead ++ rest) :
    Text.dropLead? lead text = none := by
  rw [Option.eq_none_iff_forall_ne_some]
  exact fun rest hrest => h rest ((Text.dropLead?_eq_some_iff ..).1 hrest)

section Address

variable {link : String} {rest : List Char}

theorem parseLink_of_sets (h : link.toList = setsAddress.toList ++ rest) :
    parseLink link = afterSets? rest := by
  simp only [parseLink, (Text.dropLead?_eq_some_iff ..).2 h]

/-- The two addresses of beatmaps make no difference. -/
theorem parseLink_of_map
    (h : link.toList = shortAddress.toList ++ rest ∨ link.toList = longAddress.toList ++ rest) :
    parseLink link = (id? rest).map .beatmap := by
  have hsets : Text.dropLead? setsAddress.toList link.toList = none := by
    refine dropLead?_eq_none_of_ne fun other hother => ?_
    rcases h with h | h
    · exact sets_ne_short _ _ (hother.symm.trans h)
    · exact sets_ne_long _ _ (hother.symm.trans h)
  rcases h with h | h
  · simp only [parseLink, hsets, (Text.dropLead?_eq_some_iff ..).2 h]
    rfl
  · have hshort : Text.dropLead? shortAddress.toList link.toList = none := by
      refine dropLead?_eq_none_of_ne fun other hother => ?_
      exact short_ne_long _ _ (hother.symm.trans h)
    simp only [parseLink, hsets, hshort, (Text.dropLead?_eq_some_iff ..).2 h]
    rfl

/-- A text that is read at all starts with one of the addresses. -/
theorem exists_address_of_parseLink {target : MapLink} (h : parseLink link = some target) :
    (∃ rest, link.toList = setsAddress.toList ++ rest) ∨
      ∃ rest, link.toList = shortAddress.toList ++ rest ∨
        link.toList = longAddress.toList ++ rest := by
  simp only [parseLink] at h
  split at h
  · rename_i rest hrest
    exact .inl ⟨rest, (Text.dropLead?_eq_some_iff ..).1 hrest⟩
  · split at h
    · rename_i rest hrest
      rw [Option.orElse_eq_orElse, Option.orElse_eq_or, Option.or_eq_some_iff] at hrest
      rcases hrest with hrest | ⟨-, hrest⟩
      · exact .inr ⟨rest, .inl ((Text.dropLead?_eq_some_iff ..).1 hrest)⟩
      · exact .inr ⟨rest, .inr ((Text.dropLead?_eq_some_iff ..).1 hrest)⟩
    · cases h

end Address

/-! ### The forms -/

section Forms

variable {link : String} {target target' : MapLink} {form form' : LinkForm}

theorem eq_append_iff (address rest : String) :
    link = address ++ rest ↔ link.toList = address.toList ++ rest.toList := by
  rw [← String.toList_inj, String.toList_append]

theorem eq_append_part_iff (part id : String) :
    link = "https://osu.ppy.sh/beatmapsets/" ++ part ++ "/" ++ id ↔
      link.toList = setsAddress.toList ++ (part.toList ++ '/' :: id.toList) := by
  rw [String.append_assoc, String.append_assoc, eq_append_iff, String.toList_append,
    String.toList_append]
  rfl

theorem parseLink_of_reads (h : form.Reads link target) : parseLink link = some target := by
  cases form with
  | mapOfSet =>
      obtain ⟨part, id, hpart, hid, hlink, rfl⟩ := h
      rw [parseLink_of_sets ((eq_append_part_iff _ _).1 hlink), afterSets?_eq_some_iff]
      exact .inl ⟨part, id, hpart, hid, rfl, rfl⟩
  | map =>
      obtain ⟨id, hid, hlink, rfl⟩ := h
      have haddress := hlink.imp (eq_append_iff _ _).1 (eq_append_iff _ _).1
      rw [parseLink_of_map haddress, (id?_eq_some_iff ..).2 ⟨hid, rfl⟩, Option.map_some]
  | set =>
      obtain ⟨id, hid, hlink, rfl⟩ := h
      rw [parseLink_of_sets ((eq_append_iff _ _).1 hlink), afterSets?_eq_some_iff]
      exact .inr ⟨id, hid, rfl, rfl⟩

theorem exists_reads_of_parseLink (h : parseLink link = some target) :
    ∃ form : LinkForm, form.Reads link target := by
  rcases exists_address_of_parseLink h with ⟨rest, hrest⟩ | ⟨rest, hrest⟩
  · rw [parseLink_of_sets hrest, afterSets?_eq_some_iff] at h
    rcases h with ⟨part, id, hpart, hid, rfl, rfl⟩ | ⟨id, hid, rfl, rfl⟩
    · exact ⟨.mapOfSet, part, id, hpart, hid, (eq_append_part_iff _ _).2 hrest, rfl⟩
    · exact ⟨.set, id, hid, (eq_append_iff _ _).2 hrest, rfl⟩
  · rw [parseLink_of_map hrest, Option.map_eq_some_iff] at h
    obtain ⟨id, hread, rfl⟩ := h
    obtain ⟨hid, rfl⟩ := (id?_eq_some_iff ..).1 hread
    exact ⟨.map, id, hid, hrest.imp (eq_append_iff _ _).2 (eq_append_iff _ _).2, rfl⟩

theorem parseLink_eq_some_iff (link : String) (target : MapLink) :
    parseLink link = some target ↔ ∃ form : LinkForm, form.Reads link target :=
  ⟨exists_reads_of_parseLink, fun ⟨_, h⟩ => parseLink_of_reads h⟩

theorem not_reads_map_of_mapOfSet (h : LinkForm.mapOfSet.Reads link target) :
    ¬ LinkForm.map.Reads link target' := by
  obtain ⟨part, id, -, -, hlink, -⟩ := h
  rw [eq_append_part_iff] at hlink
  rintro ⟨id', -, hlink', -⟩
  rcases hlink'.imp (eq_append_iff _ _).1 (eq_append_iff _ _).1 with hlink' | hlink'
  · exact sets_ne_short _ _ (hlink.symm.trans hlink')
  · exact sets_ne_long _ _ (hlink.symm.trans hlink')

/-- Links of the last form point to sets, and no others do. -/
theorem LinkForm.Reads.eq_set_iff (h : form.Reads link target) :
    form = .set ↔ ∃ id, target = .set id := by
  cases form with
  | mapOfSet =>
      obtain ⟨_, _, -, -, -, rfl⟩ := h
      simp
  | map =>
      obtain ⟨_, -, -, rfl⟩ := h
      simp
  | set =>
      obtain ⟨id, -, -, rfl⟩ := h
      exact iff_of_true rfl ⟨id, rfl⟩

/-- A text is of no two forms, and it points to one thing only. -/
theorem LinkForm.Reads.unique (h : form.Reads link target) (h' : form'.Reads link target') :
    form = form' ∧ target = target' := by
  obtain rfl : target = target' :=
    Option.some.inj ((parseLink_of_reads h).symm.trans (parseLink_of_reads h'))
  refine ⟨?_, rfl⟩
  cases form with
  | mapOfSet =>
      cases form' with
      | mapOfSet => rfl
      | map => exact absurd h' (not_reads_map_of_mapOfSet h)
      | set => cases h.eq_set_iff.2 (h'.eq_set_iff.1 rfl)
  | map =>
      cases form' with
      | mapOfSet => exact absurd h (not_reads_map_of_mapOfSet h')
      | map => rfl
      | set => cases h.eq_set_iff.2 (h'.eq_set_iff.1 rfl)
  | set => exact (h'.eq_set_iff.2 (h.eq_set_iff.1 rfl)).symm

end Forms

/-! ### One form after the other -/

section Order

variable {link : String} {forms : List LinkForm} {result : Option MapLink}

/-- Among forms that include the one that the text is of, this one counts. -/
theorem FirstReads.eq_parseLink (h : FirstReads link forms result)
    (hforms : ∀ form target, LinkForm.Reads form link target → form ∈ forms) :
    result = parseLink link := by
  induction h with
  | none =>
      refine (Option.eq_none_iff_forall_ne_some.2 fun target htarget => ?_).symm
      obtain ⟨form, hform⟩ := exists_reads_of_parseLink htarget
      exact absurd (hforms form target hform) List.not_mem_nil
  | here h => exact (parseLink_of_reads h).symm
  | @later form forms result h _ ih =>
      refine ih fun other target hother => ?_
      rcases List.mem_cons.1 (hforms other target hother) with rfl | hmem
      · exact absurd hother (h target)
      · exact hmem

theorem exists_firstReads (link : String) (forms : List LinkForm) :
    ∃ result, FirstReads link forms result := by
  induction forms with
  | nil => exact ⟨none, .none⟩
  | cons form forms ih =>
      obtain ⟨result, hresult⟩ := ih
      by_cases h : ∃ target, form.Reads link target
      · obtain ⟨target, htarget⟩ := h
        exact ⟨some target, .here htarget⟩
      · exact ⟨result, .later (fun target htarget => h ⟨target, htarget⟩) hresult⟩

end Order

/-- A link to a beatmap is an address and an id, perhaps with a part of digits, letters and number
signs between them, and a link to a set is an address and an id; all else is no link. No text is of
two forms or has two ids, so that it may be held against all forms in any order. -/
theorem parseLink_exact (link : String) :
    (∀ id, parseLink link = some (.beatmap id) ↔
      IsId id ∧
        ((∃ part, IsSetPart part ∧
            link = "https://osu.ppy.sh/beatmapsets/" ++ part ++ "/" ++ id) ∨
          link = "https://osu.ppy.sh/b/" ++ id ∨ link = "https://osu.ppy.sh/beatmaps/" ++ id)) ∧
    (∀ id, parseLink link = some (.set id) ↔
      IsId id ∧ link = "https://osu.ppy.sh/beatmapsets/" ++ id) ∧
    (parseLink link = none ↔ ∀ form target, ¬ LinkForm.Reads form link target) ∧
    (∀ form target form' target', LinkForm.Reads form link target →
      LinkForm.Reads form' link target' → form = form' ∧ target = target') ∧
    (∀ order : List LinkForm, (∀ form, form ∈ order) →
      ∀ result, FirstReads link order result ↔ result = parseLink link) := by
  refine ⟨fun id => ?_, fun id => ?_, ?_, fun _ _ _ _ h h' => h.unique h', fun order horder => ?_⟩
  · rw [parseLink_eq_some_iff]
    constructor
    · rintro ⟨_ | _ | _, h⟩
      · obtain ⟨part, id, hpart, hid, hlink, htarget⟩ := h
        obtain rfl := MapLink.beatmap.inj htarget
        exact ⟨hid, .inl ⟨part, hpart, hlink⟩⟩
      · obtain ⟨id, hid, hlink, htarget⟩ := h
        obtain rfl := MapLink.beatmap.inj htarget
        exact ⟨hid, .inr hlink⟩
      · obtain ⟨_, -, -, htarget⟩ := h
        cases htarget
    · rintro ⟨hid, ⟨part, hpart, hlink⟩ | hlink⟩
      · exact ⟨.mapOfSet, part, id, hpart, hid, hlink, rfl⟩
      · exact ⟨.map, id, hid, hlink, rfl⟩
  · rw [parseLink_eq_some_iff]
    constructor
    · rintro ⟨_ | _ | _, h⟩
      · obtain ⟨_, _, -, -, -, htarget⟩ := h
        cases htarget
      · obtain ⟨_, -, -, htarget⟩ := h
        cases htarget
      · obtain ⟨id, hid, hlink, htarget⟩ := h
        obtain rfl := MapLink.set.inj htarget
        exact ⟨hid, hlink⟩
    · rintro ⟨hid, hlink⟩
      exact ⟨.set, id, hid, hlink, rfl⟩
  · rw [Option.eq_none_iff_forall_ne_some]
    constructor
    · exact fun h form target hform => h target (parseLink_of_reads hform)
    · intro h target htarget
      obtain ⟨form, hform⟩ := exists_reads_of_parseLink htarget
      exact h form target hform
  · have hread : FirstReads link order (parseLink link) := by
      obtain ⟨result, hresult⟩ := exists_firstReads link order
      rwa [← hresult.eq_parseLink fun form _ _ => horder form]
    intro result
    constructor
    · exact fun h => h.eq_parseLink fun form _ _ => horder form
    · rintro rfl
      exact hread

/-- In whatever order the addresses are tried, a link to a map of a set is read as the map. -/
theorem parseLink_exact_backwards :
    FirstReads "https://osu.ppy.sh/beatmapsets/1#osu/2" [.set, .map, .mapOfSet]
      (some (.beatmap "2")) :=
  ((parseLink_exact _).2.2.2.2 _ (fun form => by cases form <;> decide) _).2 (by decide +kernel)

/-- What stands between the address of the sets and the id may be a number sign alone, and the
digits may be those of any decimal system; a line end after them is one character too many. -/
example : parseLink "https://osu.ppy.sh/beatmapsets/#/٣" = some (.beatmap "٣") ∧
    parseLink "https://osu.ppy.sh/beatmapsets/12" = some (.set "12") ∧
    parseLink "https://osu.ppy.sh/b/12\n" = none := by
  decide +kernel

end CommandBot.Request
