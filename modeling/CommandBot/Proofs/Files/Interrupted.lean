import CommandBot.Proofs.Channel.ConfigText
import CommandBot.Proofs.Files.Making

/-!
# A save that does not come to its end

A save may fail or be broken off while it makes directories, in the middle of its write, or before
the new file takes the place of the old. The trees that it can leave are those of `Store.Leaves`. In
none of them has a file changed but the temporary one, and that never stands where the path of the
store leads (`placeOf_temporaryPath_ne`), so a straight path leads to what it led to before
(`stored_after_save`). A path that steps back out of a directory that was missing leads nowhere
until a save has made the directory: after that it may lead to a file that the save has not touched
(`stored_after_save_step_back`).

A `FileTree` has no links, and this is where it matters: were the temporary name a link to the
stored file, the write would go to the stored file itself.
-/

namespace CommandBot

namespace FileTree

variable {t t' : FileTree} {source target : String}

theorem placeOf_of_keepsDirectories (h : KeepsDirectories t t') (path : String) :
    t'.placeOf path = t.placeOf path := by
  rw [placeOf, placeOf, origin_of_keepsDirectories h]

/-- What is moved elsewhere is gone from where it was. -/
theorem exists?_of_rename? (h : t.rename? source target = some t')
    (hne : t.placeOf source ≠ t.placeOf target) : t'.exists? source = false := by
  obtain ⟨old, new, content, hold, hnew, hfile, -, rfl⟩ := rename?_eq_some h
  rw [eq_placeOf_of_locate hold, eq_placeOf_of_locate hnew] at hne
  have hnil : old ≠ [] := ne_nil_of_not_directory (by rw [hfile]; simp)
  cases hlocate : ((t.erase old).put new (.file content)).locate source with
  | error e => simp [exists?, at?, hlocate, Except.toOption]
  | ok place =>
      have hplace : place = old := by
        rw [← eq_placeOf_of_locate hlocate, ← eq_placeOf_of_locate hold]
        rfl
      simp [exists?, at?, hlocate, Except.toOption, hplace, node?_put_of_ne _ hne,
        node?_erase_self t hnil]

end FileTree

namespace SaveStep

variable {t t' : FileTree} {e : StoreError}

/-- Steps that end with an error were broken off in the first or failed there, or went on after
it. -/
theorem performAll_cons_error {disruption : Option Disruption} {step : SaveStep}
    {rest : List SaveStep} (h : performAll t disruption (step :: rest) = (.error e, t')) :
    (∃ bytes, t' = step.breakOff t bytes) ∨ (∃ e', step.perform t = (.error e', t')) ∨
      ∃ u disruption', step.perform t = (.ok (), u) ∧
        performAll u disruption' rest = (.error e, t') := by
  rcases disruption with _ | ⟨_ | n, bytes⟩
  · rw [performAll] at h
    split at h
    · rename_i u hperform
      exact .inr (.inr ⟨u, none, hperform, h⟩)
    · rename_i e' u hperform
      exact .inr (.inl ⟨e', by rw [hperform, (Prod.mk.inj h).2]⟩)
  · exact .inl ⟨bytes, (Prod.mk.inj h).2.symm⟩
  · rw [performAll] at h
    split at h
    · rename_i u hperform
      exact .inr (.inr ⟨u, some ⟨n, bytes⟩, hperform, h⟩)
    · rename_i e' u hperform
      exact .inr (.inl ⟨e', by rw [hperform, (Prod.mk.inj h).2]⟩)

theorem performAll_cons_ok {step : SaveStep} {rest : List SaveStep}
    (h : performAll t none (step :: rest) = (.ok (), t')) :
    ∃ u, step.perform t = (.ok (), u) ∧ performAll u none rest = (.ok (), t') := by
  rw [performAll] at h
  split at h
  · rename_i u hperform
    exact ⟨u, hperform, h⟩
  · cases h

theorem making_of_perform {path : String} {result : Except StoreError Unit}
    (h : perform t (.createDirectory path) = (result, t')) : t.Making path t' := by
  have hmaking := FileTree.making_makeDirectories t path (path.length + 1)
  rw [perform, FileTree.createDirectories] at h
  split at h
  all_goals
    rename_i u hmakes
    rw [hmakes] at hmaking
    exact (Prod.mk.inj h).2 ▸ hmaking

theorem write?_of_perform {path : String} {content : ByteArray}
    (h : perform t (.write path content) = (.ok (), t')) : t.write? path content = some t' := by
  rw [perform] at h
  split at h
  · rename_i hwrite
    rw [hwrite, (Prod.mk.inj h).2]
  · cases h

theorem eq_of_perform_write_error {path : String} {content : ByteArray}
    (h : perform t (.write path content) = (.error e, t')) : t' = t := by
  rw [perform] at h
  split at h
  · cases h
  · exact (Prod.mk.inj h).2.symm

theorem eq_of_perform_replace_error {source target : String}
    (h : perform t (.replace source target) = (.error e, t')) : t' = t := by
  rw [perform] at h
  split at h
  · cases h
  · exact (Prod.mk.inj h).2.symm

end SaveStep

namespace Store

variable {s : Store} {config : Channel.Config} {t u t' : FileTree} {name : List Char}
  {before : List (List Char)}

/-- A tree in which a save has made directories and nothing else. -/
inductive Prepares (s : Store) (t : FileTree) : FileTree → Prop where
  | start : Prepares s t t
  | making {parent : String} {u : FileTree} (hparent : Path.parent? s.path = some parent)
      (h : t.Making parent u) : Prepares s t u

/-- A tree that a save may leave that does not come to its end: directories have been made, and of
the temporary file some bytes, none or all of them have been written. -/
inductive Leaves (s : Store) (config : Channel.Config) (t : FileTree) : FileTree → Prop where
  | prepared {u : FileTree} (h : s.Prepares t u) : Leaves s config t u
  | written {u t' : FileTree} {n : Nat} (h : s.Prepares t u)
      (hwrite : u.write? s.temporaryPath (config.text.toUTF8.extract 0 n) = some t') :
      Leaves s config t t'

/-! ### The temporary path -/

/-- The temporary path never leads where the path leads. -/
theorem placeOf_temporaryPath_ne (hname : Path.name? s.path.toList = some (name, before))
    (t : FileTree) : t.placeOf s.temporaryPath ≠ t.placeOf s.path := by
  have hslash : '/' ∉ "json.tmp".toList := by decide
  obtain ⟨hvoid, hup, voids, hvoids, hpath⟩ := Path.segments_of_name? hname
  have horigin : t.origin s.temporaryPath = t.origin s.path := by
    rw [FileTree.origin, FileTree.origin, temporaryPath, Path.isAbsolute_beside hname hslash]
  have hplace : t.placeOf s.path =
      FileTree.walk (t.origin s.path) before.reverse ++ [String.ofList name] := by
    rw [FileTree.placeOf, hpath, FileTree.walk_append, FileTree.walk_cons,
      FileTree.enter_name _ hvoid hup, FileTree.walk_voids _ hvoids]
  rw [hplace, FileTree.placeOf, horigin, temporaryPath]
  rcases Path.segments_beside hname hslash with hbeside | ⟨kept, hkept, hbeside⟩
  · rw [hbeside, FileTree.walk_append, FileTree.walk_cons, FileTree.enter_name]
    · intro heq
      have hsame := String.ofList_injective (List.singleton_inj.1 (List.append_cancel_left heq))
      exact Path.stem_append_ne (by decide) hsame
    · exact Path.isVoid_append_dot (Path.stem_ne_nil (Path.ne_nil_of_isVoid hvoid)) _
    · intro heq
      have hlength := congrArg List.length heq
      rw [List.length_append, List.length_cons] at hlength
      have htext : "json.tmp".toList.length = 8 := by decide
      simp only [htext, List.length_cons, List.length_nil] at hlength
      omega
  · rw [hbeside, FileTree.walk_append, FileTree.walk_cons, FileTree.enter_up,
      FileTree.walk_voids _ hkept]
    intro heq
    have hlength := congrArg List.length heq
    simp only [List.length_dropLast, List.length_append, List.length_singleton] at hlength
    omega

/-! ### What has changed -/

theorem Prepares.grows (h : s.Prepares t u) : FileTree.Grows t u := by
  cases h with
  | start => exact .refl t
  | making _ h => exact h.grows

theorem Prepares.isClosed (h : s.Prepares t u) (hclosed : t.IsClosed) : u.IsClosed := by
  cases h with
  | start => exact hclosed
  | making _ h => exact h.isClosed hclosed

theorem Prepares.node?_placeOf (h : s.Prepares t u)
    (hname : Path.name? s.path.toList = some (name, before)) (hstraight : t.IsStraight s.path) :
    u.node? (t.placeOf s.path) = t.node? (t.placeOf s.path) := by
  cases h with
  | start => rfl
  | making hparent h => exact h.node?_placeOf hparent hname hstraight

theorem Leaves.keepsDirectories (h : s.Leaves config t t') : FileTree.KeepsDirectories t t' := by
  cases h with
  | prepared h => exact h.grows.keeps
  | written h hwrite =>
      obtain ⟨place, -, hfree, rfl⟩ := FileTree.write?_eq_some hwrite
      exact h.grows.keeps.trans (FileTree.keepsDirectories_put _ hfree)

theorem Leaves.node?_placeOf (h : s.Leaves config t t')
    (hname : Path.name? s.path.toList = some (name, before)) (hstraight : t.IsStraight s.path) :
    t'.node? (t.placeOf s.path) = t.node? (t.placeOf s.path) := by
  cases h with
  | prepared h => exact h.node?_placeOf hname hstraight
  | @written u t' n h hwrite =>
      rw [← h.node?_placeOf hname hstraight]
      obtain ⟨place, hplace, -, rfl⟩ := FileTree.write?_eq_some hwrite
      refine FileTree.node?_put_of_ne u ?_ _
      rw [← FileTree.eq_placeOf_of_locate hplace,
        ← FileTree.placeOf_of_keepsDirectories h.grows.keeps]
      exact (placeOf_temporaryPath_ne hname u).symm

/-- No file has changed but the temporary one. -/
theorem Leaves.file_iff (h : s.Leaves config t t') {place : Place}
    (hplace : t'.locate s.temporaryPath ≠ .ok place) (content : ByteArray) :
    t'.node? place = some (.file content) ↔ t.node? place = some (.file content) := by
  cases h with
  | prepared h => exact h.grows.file_iff place content
  | @written u t' n h hwrite =>
      obtain ⟨written, hwritten, hfree, rfl⟩ := FileTree.write?_eq_some hwrite
      have hne : place ≠ written := by
        rintro rfl
        exact hplace (FileTree.locate_of_keepsDirectories
          (FileTree.keepsDirectories_put _ hfree) hwritten)
      rw [FileTree.node?_put_of_ne u hne]
      exact h.grows.file_iff place content

/-! ### How a save ends -/

theorem leaves_of_write (h : s.Prepares t u) {disruption : Option Disruption} {e : StoreError}
    (hperform : SaveStep.performAll u disruption
      [.write s.temporaryPath config.text.toUTF8, .replace s.temporaryPath s.path] =
        (.error e, t')) : s.Leaves config t t' := by
  rcases SaveStep.performAll_cons_error hperform with
    ⟨bytes, rfl⟩ | ⟨e', hfailed⟩ | ⟨w, disruption', hwritten, hreplace⟩
  · rw [SaveStep.breakOff]
    cases hwrite : u.write? s.temporaryPath (config.text.toUTF8.extract 0 bytes) with
    | none => exact .prepared h
    | some w => exact .written h hwrite
  · rw [SaveStep.eq_of_perform_write_error hfailed]
    exact .prepared h
  · have hwrite := SaveStep.write?_of_perform hwritten
    rw [← ByteArray.extract_zero_size (b := config.text.toUTF8)] at hwrite
    -- the replacement either takes place or changes nothing
    have hleft : t' = w := by
      rcases SaveStep.performAll_cons_error hreplace with
        ⟨bytes, rfl⟩ | ⟨e', hfailed⟩ | ⟨moved, disruption'', -, hdone⟩
      · rfl
      · exact SaveStep.eq_of_perform_replace_error hfailed
      · cases hdone
    rw [hleft]
    exact .written h hwrite

/-- Whatever a save fails of, and wherever it is broken off, it leaves one of these trees. -/
theorem leaves_of_save_error {disruption : Option Disruption} {e : StoreError}
    (h : s.save config disruption t = (.error e, t')) : s.Leaves config t t' := by
  rw [save, saveSteps] at h
  cases hparent : Path.parent? s.path with
  | none =>
      rw [hparent] at h
      exact leaves_of_write .start h
  | some parent =>
      rw [hparent] at h
      rcases SaveStep.performAll_cons_error h with
        ⟨bytes, rfl⟩ | ⟨e', hfailed⟩ | ⟨u, disruption', hmade, hrest⟩
      · exact .prepared .start
      · exact .prepared (.making hparent (SaveStep.making_of_perform hfailed))
      · exact leaves_of_write (.making hparent (SaveStep.making_of_perform hmade)) hrest

/-! ### The end of a save -/

/-- A save that succeeds has written the temporary file and moved it. -/
theorem exists_of_save_ok {disruption : Option Disruption}
    (h : s.save config disruption t = (.ok (), t')) :
    ∃ u w, s.Prepares t u ∧ u.write? s.temporaryPath config.text.toUTF8 = some w ∧
      w.rename? s.temporaryPath s.path = some t' := by
  have hsteps := SaveStep.performAll_none_of_ok h
  rw [saveSteps] at hsteps
  cases hparent : Path.parent? s.path with
  | none =>
      rw [hparent] at hsteps
      obtain ⟨w, hwrite, hrename⟩ := SaveStep.exists_of_performAll hsteps
      exact ⟨t, w, .start, hwrite, hrename⟩
  | some parent =>
      rw [hparent] at hsteps
      obtain ⟨u, hmade, hrest⟩ := SaveStep.performAll_cons_ok hsteps
      obtain ⟨w, hwrite, hrename⟩ := SaveStep.exists_of_performAll hrest
      exact ⟨u, w, .making hparent (SaveStep.making_of_perform hmade), hwrite, hrename⟩

/-- A save that succeeds leaves no temporary file. -/
theorem exists?_temporaryPath_of_save_ok (hname : Path.name? s.path.toList = some (name, before))
    {disruption : Option Disruption} (h : s.save config disruption t = (.ok (), t')) :
    t'.exists? s.temporaryPath = false := by
  obtain ⟨u, w, -, -, hrename⟩ := exists_of_save_ok h
  exact FileTree.exists?_of_rename? hrename (placeOf_temporaryPath_ne hname w)

theorem Leaves.isClosed (h : s.Leaves config t t') (hclosed : t.IsClosed) : t'.IsClosed := by
  cases h with
  | prepared h => exact h.isClosed hclosed
  | written h hwrite => exact (h.isClosed hclosed).write? hwrite

/-- A closed tree stays closed, however a save ends. -/
theorem isClosed_of_save (hclosed : t.IsClosed) {disruption : Option Disruption}
    {result : Except StoreError Unit} (h : s.save config disruption t = (result, t')) :
    t'.IsClosed := by
  cases result with
  | error e => exact (leaves_of_save_error h).isClosed hclosed
  | ok =>
      obtain ⟨u, w, hprepares, hwrite, hrename⟩ := exists_of_save_ok h
      exact ((hprepares.isClosed hclosed).write? hwrite).rename? hrename

theorem readStored_congr (h : t'.at? s.path = t.at? s.path) : s.readStored t' = s.readStored t := by
  rw [readStored, readStored, FileTree.read?, FileTree.read?, h]

/-- For a path that has a name, in a closed tree, which like every tree holds no links, symbolic or
hard. Wherever a save fails or is broken off, it leaves every file but the temporary one as it was,
and neither path leads where the other does. A straight path then leads to what it led to before, so
that the same config is read and loaded, or there is still none. A save that succeeds leaves just
the text of the config at the path, and no temporary file. -/
theorem stored_after_save (hname : Path.name? s.path.toList ≠ none) (hclosed : t.IsClosed)
    (config : Channel.Config) :
    (∀ disruption e t', s.save config disruption t = (.error e, t') → s.Leaves config t t') ∧
    (∀ t', s.Leaves config t t' → t'.IsClosed ∧
      (t.IsStraight s.path →
        t'.at? s.path = t.at? s.path ∧ s.readStored t' = s.readStored t ∧
          (t.exists? s.path = true → ∀ disruption,
            s.load disruption t' = (s.readStored t, t'))) ∧
      ∀ place content, t'.locate s.temporaryPath ≠ .ok place →
        (t'.node? place = some (.file content) ↔ t.node? place = some (.file content))) ∧
    (∀ disruption t', s.save config disruption t = (.ok (), t') →
      t'.IsClosed ∧ t'.read? s.path = some config.text.toUTF8 ∧
        t'.exists? s.temporaryPath = false) ∧
    s.temporaryPath ≠ s.path ∧
    ∀ (u : FileTree) place, u.locate s.temporaryPath = .ok place → u.locate s.path ≠ .ok place := by
  obtain ⟨⟨name, before⟩, hname⟩ := Option.ne_none_iff_exists'.1 hname
  refine ⟨fun disruption e t' => leaves_of_save_error,
    fun t' hleaves => ⟨hleaves.isClosed hclosed, fun hstraight => ?_,
      fun place content hplace => hleaves.file_iff hplace content⟩,
    fun disruption t' hsave => ⟨isClosed_of_save hclosed hsave, read?_of_save_ok hsave,
      exists?_temporaryPath_of_save_ok hname hsave⟩,
    fun hsame => ?_, fun u place htemporary hpath => ?_⟩
  · have hat : t'.at? s.path = t.at? s.path := hstraight.at?_of_keepsDirectories hclosed
      hleaves.keepsDirectories (hleaves.node?_placeOf hname hstraight)
    refine ⟨hat, readStored_congr hat, fun hexists disruption => ?_⟩
    have hexists' : t'.exists? s.path = true := by
      rw [FileTree.exists?, hat]
      exact hexists
    rw [load, if_pos hexists', readStored_congr hat]
  · exact placeOf_temporaryPath_ne hname t (congrArg t.placeOf hsame)
  · refine placeOf_temporaryPath_ne hname u ?_
    rw [FileTree.eq_placeOf_of_locate htemporary, FileTree.eq_placeOf_of_locate hpath]

/-- A disk gives up after five bytes of the temporary file. -/
theorem stored_after_save_five_bytes :
    let s : Store := ⟨"channels/main.json"⟩
    let t := ((FileTree.empty []).put ["channels"] .directory).put ["channels", "main.json"]
      (.file Channel.Config.initial.text.toUTF8)
    let changed : Channel.Config := { Channel.Config.initial with sigil := "!" }
    ∃ e t', s.save changed (some ⟨1, 5⟩) t = (.error e, t') ∧
      t'.exists? s.temporaryPath = true ∧ s.load none t' = (.ok .initial, t') := by
  intro s t changed
  have hclosed : t.IsClosed := by
    have hchannels : ((FileTree.empty []).put ["channels"] .directory).IsClosed :=
      (FileTree.isClosed_empty []).put [] "channels" rfl
        (FileTree.keepsDirectories_put_directory _ (List.cons_ne_nil _ _))
    exact hchannels.put ["channels"] "main.json" rfl
      (FileTree.keepsDirectories_put _ fun hnode => nomatch hnode)
  have hlocate : (t.locate s.path).toOption = some ["channels", "main.json"] := by decide +kernel
  have hat : t.at? s.path = some (.file Channel.Config.initial.text.toUTF8) := by
    rw [FileTree.at?, hlocate]
    exact FileTree.node?_put_self (List.cons_ne_nil _ _) _
  have hstored : t.read? s.path = some Channel.Config.initial.text.toUTF8 := by
    rw [FileTree.read?, hat]
  have hfails : (s.save changed (some ⟨1, 5⟩) t).1.toOption = none := by decide +kernel
  have hbegun : (s.save changed (some ⟨1, 5⟩) t).2.exists? s.temporaryPath = true := by
    decide +kernel
  cases hsave : s.save changed (some ⟨1, 5⟩) t with
  | mk result t' =>
      rw [hsave] at hfails hbegun
      cases result with
      | ok => cases hfails
      | error e =>
          obtain ⟨hleaves, hkept, -⟩ := stored_after_save (s := s) (by decide) hclosed changed
          obtain ⟨-, hstraight, -⟩ := hkept t' (hleaves _ e t' hsave)
          have hload := (hstraight (FileTree.isStraight_of_not_mem (by decide))).2.2
            (FileTree.exists?_of_read? hstored) none
          refine ⟨e, t', rfl, hbegun, ?_⟩
          rw [hload, readStored_of_read? hstored Channel.Config.read?_text_initial]

/-- The directory `sub` is missing, so a path out of it leads nowhere. A save fails of the directory
that stands at the temporary path, but has made `sub`: now the path leads to a file that was there
all along, and the config in it is read. -/
theorem stored_after_save_step_back :
    let s : Store := ⟨"sub/../main.json"⟩
    let t := ((FileTree.empty []).put ["main.json.tmp"] .directory).put ["main.json"]
      (.file Channel.Config.initial.text.toUTF8)
    let changed : Channel.Config := { Channel.Config.initial with sigil := "!" }
    Path.name? s.path.toList ≠ none ∧ t.IsClosed ∧
      ∃ e t', s.save changed none t = (.error e, t') ∧
        t.exists? s.path = false ∧ s.readStored t = .error (.read s.path) ∧
        t'.exists? s.path = true ∧ s.readStored t' = .ok .initial := by
  intro s t changed
  have hclosed : t.IsClosed := by
    have htemporary : ((FileTree.empty []).put ["main.json.tmp"] .directory).IsClosed :=
      (FileTree.isClosed_empty []).put [] "main.json.tmp" rfl
        (FileTree.keepsDirectories_put_directory _ (List.cons_ne_nil _ _))
    exact htemporary.put [] "main.json" rfl
      (FileTree.keepsDirectories_put _ fun hnode => nomatch hnode)
  have hmissing : t.exists? s.path = false := by decide +kernel
  have hunread : t.read? s.path = none := by decide +kernel
  have hfails : (s.save changed none t).1.toOption = none := by decide +kernel
  have hfound : ((s.save changed none t).2.locate s.path).toOption = some ["main.json"] := by
    decide +kernel
  have htemporary : ((s.save changed none t).2.locate s.temporaryPath).toOption =
      some ["main.json.tmp"] := by decide +kernel
  refine ⟨by decide, hclosed, ?_⟩
  cases hsave : s.save changed none t with
  | mk result t' =>
      rw [hsave] at hfails hfound htemporary
      cases result with
      | ok => cases hfails
      | error e =>
          have hplace : t'.locate s.temporaryPath ≠ .ok ["main.json"] := by
            intro hplace
            rw [hplace] at htemporary
            exact absurd (Option.some.inj htemporary) (by decide)
          have hnode : t'.node? ["main.json"] = some (.file Channel.Config.initial.text.toUTF8) :=
            ((leaves_of_save_error hsave).file_iff hplace _).2
              (FileTree.node?_put_self (List.cons_ne_nil _ _) _)
          have hread : t'.read? s.path = some Channel.Config.initial.text.toUTF8 := by
            rw [FileTree.read?, FileTree.at?, hfound, Option.bind_some, hnode]
          refine ⟨e, t', rfl, hmissing, ?_, FileTree.exists?_of_read? hread,
            readStored_of_read? hread Channel.Config.read?_text_initial⟩
          rw [readStored, hunread]
          rfl

end Store

end CommandBot
