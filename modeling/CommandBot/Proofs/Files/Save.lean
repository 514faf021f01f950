import CommandBot.Channel.Store

/-!
# What a save leaves behind

A save that succeeds leaves the text of the config at the path of the store (`read?_of_save_ok`),
whatever stood there before. The one thing to see is that the path still leads to the same place
after the write and the replacement: neither of them touches a directory, and following a path
depends on directories only (`locate_of_keepsDirectories`).
-/

namespace CommandBot

namespace FileTree

/-- What is a directory stays one, and the working directory stays the same. -/
structure KeepsDirectories (t t' : FileTree) : Prop where
  workingDirectory : t'.workingDirectory = t.workingDirectory
  directory : ∀ place, t.node? place = some .directory → t'.node? place = some .directory

theorem KeepsDirectories.trans {t t' t'' : FileTree} (h : KeepsDirectories t t')
    (h' : KeepsDirectories t' t'') : KeepsDirectories t t'' :=
  ⟨h'.workingDirectory.trans h.workingDirectory,
    fun place hplace => h'.directory place (h.directory place hplace)⟩

theorem ne_of_directory {t : FileTree} {place other : Place}
    (hother : t.node? other = some .directory) (h : t.node? place ≠ some .directory) :
    other ≠ place := by
  rintro rfl
  exact h hother

theorem node?_erase_self (t : FileTree) {place : Place} (h : place ≠ []) :
    (t.erase place).node? place = none := by
  rw [node?, if_neg h, erase, List.lookup_eq_none_iff]
  intro e he
  have hne := (List.mem_filter.1 he).2
  simpa using Ne.symm (of_decide_eq_true hne)

theorem keepsDirectories_put {t : FileTree} {place : Place} (node : FileNode)
    (h : t.node? place ≠ some .directory) : KeepsDirectories t (t.put place node) := by
  refine ⟨rfl, fun other hother => ?_⟩
  rw [node?_put_of_ne t (ne_of_directory hother h)]
  exact hother

theorem keepsDirectories_erase {t : FileTree} {place : Place}
    (h : t.node? place ≠ some .directory) : KeepsDirectories t (t.erase place) := by
  refine ⟨rfl, fun other hother => ?_⟩
  rw [node?_erase_of_ne t (ne_of_directory hother h)]
  exact hother

theorem follow_of_keepsDirectories {t t' : FileTree} (h : KeepsDirectories t t')
    {place target : Place} {segments : List (List Char)}
    (hfollow : t.follow place segments = .ok target) : t'.follow place segments = .ok target := by
  induction segments generalizing place with
  | nil => exact hfollow
  | cons segment rest ih =>
      rw [follow] at hfollow ⊢
      cases hnode : t.node? place with
      | none => simp [hnode] at hfollow
      | some node =>
          cases node with
          | file content => simp [hnode] at hfollow
          | directory =>
              rw [hnode] at hfollow
              rw [h.directory place hnode]
              simp only at hfollow ⊢
              split at hfollow
              · rename_i hvoid
                rw [if_pos hvoid]
                exact ih hfollow
              · rename_i hvoid
                rw [if_neg hvoid]
                split at hfollow
                · rename_i hup
                  rw [if_pos hup]
                  exact ih hfollow
                · rename_i hup
                  rw [if_neg hup]
                  split at hfollow
                  · cases hfollow
                  · rename_i hlong
                    rw [if_neg hlong]
                    exact ih hfollow

theorem locate_of_keepsDirectories {t t' : FileTree} (h : KeepsDirectories t t') {path : String}
    {target : Place} (hlocate : t.locate path = .ok target) : t'.locate path = .ok target := by
  unfold locate at hlocate ⊢
  split at hlocate
  · cases hlocate
  split at hlocate
  · cases hlocate
  split at hlocate
  · cases hlocate
  rename_i hnull hempty hlong
  rw [if_neg hnull, if_neg hempty, if_neg hlong, h.workingDirectory]
  split at hlocate
  · rename_i habsolute
    rw [if_pos habsolute]
    exact follow_of_keepsDirectories h hlocate
  · rename_i habsolute
    rw [if_neg habsolute]
    exact follow_of_keepsDirectories h hlocate

theorem write?_eq_some {t t' : FileTree} {path : String} {content : ByteArray}
    (h : t.write? path content = some t') :
    ∃ place, t.locate path = .ok place ∧ t.node? place ≠ some .directory ∧
      t' = t.put place (.file content) := by
  unfold write? at h
  split at h
  · cases h
  · rename_i place hplace
    split at h
    · cases h
    · rename_i hnode
      exact ⟨place, hplace, fun hdir => hnode hdir, (Option.some.inj h).symm⟩

theorem rename?_eq_some {t t' : FileTree} {source target : String}
    (h : t.rename? source target = some t') :
    ∃ old new content, t.locate source = .ok old ∧ t.locate target = .ok new ∧
      t.node? old = some (.file content) ∧ t.node? new ≠ some .directory ∧
      t' = (t.erase old).put new (.file content) := by
  unfold rename? at h
  split at h
  · rename_i old new hold hnew
    split at h
    · cases h
    · rename_i content hcontent hdir
      exact ⟨old, new, content, hold, hnew, hcontent, hdir,
        (Option.some.inj h).symm⟩
    · cases h
  · cases h

theorem ne_nil_of_not_directory {t : FileTree} {place : Place}
    (h : t.node? place ≠ some .directory) : place ≠ [] := by
  rintro rfl
  exact h rfl

theorem not_directory_erase {t : FileTree} {other : Place}
    (h : t.node? other ≠ some .directory) (place : Place) :
    (t.erase place).node? other ≠ some .directory := by
  by_cases hsame : other = place
  · rw [← hsame, node?_erase_self t (ne_nil_of_not_directory h)]
    simp
  · rw [node?_erase_of_ne t hsame]
    exact h

theorem read?_eq_some {t : FileTree} {path : String} {place : Place} {content : ByteArray}
    (hplace : t.locate path = .ok place) (hnode : t.node? place = some (.file content)) :
    t.read? path = some content := by
  simp [read?, at?, hplace, hnode, Except.toOption]

theorem exists?_of_read? {t : FileTree} {path : String} {content : ByteArray}
    (h : t.read? path = some content) : t.exists? path = true := by
  unfold read? at h
  cases hnode : t.at? path with
  | none => simp [hnode] at h
  | some node => simp [exists?, hnode]

/-- A file that is written and then moved stands where it was moved to. -/
theorem read?_of_write?_of_rename? {t t₁ t₂ : FileTree} {source target : String}
    {content : ByteArray} (hwrite : t.write? source content = some t₁)
    (hrename : t₁.rename? source target = some t₂) : t₂.read? target = some content := by
  obtain ⟨place, hplace, hfree, rfl⟩ := write?_eq_some hwrite
  obtain ⟨old, new, moved, hold, hnew, hmoved, hdir, rfl⟩ := rename?_eq_some hrename
  have hput := keepsDirectories_put (.file content) hfree
  -- the source still leads to the place that has been written
  have hsame : old = place := by
    rw [locate_of_keepsDirectories hput hplace] at hold
    exact (Except.ok.inj hold).symm
  subst hsame
  rw [node?_put_self (ne_nil_of_not_directory hfree)] at hmoved
  obtain rfl := FileNode.file.inj (Option.some.inj hmoved)
  have hold' : (t.put old (.file content)).node? old ≠ some .directory := by
    rw [node?_put_self (ne_nil_of_not_directory hfree)]
    simp
  have herase := keepsDirectories_erase hold'
  have hkeeps :=
    herase.trans (keepsDirectories_put (.file content) (not_directory_erase hdir old))
  exact read?_eq_some (locate_of_keepsDirectories hkeeps hnew)
    (node?_put_self (ne_nil_of_not_directory hdir) _)

end FileTree

namespace SaveStep

/-- A disruption only ever stops a save: one that succeeds went as without it. -/
theorem performAll_none_of_ok {t t' : FileTree} {disruption : Option Disruption}
    {steps : List SaveStep} (h : performAll t disruption steps = (.ok (), t')) :
    performAll t none steps = (.ok (), t') := by
  induction steps generalizing t disruption with
  | nil => exact h
  | cons step rest ih =>
      cases disruption with
      | none => exact h
      | some d =>
          obtain ⟨n, bytes⟩ := d
          cases n with
          | zero => simp [performAll] at h
          | succ n =>
              simp only [performAll] at h ⊢
              split at h
              · exact ih h
              · cases h

theorem performAll_none_append {t t' : FileTree} {before after : List SaveStep}
    (h : performAll t none (before ++ after) = (.ok (), t')) :
    ∃ t₁, performAll t₁ none after = (.ok (), t') := by
  induction before generalizing t with
  | nil => exact ⟨t, h⟩
  | cons step rest ih =>
      simp only [List.cons_append, performAll] at h
      split at h
      · exact ih h
      · cases h

/-- A write and a replacement that succeed have written and moved a file. -/
theorem exists_of_performAll {t t' : FileTree} {source target : String} {content : ByteArray}
    (h : performAll t none [.write source content, .replace source target] = (.ok (), t')) :
    ∃ t₁, t.write? source content = some t₁ ∧ t₁.rename? source target = some t' := by
  simp only [performAll, perform] at h
  cases hwrite : t.write? source content with
  | none => simp [hwrite] at h
  | some t₁ =>
      simp only [hwrite] at h
      cases hrename : t₁.rename? source target with
      | none => simp [hrename] at h
      | some t₂ =>
          simp only [hrename, Prod.mk.injEq, true_and] at h
          exact ⟨t₁, rfl, h ▸ hrename⟩

end SaveStep

namespace Store

/-- A save that succeeds leaves the text of the config at the path. -/
theorem read?_of_save_ok {s : Store} {config : Channel.Config} {disruption : Option Disruption}
    {t t' : FileTree} (h : s.save config disruption t = (.ok (), t')) :
    t'.read? s.path = some config.text.toUTF8 := by
  obtain ⟨t₁, hlast⟩ := SaveStep.performAll_none_append (SaveStep.performAll_none_of_ok h)
  obtain ⟨t₂, hwrite, hrename⟩ := SaveStep.exists_of_performAll hlast
  exact FileTree.read?_of_write?_of_rename? hwrite hrename

/-- A disk that gives up at once leaves all as it was. -/
theorem save_of_disrupted_at_once {s : Store} {config : Channel.Config} {bytes : Nat}
    {t : FileTree} {parent : String} (h : Path.parent? s.path = some parent) :
    s.save config (some ⟨0, bytes⟩) t = (.error (.create parent), t) := by
  rw [save, saveSteps, h]
  rfl

theorem fromUTF8?_toUTF8 (text : String) : String.fromUTF8? text.toUTF8 = some text := by
  have hvalid : text.toUTF8.IsValidUTF8 := text.isValidUTF8
  rw [String.fromUTF8?, dif_pos hvalid]
  rfl

theorem readStored_of_read? {s : Store} {config stored : Channel.Config} {t : FileTree}
    (h : t.read? s.path = some config.text.toUTF8)
    (hread : Channel.Config.read? config.text = some stored) : s.readStored t = .ok stored := by
  rw [readStored, h, Option.bind_some, fromUTF8?_toUTF8]
  simp only [hread]

theorem readStored_of_save_ok {s : Store} {config stored : Channel.Config}
    {disruption : Option Disruption} {t t' : FileTree}
    (h : s.save config disruption t = (.ok (), t'))
    (hread : Channel.Config.read? config.text = some stored) : s.readStored t' = .ok stored :=
  readStored_of_read? (read?_of_save_ok h) hread

theorem exists?_of_readStored {s : Store} {t : FileTree} {config : Channel.Config}
    (h : s.readStored t = .ok config) : t.exists? s.path = true := by
  cases hread : t.read? s.path with
  | none => simp [readStored, hread] at h
  | some content => exact FileTree.exists?_of_read? hread

theorem load_of_readStored {s : Store} {t : FileTree} {config : Channel.Config}
    (h : s.readStored t = .ok config) (disruption : Option Disruption) :
    s.load disruption t = (.ok config, t) := by
  rw [load, if_pos (exists?_of_readStored h), h]

/-- Where there is no config yet, that of a new channel is saved and loaded. -/
theorem load_of_save_ok {s : Store} {disruption : Option Disruption} {t t' : FileTree}
    (hnew : t.exists? s.path = false) (hsave : s.save .initial disruption t = (.ok (), t')) :
    s.load disruption t = (.ok .initial, t') := by
  rw [load, if_neg (by simp [hnew]), hsave]

/-- What has been loaded is what is stored then, also if it had to be saved first. -/
theorem readStored_of_load_ok {s : Store} {disruption : Option Disruption} {t t' : FileTree}
    {config : Channel.Config} (h : s.load disruption t = (.ok config, t'))
    (hread : Channel.Config.read? config.text = some config) : s.readStored t' = .ok config := by
  unfold load at h
  split at h
  · obtain ⟨hstored, rfl⟩ := Prod.mk.inj h
    exact hstored
  · split at h
    · rename_i t₁ hsave
      obtain ⟨hconfig, rfl⟩ := Prod.mk.inj h
      rw [Except.ok.inj hconfig] at hsave
      exact readStored_of_save_ok hsave hread
    · cases (Prod.mk.inj h).1

end Store

end CommandBot
