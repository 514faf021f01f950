import CommandBot.Proofs.Files.Path
import CommandBot.Proofs.Files.Save

/-!
# Where paths lead

There are no links in a tree, so the place that a path leads to, if it leads anywhere, depends on
the path and the working directory alone (`walk`); the tree only decides whether the way is open,
which it is as long as a directory stands wherever a segment is entered from
(`follow_eq_ok_iff`). In a closed tree, where all that stands at a place stands in a directory, what
a path leads to stays the same when directories are added elsewhere (`at?_of_keepsDirectories`),
unless the path steps back out of a directory that was missing (`IsStraight`): such a path leads
nowhere until the directory is made.
-/

namespace CommandBot.FileTree

variable {t t' : FileTree} {path : String} {place target : Place} {segment : List Char}
  {segments : List (List Char)}

/-! ### Places without a tree -/

/-- The place that a segment leads to from another. -/
def enter (place : Place) (segment : List Char) : Place :=
  if Path.isVoid segment then place
  else if segment = ['.', '.'] then place.dropLast
  else place ++ [String.ofList segment]

/-- The place that segments lead to from another. -/
def walk (place : Place) (segments : List (List Char)) : Place := segments.foldl enter place

/-- Where a path starts. -/
def origin (t : FileTree) (path : String) : Place :=
  if Path.isAbsolute path.toList then [] else t.workingDirectory

theorem walk_append (place : Place) (before after : List (List Char)) :
    walk place (before ++ after) = walk (walk place before) after := List.foldl_append

theorem walk_cons (place : Place) (segment : List Char) (rest : List (List Char)) :
    walk place (segment :: rest) = walk (enter place segment) rest := rfl

theorem enter_name (place : Place) (hvoid : Path.isVoid segment = false)
    (hup : segment ≠ ['.', '.']) : enter place segment = place ++ [String.ofList segment] := by
  simp [enter, hvoid, hup]

theorem enter_up (place : Place) : enter place ['.', '.'] = place.dropLast := rfl

theorem walk_voids (place : Place) (h : ∀ segment ∈ segments, Path.isVoid segment = true) :
    walk place segments = place := by
  induction segments with
  | nil => rfl
  | cons segment rest ih =>
      rw [walk_cons, enter, if_pos (h segment List.mem_cons_self)]
      exact ih fun s hs => h s (List.mem_cons_of_mem _ hs)

/-- Segments without a step back only lead further. -/
theorem prefix_walk (place : Place) (h : ['.', '.'] ∉ segments) :
    place <+: walk place segments := by
  induction segments generalizing place with
  | nil => exact List.prefix_rfl
  | cons segment rest ih =>
      have hrest := ih (enter place segment) fun hmem => h (List.mem_cons_of_mem _ hmem)
      have hup : segment ≠ ['.', '.'] := fun heq => h (heq ▸ List.mem_cons_self)
      refine List.IsPrefix.trans ?_ hrest
      rw [enter, if_neg hup]
      split
      · exact List.prefix_rfl
      · exact List.prefix_append _ _

/-! ### The way -/

theorem size_of_isVoid (h : Path.isVoid segment = true) :
    (String.ofList segment).utf8ByteSize ≤ maxNameBytes := by
  rcases Bool.or_eq_true_iff.1 h with hempty | hdot
  · rw [List.isEmpty_iff.1 hempty]
    decide
  · rw [beq_iff_eq.1 hdot]
    decide

theorem follow_cons_eq_ok_iff (t : FileTree) (place target : Place) (segment : List Char)
    (rest : List (List Char)) :
    t.follow place (segment :: rest) = .ok target ↔
      t.node? place = some .directory ∧ (String.ofList segment).utf8ByteSize ≤ maxNameBytes ∧
        t.follow (enter place segment) rest = .ok target := by
  rw [follow, enter]
  cases hnode : t.node? place with
  | none => simp
  | some node =>
      cases node with
      | file content => simp
      | directory =>
          simp only [true_and]
          by_cases hvoid : Path.isVoid segment = true
          · simp [hvoid, size_of_isVoid hvoid]
          · by_cases hup : segment = ['.', '.']
            · subst hup
              have hsize : (String.ofList ['.', '.']).utf8ByteSize ≤ maxNameBytes := by decide
              simp [hvoid, hsize]
            · by_cases hlong : maxNameBytes < (String.ofList segment).utf8ByteSize
              · simp [hvoid, hup, hlong, Nat.not_le.2 hlong]
              · simp [hvoid, hup, hlong, Nat.not_lt.1 hlong]

/-- The way is open as long as a directory stands wherever a segment is entered from. -/
theorem follow_eq_ok_iff (t : FileTree) (place target : Place) (segments : List (List Char)) :
    t.follow place segments = .ok target ↔
      walk place segments = target ∧
        ∀ before segment after, segments = before ++ segment :: after →
          t.node? (walk place before) = some .directory ∧
            (String.ofList segment).utf8ByteSize ≤ maxNameBytes := by
  induction segments generalizing place with
  | nil => simp [follow, walk]
  | cons first rest ih =>
      rw [follow_cons_eq_ok_iff, ih]
      constructor
      · rintro ⟨hnode, hsize, htarget, hway⟩
        refine ⟨htarget, fun before segment after hsplit => ?_⟩
        cases before with
        | nil =>
            obtain ⟨rfl, -⟩ := List.cons.inj hsplit
            exact ⟨hnode, hsize⟩
        | cons first' before =>
            obtain ⟨rfl, hrest⟩ := List.cons.inj hsplit
            exact hway before segment after hrest
      · rintro ⟨htarget, hway⟩
        obtain ⟨hnode, hsize⟩ := hway [] first rest rfl
        exact ⟨hnode, hsize, htarget, fun before segment after hrest =>
          hway (first :: before) segment after (by rw [hrest]; rfl)⟩

/-- A path that can lead anywhere at all. -/
structure IsUsable (path : String) : Prop where
  noNull : path.toList.any (·.toNat == 0) = false
  nonempty : path.isEmpty = false
  short : path.utf8ByteSize ≤ maxPathBytes

theorem locate_eq_ok_iff (t : FileTree) (path : String) (place : Place) :
    t.locate path = .ok place ↔
      IsUsable path ∧ t.follow (t.origin path) (Path.segments path.toList) = .ok place := by
  unfold locate origin
  split
  · rename_i hnull
    exact ⟨fun h => (nomatch h), fun h => by rw [h.1.noNull] at hnull; cases hnull⟩
  split
  · rename_i hempty
    exact ⟨fun h => (nomatch h), fun h => by rw [h.1.nonempty] at hempty; cases hempty⟩
  split
  · rename_i hlong
    exact ⟨fun h => (nomatch h), fun h => absurd h.1.short (Nat.not_le.2 hlong)⟩
  rename_i hnull hempty hlong
  have husable : IsUsable path :=
    ⟨Bool.eq_false_iff.2 hnull, Bool.eq_false_iff.2 hempty, Nat.not_lt.1 hlong⟩
  split <;> simp [husable]

/-- The place that a path leads to if it leads anywhere. -/
def placeOf (t : FileTree) (path : String) : Place :=
  walk (t.origin path) (Path.segments path.toList)

theorem eq_placeOf_of_locate (h : t.locate path = .ok place) : t.placeOf path = place :=
  ((follow_eq_ok_iff ..).1 ((locate_eq_ok_iff ..).1 h).2).1

/-! ### Closed trees -/

/-- All that stands at a place stands in a directory. -/
def IsClosed (t : FileTree) : Prop :=
  ∀ place name, t.node? (place ++ [name]) ≠ none → t.node? place = some .directory

theorem IsClosed.of_append (h : t.IsClosed) {rest : Place} (hne : rest ≠ [])
    (hnode : t.node? (place ++ rest) ≠ none) : t.node? place = some .directory := by
  induction rest generalizing place with
  | nil => exact absurd rfl hne
  | cons name rest ih =>
      refine h place name ?_
      cases rest with
      | nil => exact hnode
      | cons next rest =>
          rw [ih (List.cons_ne_nil _ _) (by rwa [List.append_assoc])]
          exact Option.some_ne_none _

theorem IsClosed.dropLast (h : t.IsClosed) (hnode : t.node? place = some .directory) :
    t.node? place.dropLast = some .directory := by
  rcases List.eq_nil_or_concat place with rfl | ⟨parent, name, rfl⟩
  · exact hnode
  · rw [List.concat_eq_append] at hnode ⊢
    rw [List.dropLast_concat]
    exact h parent name (by rw [hnode]; exact Option.some_ne_none _)

/-- What is led to, and is no directory, is led to from its directory by its name. -/
theorem IsClosed.exists_of_follow (h : t.IsClosed) (hne : segments ≠ [])
    (hfollow : t.follow place segments = .ok target) (hnode : t.node? target ≠ some .directory) :
    ∃ parent name, target = parent ++ [name] ∧ t.node? parent = some .directory := by
  obtain ⟨htarget, hway⟩ := (follow_eq_ok_iff ..).1 hfollow
  obtain ⟨before, last, rfl⟩ := (List.eq_nil_or_concat segments).resolve_left hne
  rw [List.concat_eq_append] at htarget hway
  have hdirectory := (hway before last [] rfl).1
  rw [walk_append, walk_cons, enter] at htarget
  split at htarget
  · exact absurd (htarget ▸ hdirectory) hnode
  · split at htarget
    · exact absurd (htarget ▸ h.dropLast hdirectory) hnode
    · exact ⟨_, _, htarget.symm, hdirectory⟩

/-- Something is put in a directory, and no directory is lost. -/
theorem IsClosed.put (h : t.IsClosed) (place : Place) (name : String) {node : FileNode}
    (hparent : t.node? place = some .directory)
    (hkeeps : KeepsDirectories t (t.put (place ++ [name]) node)) :
    (t.put (place ++ [name]) node).IsClosed := by
  intro parent other hnode
  refine hkeeps.directory parent ?_
  by_cases hsame : parent ++ [other] = place ++ [name]
  · obtain ⟨rfl, -⟩ := List.append_inj' hsame rfl
    exact hparent
  · rw [node?_put_of_ne t hsame] at hnode
    exact h parent other hnode

theorem keepsDirectories_put_directory (t : FileTree) (hne : place ≠ []) :
    KeepsDirectories t (t.put place .directory) := by
  refine ⟨rfl, fun other hother => ?_⟩
  by_cases hsame : other = place
  · rw [hsame, node?_put_self hne]
  · rw [node?_put_of_ne t hsame, hother]

theorem IsClosed.putDirectories (h : t.IsClosed) (hplace : t.node? place = some .directory)
    (rest : Place) : (t.putDirectories place rest).IsClosed := by
  induction rest generalizing t place with
  | nil => exact h
  | cons name rest ih =>
      have hne : place ++ [name] ≠ [] := by simp
      have hput := h.put place name hplace (keepsDirectories_put_directory t hne)
      exact ih hput (node?_put_self hne _)

theorem isClosed_empty (workingDirectory : Place) : (empty workingDirectory).IsClosed := by
  refine IsClosed.putDirectories (fun place name hnode => ?_) rfl _
  simp [node?] at hnode

theorem IsClosed.erase (h : t.IsClosed) (hfile : t.node? place ≠ some .directory) :
    (t.erase place).IsClosed := by
  intro parent name hnode
  refine (keepsDirectories_erase hfile).directory parent (h parent name ?_)
  by_cases hsame : parent ++ [name] = place
  · rw [hsame, node?_erase_self t (hsame ▸ by simp)] at hnode
    exact absurd rfl hnode
  · rwa [node?_erase_of_ne t hsame] at hnode

/-- What is put where a path leads that no directory stands at is put in a directory. -/
theorem IsClosed.put_of_follow (h : t.IsClosed) (hne : segments ≠ [])
    (hfollow : t.follow place segments = .ok target) (hfree : t.node? target ≠ some .directory)
    (node : FileNode) : (t.put target node).IsClosed := by
  obtain ⟨parent, name, rfl, hparent⟩ := h.exists_of_follow hne hfollow hfree
  exact h.put parent name hparent (keepsDirectories_put node hfree)

theorem IsClosed.write? (h : t.IsClosed) {content : ByteArray}
    (hwrite : t.write? path content = some t') : t'.IsClosed := by
  obtain ⟨place, hplace, hfree, rfl⟩ := write?_eq_some hwrite
  exact h.put_of_follow (Path.segments_ne_nil _) ((locate_eq_ok_iff ..).1 hplace).2 hfree _

theorem IsClosed.rename? (h : t.IsClosed) {source destination : String}
    (hrename : t.rename? source destination = some t') : t'.IsClosed := by
  obtain ⟨old, new, content, -, hnew, hfile, hfree, rfl⟩ := rename?_eq_some hrename
  have hold : t.node? old ≠ some .directory := by
    rw [hfile]
    simp
  obtain ⟨parent, name, rfl, hparent⟩ :=
    h.exists_of_follow (Path.segments_ne_nil _) ((locate_eq_ok_iff ..).1 hnew).2 hfree
  have hkeeps := keepsDirectories_erase hold
  exact (h.erase hold).put parent name (hkeeps.directory parent hparent)
    (keepsDirectories_put _ (not_directory_erase hfree old))

/-! ### Paths that stay where they are -/

/-- At every step back, the path has led to a directory so far. -/
def IsStraight (t : FileTree) (path : String) : Prop :=
  ∀ before after, Path.segments path.toList = before ++ ['.', '.'] :: after →
    ∃ place, t.follow (t.origin path) before = .ok place ∧ t.node? place = some .directory

theorem isStraight_of_not_mem (h : ['.', '.'] ∉ Path.segments path.toList) : t.IsStraight path :=
  fun _ _ hsplit => absurd (hsplit ▸ List.mem_append_right _ List.mem_cons_self) h

/-- The way to where a straight path steps back is open. -/
theorem IsStraight.directory_of_mem (h : t.IsStraight path) {before after : List (List Char)}
    (hsplit : Path.segments path.toList = before ++ after) (hup : ['.', '.'] ∈ after) :
    t.node? (walk (t.origin path) before) = some .directory := by
  obtain ⟨between, rest, rfl⟩ := List.append_of_mem hup
  obtain ⟨back, hback, hnode⟩ := h (before ++ between) rest (by rw [hsplit, List.append_assoc])
  obtain ⟨hplace, hway⟩ := (follow_eq_ok_iff ..).1 hback
  cases between with
  | nil =>
      rw [List.append_nil] at hplace
      rw [hplace]
      exact hnode
  | cons next between => exact (hway before next between rfl).1

theorem origin_of_keepsDirectories (h : KeepsDirectories t t') (path : String) :
    t'.origin path = t.origin path := by
  rw [origin, origin, h.workingDirectory]

/-- A straight path that leads to something new has led to it before. -/
theorem IsStraight.locate_of_same (hstraight : t.IsStraight path) (hclosed : t.IsClosed)
    (hkeeps : KeepsDirectories t t') (hlocate : t'.locate path = .ok place)
    (hsame : t'.node? place = t.node? place) (hnode : t.node? place ≠ none) :
    t.locate path = .ok place := by
  obtain ⟨husable, hfollow⟩ := (locate_eq_ok_iff ..).1 hlocate
  rw [origin_of_keepsDirectories hkeeps] at hfollow
  obtain ⟨hplace, hway⟩ := (follow_eq_ok_iff ..).1 hfollow
  refine (locate_eq_ok_iff ..).2 ⟨husable, (follow_eq_ok_iff ..).2 ⟨hplace, ?_⟩⟩
  intro before segment after hsplit
  obtain ⟨hdirectory, hsize⟩ := hway before segment after hsplit
  refine ⟨?_, hsize⟩
  by_cases hup : ['.', '.'] ∈ segment :: after
  · exact hstraight.directory_of_mem hsplit hup
  · -- the way only leads further, to something that stands in a directory
    obtain ⟨rest, hrest⟩ := prefix_walk (walk (t.origin path) before) hup
    rw [← walk_append, ← hsplit, hplace] at hrest
    by_cases hend : rest = []
    · rw [hend, List.append_nil] at hrest
      rw [hrest, ← hsame, ← hrest]
      exact hdirectory
    · exact hclosed.of_append hend (by rwa [hrest])

/-- What a straight path leads to stays the same while directories stay, if nothing changes at its
place. -/
theorem IsStraight.at?_of_keepsDirectories (hstraight : t.IsStraight path) (hclosed : t.IsClosed)
    (hkeeps : KeepsDirectories t t')
    (hsame : t'.node? (t.placeOf path) = t.node? (t.placeOf path)) : t'.at? path = t.at? path := by
  cases hlocate : t.locate path with
  | ok place =>
      rw [eq_placeOf_of_locate hlocate] at hsame
      have hlocate' := locate_of_keepsDirectories hkeeps hlocate
      simp [at?, hlocate, hlocate', Except.toOption, hsame]
  | error e =>
      cases hlocate' : t'.locate path with
      | error e' => simp [at?, hlocate, hlocate', Except.toOption]
      | ok place =>
          have hplace : t.placeOf path = place := by
            rw [← eq_placeOf_of_locate hlocate', placeOf, placeOf,
              origin_of_keepsDirectories hkeeps]
          rw [hplace] at hsame
          have hnone : t.node? place = none := by
            refine Decidable.byContradiction fun hnode => ?_
            rw [hstraight.locate_of_same hclosed hkeeps hlocate' hsame hnode] at hlocate
            cases hlocate
          simp [at?, hlocate, hlocate', Except.toOption, hsame, hnone]

end CommandBot.FileTree
