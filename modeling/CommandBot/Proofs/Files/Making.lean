import CommandBot.Proofs.Files.Walk

/-!
# While directories are made

Whenever the making of a directory and those on the way to it stops, the tree is one of those that
have stood meanwhile (`Making`). None of them differs from the first in a file (`Making.grows`), and
where a directory is new, the first segments of the path lead (`Making.exists_isPrefix`). So nothing
changes where a straight path leads that has one more name (`Making.node?_placeOf`).
-/

namespace CommandBot.FileTree

variable {t t' t'' : FileTree} {path parent : String} {place : Place}

/-- Directories are all that is new, and nothing is gone. -/
structure Grows (t t' : FileTree) : Prop where
  keeps : KeepsDirectories t t'
  file_iff : ∀ place content,
    t'.node? place = some (.file content) ↔ t.node? place = some (.file content)

theorem Grows.refl (t : FileTree) : Grows t t := ⟨⟨rfl, fun _ h => h⟩, fun _ _ => Iff.rfl⟩

theorem Grows.trans (h : Grows t t') (h' : Grows t' t'') : Grows t t'' :=
  ⟨h.keeps.trans h'.keeps, fun place content =>
    (h'.file_iff place content).trans (h.file_iff place content)⟩

theorem grows_put_directory (hfree : t.node? place = none) : Grows t (t.put place .directory) := by
  have hne : place ≠ [] := fun hnil => by
    rw [hnil] at hfree
    cases hfree
  refine ⟨keepsDirectories_put_directory t hne, fun other content => ?_⟩
  by_cases hsame : other = place
  · rw [hsame, node?_put_self hne, hfree]
    simp
  · rw [node?_put_of_ne t hsame]

/-! ### One directory -/

/-- A directory that is made stands where the first segments of its path lead, at a place that was
free. -/
theorem exists_of_makeDirectory (h : t.makeDirectory path = .ok t') :
    path ≠ "" ∧ ∃ (before : List (List Char)) (place : Place),
      before ≠ [] ∧ before <+: Path.segments path.toList ∧
      t.follow (t.origin path) before = .ok place ∧ t.node? place = none ∧
      t' = t.put place .directory := by
  unfold makeDirectory at h
  simp only at h
  split at h
  · cases h
  rename_i place hlocate
  split at h
  · cases h
  rename_i hnone
  obtain rfl := (Except.ok.inj h).symm
  split at hlocate
  · obtain ⟨husable, hfollow⟩ := (locate_eq_ok_iff ..).1 hlocate
    refine ⟨fun hempty => ?_, _, place, Path.segments_ne_nil _, List.prefix_rfl, hfollow, hnone,
      rfl⟩
    have := husable.nonempty
    simp [hempty] at this
  · rename_i hbare
    have hne : Path.dropSlashes path.toList ≠ [] := by simpa using hbare
    obtain ⟨-, hfollow⟩ := (locate_eq_ok_iff ..).1 hlocate
    rw [origin, String.toList_ofList, Path.isAbsolute_dropSlashes hne, ← origin] at hfollow
    refine ⟨?_, _, place, Path.segments_ne_nil _, Path.segments_dropSlashes _, hfollow, hnone, rfl⟩
    rintro rfl
    exact hne rfl

/-! ### A directory and those on the way to it -/

/-- A tree that may stand while a directory and those on the way to it are made: some of these have
been made, and then perhaps the directory. -/
inductive Making (t : FileTree) : String → FileTree → Prop where
  | start {path : String} : Making t path t
  | above {path parent : String} {t' : FileTree} (hparent : Path.parent? path = some parent)
      (h : Making t parent t') : Making t path t'
  | made {path : String} {t' t'' : FileTree} (h : Making t path t')
      (hmade : t'.makeDirectory path = .ok t'') : Making t path t''

theorem making_makeDirectories (t : FileTree) (path : String) (fuel : Nat) :
    Making t path (t.makeDirectories path fuel).2 := by
  induction fuel generalizing path with
  | zero => exact .start
  | succ fuel ih =>
      rw [makeDirectories]
      split
      · exact .start
      · split
        · rename_i hmade
          exact .made .start hmade
        · split
          · exact .start
          · rename_i parent hparent
            have habove := Making.above hparent (ih parent)
            split
            · rename_i hmakes
              rwa [hmakes] at habove
            · rename_i hmakes
              rw [hmakes] at habove
              split
              · rename_i hmade
                exact .made habove hmade
              · exact habove
        · exact .start

theorem Making.grows (h : Making t path t') : Grows t t' := by
  induction h with
  | start => exact .refl t
  | above _ _ ih => exact ih
  | made _ hmade ih =>
      obtain ⟨-, before, place, -, -, -, hfree, rfl⟩ := exists_of_makeDirectory hmade
      exact ih.trans (grows_put_directory hfree)

theorem Making.isClosed (h : Making t path t') (hclosed : t.IsClosed) : t'.IsClosed := by
  induction h with
  | start => exact hclosed
  | above _ _ ih => exact ih
  | made _ hmade ih =>
      obtain ⟨-, before, place, hne, -, hfollow, hfree, rfl⟩ := exists_of_makeDirectory hmade
      exact ih.put_of_follow hne hfollow (by simp [hfree]) _

/-- Where something new stands, first segments of the path lead. -/
theorem Making.exists_isPrefix (h : Making t path t') {parts : List (List Char)} {absolute : Bool}
    (hpath : Path.IsOnWay parts absolute path) (hnew : t'.node? place ≠ t.node? place) :
    ∃ before, before <+: parts ∧
      walk (if absolute then [] else t.workingDirectory) before = place := by
  induction h with
  | start => exact absurd rfl hnew
  | above hparent _ ih => exact ih (hpath.parent? hparent) hnew
  | @made path t' t'' h hmade ih =>
      obtain ⟨hempty, before, made, -, hstarts, hfollow, hfree, rfl⟩ :=
        exists_of_makeDirectory hmade
      by_cases hplace : place = made
      · have hmadePlace := ((follow_eq_ok_iff ..).1 hfollow).1
        rcases hpath with rfl | rfl | ⟨hparts, habsolute⟩
        · exact absurd rfl hempty
        · -- the root is there already
          have hroot : walk (t'.origin "/") before = [] := by
            refine walk_voids _ fun segment hsegment => ?_
            have hmem : segment ∈ [[], []] := hstarts.subset hsegment
            have hnil : segment = [] := by simpa using hmem
            rw [hnil]
            rfl
          rw [← hmadePlace, hroot] at hfree
          cases hfree
        · rw [origin, habsolute, h.grows.keeps.workingDirectory] at hmadePlace
          exact ⟨before, hstarts.trans hparts, hmadePlace.trans hplace.symm⟩
      · rw [node?_put_of_ne _ hplace] at hnew
        exact ih hpath hnew

theorem Grows.free_of_new (h : Grows t t') (hnew : t'.node? place ≠ t.node? place) :
    t.node? place = none := by
  cases hplace : t.node? place with
  | none => rfl
  | some node =>
      rw [hplace] at hnew
      cases node with
      | directory => exact absurd (h.keeps.directory place hplace) hnew
      | file content => exact absurd ((h.file_iff place content).2 hplace) hnew

/-- While the directory of a straight path is made, nothing changes where the path leads. -/
theorem Making.node?_placeOf (h : Making t parent t') (hparent : Path.parent? path = some parent)
    {name : List Char} {before : List (List Char)}
    (hname : Path.name? path.toList = some (name, before)) (hstraight : t.IsStraight path) :
    t'.node? (t.placeOf path) = t.node? (t.placeOf path) := by
  obtain ⟨hvoid, hup, voids, hvoids, hsegments⟩ := Path.segments_of_name? hname
  refine Classical.byContradiction fun hnew => ?_
  have hfree := h.grows.free_of_new hnew
  obtain ⟨first, ⟨rest, hrest⟩, hplace⟩ := h.exists_isPrefix
    (Path.isOnWay_of_parent? hparent (Path.dropVoid_of_segments hvoids hvoid hsegments)) hnew
  have hsplit : Path.segments path.toList = first ++ (rest ++ name :: voids) := by
    rw [hsegments, ← hrest, List.append_assoc]
  change walk (t.origin path) first = t.placeOf path at hplace
  -- nothing stands where the first segments lead, so the path does not step back later on
  have hforward : ['.', '.'] ∉ rest := by
    intro hmem
    have hdirectory := hstraight.directory_of_mem hsplit (List.mem_append_left _ hmem)
    rw [hplace, hfree] at hdirectory
    cases hdirectory
  obtain ⟨more, hmore⟩ := prefix_walk (walk (t.origin path) first) hforward
  have hlong : t.placeOf path = t.placeOf path ++ (more ++ [String.ofList name]) := by
    conv => lhs; rw [placeOf, hsplit, walk_append, walk_append, walk_cons, enter_name _ hvoid hup,
      walk_voids _ hvoids, ← hmore, hplace]
    rw [List.append_assoc]
  simpa using congrArg List.length hlong

end CommandBot.FileTree
