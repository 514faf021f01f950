import CommandBot.Files.Path

/-!
# The names in a path

The segments of a path that has a name are those of its directory, the name, and nothing that counts
(`segments_of_name?`). The path beside it, under another extension, has the same directory and
another name (`segments_beside`), unless its name is two dots and an extension: without the
extension that is the directory above. The directory that a path lies in, and those that this lies
in, are on the way to the name (`isOnWay_of_parent?`, `IsOnWay.parent?`).
-/

namespace CommandBot.Path

variable {path name a b : List Char} {before voids reversed : List (List Char)}

/-! ### Segments -/

theorem exists_segments (path : List Char) : ∃ first others, segments path = first :: others :=
  List.exists_cons_of_ne_nil (segments_ne_nil path)

theorem segments_append_slash (a b : List Char) :
    segments (a ++ '/' :: b) = segments a ++ segments b := by
  induction a with
  | nil => simp [segments]
  | cons c rest ih =>
      obtain ⟨first, others, hrest⟩ := exists_segments rest
      simp only [List.cons_append, segments, ih, hrest]
      split <;> rfl

theorem slash_not_mem_of_mem_segments {segment : List Char} (h : segment ∈ segments path) :
    '/' ∉ segment := by
  induction path generalizing segment with
  | nil =>
      obtain rfl := List.mem_singleton.1 h
      exact List.not_mem_nil
  | cons c rest ih =>
      obtain ⟨first, others, hrest⟩ := exists_segments rest
      rw [hrest] at ih
      simp only [segments, hrest] at h
      split at h
      · rcases List.mem_cons.1 h with rfl | hmem
        · exact List.not_mem_nil
        · exact ih hmem
      · rename_i hc
        rcases List.mem_cons.1 h with rfl | hmem
        · exact List.not_mem_cons_of_ne_of_not_mem (Ne.symm hc) (ih List.mem_cons_self)
        · exact ih (List.mem_cons_of_mem _ hmem)

theorem segments_of_no_slash (h : '/' ∉ name) : segments name = [name] := by
  induction name with
  | nil => rfl
  | cons c rest ih =>
      have hc : c ≠ '/' := fun hc => h (hc ▸ List.mem_cons_self)
      simp only [segments, ih fun hrest => h (List.mem_cons_of_mem _ hrest), if_neg hc]

theorem segments_intercalate {parts : List (List Char)} (hne : parts ≠ [])
    (hparts : ∀ part ∈ parts, '/' ∉ part) : segments (['/'].intercalate parts) = parts := by
  induction parts with
  | nil => exact absurd rfl hne
  | cons part rest ih =>
      have hpart := segments_of_no_slash (hparts part List.mem_cons_self)
      cases rest with
      | nil => simpa [List.intercalate, List.intersperse] using hpart
      | cons next rest =>
          have hrest := ih (List.cons_ne_nil _ _) fun p hp => hparts p (List.mem_cons_of_mem _ hp)
          have htext : ['/'].intercalate (part :: next :: rest) =
              part ++ '/' :: ['/'].intercalate (next :: rest) := by
            simp [List.intercalate, List.intersperse]
          rw [htext, segments_append_slash, hpart, hrest]
          rfl

theorem segments_textOf (hne : reversed ≠ []) (hparts : ∀ part ∈ reversed, '/' ∉ part) :
    segments (textOf reversed) = reversed.reverse :=
  segments_intercalate (by simpa using hne) fun part hpart => hparts part (List.mem_reverse.1 hpart)

/-- Two paths with the same segments are the same. -/
theorem segments_inj (h : segments a = segments b) : a = b := by
  rw [← intercalate_segments a, h, intercalate_segments]

theorem segments_append_replicate (path : List Char) (n : Nat) :
    segments (path ++ List.replicate n '/') = segments path ++ List.replicate n [] := by
  induction n with
  | zero => simp
  | succ n ih =>
      rw [List.replicate_succ', ← List.append_assoc, segments_append_slash, ih, segments,
        List.append_assoc, ← List.replicate_succ']

/-- The segments of a path without the slashes at its end are its first ones. -/
theorem segments_dropSlashes (path : List Char) :
    segments (dropSlashes path) <+: segments path := by
  have hslashes : path.reverse.takeWhile (· == '/') =
      List.replicate (path.reverse.takeWhile (· == '/')).length '/' :=
    List.eq_replicate_iff.2
      ⟨rfl, fun c hc => by simpa using List.all_eq_true.1 List.all_takeWhile c hc⟩
  have hpath : path = dropSlashes path ++
      List.replicate (path.reverse.takeWhile (· == '/')).length '/' := by
    rw [dropSlashes, ← List.reverse_replicate, ← hslashes, ← List.reverse_append,
      List.takeWhile_append_dropWhile, List.reverse_reverse]
  conv => rhs; rw [hpath, segments_append_replicate]
  exact List.prefix_append _ _

/-- A path starts at the root just if its first segment is empty and not its only one. -/
theorem isAbsolute_iff (path : List Char) :
    isAbsolute path = true ↔ path ≠ [] ∧ (segments path).head? = some [] := by
  cases path with
  | nil => simp [isAbsolute]
  | cons c rest =>
      obtain ⟨first, others, hrest⟩ := exists_segments rest
      simp only [isAbsolute, segments, hrest, List.head?_cons]
      split
      · rename_i hc
        simp [hc]
      · rename_i hc
        simp [hc]

theorem isAbsolute_of_isPrefix (ha : a ≠ []) (hb : b ≠ []) (h : segments a <+: segments b) :
    isAbsolute a = isAbsolute b := by
  obtain ⟨rest, hrest⟩ := h
  obtain ⟨first, others, hfirst⟩ := exists_segments a
  have hhead : (segments a).head? = (segments b).head? := by
    rw [← hrest, hfirst]
    rfl
  rw [Bool.eq_iff_iff, isAbsolute_iff, isAbsolute_iff, hhead]
  simp [ha, hb]

theorem isAbsolute_dropSlashes (h : dropSlashes path ≠ []) :
    isAbsolute (dropSlashes path) = isAbsolute path := by
  refine isAbsolute_of_isPrefix h (fun hpath => h ?_) (segments_dropSlashes path)
  rw [hpath]
  rfl

/-! ### The name at the end -/

theorem dropVoid_append (hvoids : ∀ v ∈ voids, isVoid v = true) (hname : isVoid name = false) :
    dropVoid (voids ++ name :: before) = name :: before := by
  induction voids with
  | nil =>
      cases before with
      | nil => rfl
      | cons last before => simp [dropVoid, hname]
  | cons v rest ih =>
      have hrest := ih fun w hw => hvoids w (List.mem_cons_of_mem _ hw)
      have hv := hvoids v List.mem_cons_self
      cases hlist : rest ++ name :: before with
      | nil => simp at hlist
      | cons next others =>
          rw [List.cons_append, hlist, dropVoid, if_pos hv, ← hlist, hrest]
          exact List.cons_ne_nil _ _

theorem exists_append_dropVoid (reversed : List (List Char)) :
    ∃ voids, (∀ v ∈ voids, isVoid v = true) ∧ reversed = voids ++ dropVoid reversed := by
  induction reversed with
  | nil => exact ⟨[], by simp, rfl⟩
  | cons last before ih =>
      cases before with
      | nil => exact ⟨[], by simp, rfl⟩
      | cons next before =>
          rw [dropVoid]
          · split
            · rename_i hlast
              obtain ⟨voids, hvoids, hbefore⟩ := ih
              refine ⟨last :: voids, ?_, by rw [List.cons_append, ← hbefore]⟩
              exact List.forall_mem_cons.2 ⟨hlast, hvoids⟩
            · exact ⟨[], by simp, rfl⟩
          · exact List.cons_ne_nil _ _

theorem segments_of_name? (h : name? path = some (name, before)) :
    isVoid name = false ∧ name ≠ ['.', '.'] ∧
      ∃ voids, (∀ v ∈ voids, isVoid v = true) ∧
        segments path = before.reverse ++ name :: voids := by
  unfold name? at h
  split at h
  · rename_i last before' hdrop
    split at h
    · cases h
    · rename_i hname
      obtain ⟨rfl, rfl⟩ := Prod.mk.inj (Option.some.inj h)
      obtain ⟨voids, hvoids, hsegments⟩ := exists_append_dropVoid (segments path).reverse
      simp only [Bool.or_eq_true, not_or, Bool.not_eq_true, beq_iff_eq] at hname
      refine ⟨hname.1, hname.2, voids.reverse, fun v hv => hvoids v (List.mem_reverse.1 hv), ?_⟩
      rw [← List.reverse_reverse (segments path), hsegments, hdrop]
      simp
  · cases h

theorem dropVoid_of_segments (hvoids : ∀ v ∈ voids, isVoid v = true) (hname : isVoid name = false)
    (h : segments path = before.reverse ++ name :: voids) :
    dropVoid (segments path).reverse = name :: before := by
  rw [h]
  simp only [List.reverse_append, List.reverse_cons, List.reverse_reverse, List.append_assoc,
    List.singleton_append]
  exact dropVoid_append (fun v hv => hvoids v (List.mem_reverse.1 hv)) hname

theorem name?_of_segments (hvoids : ∀ v ∈ voids, isVoid v = true) (hname : isVoid name = false)
    (hup : name ≠ ['.', '.']) (h : segments path = before.reverse ++ name :: voids) :
    name? path = some (name, before) := by
  rw [name?, dropVoid_of_segments hvoids hname h]
  simp [hname, hup]

/-! ### The stem of a name -/

theorem dropWhile_append_dot {ext : List Char} (hext : '.' ∉ ext) (rest : List Char) :
    (ext.reverse ++ '.' :: rest).dropWhile (· != '.') = '.' :: rest := by
  rw [List.dropWhile_append_of_pos, List.dropWhile_cons_of_neg (by simp)]
  intro c hc
  simpa using fun h : c = '.' => hext (h ▸ List.mem_reverse.1 hc)

theorem stem_append_dot {first ext : List Char} (hne : first ≠ []) (hext : '.' ∉ ext) :
    stem (first ++ '.' :: ext) = first := by
  have hreverse : (first ++ '.' :: ext).reverse = ext.reverse ++ '.' :: first.reverse := by simp
  rw [stem, hreverse, dropWhile_append_dot hext]
  cases hfirst : first.reverse with
  | nil => exact absurd (List.reverse_eq_nil_iff.1 hfirst) hne
  | cons c rest => exact List.reverse_eq_iff.1 hfirst ▸ rfl

/-- A name has no extension, or it is its stem, a dot and the extension. -/
theorem stem_cases (name : List Char) :
    (stem name = name ∧ ownExtension name = []) ∨
      (name = stem name ++ '.' :: ownExtension name ∧ '.' ∉ ownExtension name ∧
        stem name ≠ []) := by
  have hsplit := List.takeWhile_append_dropWhile (p := (· != '.')) (l := name.reverse)
  have hdots : '.' ∉ (name.reverse.takeWhile (· != '.')).reverse := by
    intro h
    simpa using List.all_eq_true.1 List.all_takeWhile _ (List.mem_reverse.1 h)
  cases hdrop : name.reverse.dropWhile (· != '.') with
  | nil =>
      have hstem : stem name = name := by rw [stem, hdrop]
      exact .inl ⟨hstem, by rw [ownExtension, hstem, if_pos rfl]⟩
  | cons c rest =>
      have hc : c = '.' := by
        have hhead := List.head_dropWhile_not (· != '.') (l := name.reverse) (by simp [hdrop])
        simpa [hdrop] using hhead
      cases rest with
      | nil =>
          have hstem : stem name = name := by rw [stem, hdrop]
          exact .inl ⟨hstem, by rw [ownExtension, hstem, if_pos rfl]⟩
      | cons d rest =>
          have hstem : stem name = (d :: rest).reverse := by rw [stem, hdrop]
          have hname : name = stem name ++ '.' :: (name.reverse.takeWhile (· != '.')).reverse := by
            rw [hstem]
            rw [hdrop, hc] at hsplit
            simpa using (congrArg List.reverse hsplit).symm
          have hext : ownExtension name = (name.reverse.takeWhile (· != '.')).reverse := by
            have hlength : (stem name).length ≠ name.length := by
              conv => rhs; rw [hname]
              simp
            rw [ownExtension, if_neg hlength]
            conv => lhs; arg 2; rw [hname]
            simp
          rw [hext]
          exact .inr ⟨hname, hdots, by simp [hstem]⟩

theorem stem_ne_nil (hne : name ≠ []) : stem name ≠ [] := by
  rcases stem_cases name with ⟨hstem, -⟩ | ⟨-, -, hstem⟩
  · rwa [hstem]
  · exact hstem

theorem stem_isPrefix (name : List Char) : stem name <+: name := by
  rcases stem_cases name with ⟨hstem, -⟩ | ⟨hname, -, -⟩
  · exact ⟨[], by rw [hstem, List.append_nil]⟩
  · exact ⟨_, hname.symm⟩

theorem dot_not_mem_ownExtension (name : List Char) : '.' ∉ ownExtension name := by
  rcases stem_cases name with ⟨-, hnone⟩ | ⟨-, hdots, -⟩
  · simp [hnone]
  · exact hdots

theorem ne_nil_of_isVoid (h : isVoid name = false) : name ≠ [] := by
  rintro rfl
  cases h

theorem isVoid_append_dot {first : List Char} (hne : first ≠ []) (rest : List Char) :
    isVoid (first ++ '.' :: rest) = false := by
  cases first with
  | nil => exact absurd rfl hne
  | cons c first => simp [isVoid]

/-- An extension with a dot in it is no name's own. -/
theorem stem_append_ne {ext : List Char} (hext : '.' ∈ ext) : stem name ++ '.' :: ext ≠ name := by
  intro h
  rcases stem_cases name with ⟨hstem, -⟩ | ⟨hname, hdot, -⟩
  · rw [hstem] at h
    simpa using congrArg List.length h
  · have hsame := List.append_cancel_left (h.trans hname)
    exact hdot ((List.cons.inj hsame).2 ▸ hext)

/-! ### The path beside -/

/-- Segments that follow another, each after its slash. -/
def afterSlashes (parts : List (List Char)) : List Char := parts.flatMap fun part => '/' :: part

theorem segments_append_afterSlashes {parts : List (List Char)} (hname : '/' ∉ name)
    (hparts : ∀ part ∈ parts, '/' ∉ part) :
    segments (name ++ afterSlashes parts) = name :: parts := by
  induction parts generalizing name with
  | nil => simpa [afterSlashes] using segments_of_no_slash hname
  | cons part rest ih =>
      have hrest := ih (hparts part List.mem_cons_self)
        fun p hp => hparts p (List.mem_cons_of_mem _ hp)
      rw [afterSlashes, List.flatMap_cons, ← afterSlashes, List.cons_append,
        segments_append_slash, segments_of_no_slash hname, hrest]
      rfl

/-- Segments can be put in front of any path. -/
theorem exists_lead {parts : List (List Char)} (hparts : ∀ part ∈ parts, '/' ∉ part) :
    ∃ lead, ∀ rest, segments (lead ++ rest) = parts ++ segments rest := by
  induction parts with
  | nil => exact ⟨[], fun rest => rfl⟩
  | cons part parts ih =>
      obtain ⟨lead, hlead⟩ := ih fun p hp => hparts p (List.mem_cons_of_mem _ hp)
      refine ⟨part ++ '/' :: lead, fun rest => ?_⟩
      rw [List.append_assoc, List.cons_append, segments_append_slash, hlead,
        segments_of_no_slash (hparts part List.mem_cons_self)]
      rfl

theorem isVoid_take {v : List Char} (h : isVoid v = true) (n : Nat) : isVoid (v.take n) = true := by
  rcases Bool.or_eq_true_iff.1 h with hempty | hdot
  · simp [List.isEmpty_iff.1 hempty, isVoid]
  · rw [beq_iff_eq.1 hdot]
    cases n <;> simp [isVoid]

/-- A piece of void segments is one of void segments. -/
theorem exists_take_afterSlashes (hvoids : ∀ v ∈ voids, isVoid v = true) (n : Nat) :
    ∃ kept : List (List Char), (∀ v ∈ kept, isVoid v = true) ∧
      (afterSlashes voids).take n = afterSlashes kept := by
  induction voids generalizing n with
  | nil => exact ⟨[], by simp, by simp [afterSlashes]⟩
  | cons v rest ih =>
      obtain ⟨kept, hkept, htake⟩ :=
        ih (fun w hw => hvoids w (List.mem_cons_of_mem _ hw)) (n - (v.length + 1))
      cases n with
      | zero => exact ⟨[], by simp, by simp [afterSlashes]⟩
      | succ n =>
          have hv := isVoid_take (hvoids v List.mem_cons_self) n
          refine ⟨v.take n :: kept, List.forall_mem_cons.2 ⟨hv, hkept⟩, ?_⟩
          rw [afterSlashes, List.flatMap_cons, ← afterSlashes, List.take_append,
            List.length_cons, htake, List.take_succ_cons]
          rfl

theorem slash_not_mem_of_isVoid {v : List Char} (h : isVoid v = true) : '/' ∉ v := by
  rcases Bool.or_eq_true_iff.1 h with hempty | hdot
  · simp [List.isEmpty_iff.1 hempty]
  · simp [beq_iff_eq.1 hdot]

/-- What is left of a path without the characters of its extension has the same directory, and the
name as it was or the stem with the dot. -/
theorem segments_take (h : name? path = some (name, before)) :
    ∃ (left : List Char) (kept : List (List Char)), (∀ v ∈ kept, isVoid v = true) ∧
      segments (path.take (path.length - (ownExtension name).length)) =
        before.reverse ++ left :: kept ∧
      (left = name ∨ ∃ n, left = stem name ++ '.' :: (ownExtension name).take n) := by
  obtain ⟨-, -, voids, hvoids, hsegments⟩ := segments_of_name? h
  have hslash : ∀ segment ∈ before.reverse ++ name :: voids, '/' ∉ segment := by
    rw [← hsegments]
    exact fun segment => slash_not_mem_of_mem_segments
  obtain ⟨hbefore, hrest⟩ := List.forall_mem_append.1 hslash
  obtain ⟨hname, hvoidSlash⟩ := List.forall_mem_cons.1 hrest
  obtain ⟨lead, hlead⟩ := exists_lead hbefore
  have hpath : path = lead ++ (name ++ afterSlashes voids) :=
    segments_inj (by rw [hlead, segments_append_afterSlashes hname hvoidSlash, hsegments])
  rcases Nat.lt_or_ge (afterSlashes voids).length (ownExtension name).length with hlong | hshort
  · rcases stem_cases name with ⟨-, hnone⟩ | ⟨hdot, -, -⟩
    · simp [hnone] at hlong
    · have hcut : path.take (path.length - (ownExtension name).length) =
          lead ++ (stem name ++ '.' :: (ownExtension name).take (afterSlashes voids).length) := by
        have hlength : path.length - (ownExtension name).length =
            lead.length + ((stem name).length + ((afterSlashes voids).length + 1)) := by
          have hname := congrArg List.length hdot
          rw [hpath]
          simp only [List.length_append, List.length_cons] at hname ⊢
          omega
        rw [hlength, hpath]
        conv => lhs; arg 2; arg 2; rw [hdot]
        rw [List.take_length_add_append, List.append_assoc, List.take_length_add_append,
          List.cons_append, List.take_succ_cons, List.take_append_of_le_length (Nat.le_of_lt hlong)]
      have hstarts : stem name ++ '.' :: (ownExtension name).take (afterSlashes voids).length <+:
          name := by
        conv => rhs; rw [hdot]
        exact (List.prefix_append_right_inj _).2
          (List.cons_prefix_cons.2 ⟨rfl, List.take_prefix _ _⟩)
      refine ⟨_, [], by simp, ?_, .inr ⟨(afterSlashes voids).length, rfl⟩⟩
      rw [hcut, hlead, segments_of_no_slash fun hmem => hname (hstarts.subset hmem)]
  · obtain ⟨kept, hkept, htake⟩ := exists_take_afterSlashes hvoids
      ((afterSlashes voids).length - (ownExtension name).length)
    refine ⟨name, kept, hkept, ?_, .inl rfl⟩
    have hcut : path.take (path.length - (ownExtension name).length) =
        lead ++ (name ++ afterSlashes kept) := by
      have hlength : path.length - (ownExtension name).length =
          lead.length + (name.length +
            ((afterSlashes voids).length - (ownExtension name).length)) := by
        rw [hpath]
        simp only [List.length_append]
        omega
      rw [hlength, hpath, List.take_length_add_append, List.take_length_add_append, htake]
    rw [hcut, hlead, segments_append_afterSlashes hname fun v hv =>
      slash_not_mem_of_isVoid (hkept v hv)]

/-- The path beside one that has a name has the same directory and the stem with the extension for
its name. But a name of two dots and an extension leaves the directory above. -/
theorem segments_beside {path extension : String} (h : name? path.toList = some (name, before))
    (hslash : '/' ∉ extension.toList) :
    segments (beside path extension).toList =
        before.reverse ++ [stem name ++ '.' :: extension.toList] ∨
      ∃ kept : List (List Char), (∀ v ∈ kept, isVoid v = true) ∧
        segments (beside path extension).toList = before.reverse ++ ['.', '.'] :: kept := by
  obtain ⟨hvoid, hup, voids, -, hpath⟩ := segments_of_name? h
  obtain ⟨left, kept, hkept, hsegments, hleft⟩ := segments_take h
  rw [String.length_toList] at hsegments
  have hlegal : ∀ part ∈ (stem name ++ '.' :: extension.toList) :: before, '/' ∉ part := by
    have hparts : ∀ part ∈ before.reverse ++ name :: voids, '/' ∉ part := by
      rw [← hpath]
      exact fun part => slash_not_mem_of_mem_segments
    refine List.forall_mem_cons.2 ⟨?_, fun part hpart => hparts part (by simp [hpart])⟩
    have hstem : '/' ∉ stem name := fun hmem =>
      hparts name (by simp) ((stem_isPrefix name).subset hmem)
    simp [hstem, hslash]
  have hbeside : (beside path extension).toList =
      withExtension (path.toList.take (path.length - (ownExtension name).length)) extension := by
    rw [beside, h]
    exact String.toList_ofList
  obtain ⟨hstem, hleftVoid⟩ : stem left = stem name ∧ isVoid left = false := by
    rcases hleft with rfl | ⟨n, rfl⟩
    · exact ⟨rfl, hvoid⟩
    · have hne := stem_ne_nil (ne_nil_of_isVoid hvoid)
      exact ⟨stem_append_dot hne fun hmem =>
        dot_not_mem_ownExtension name (List.mem_of_mem_take hmem), isVoid_append_dot hne _⟩
  by_cases hparent : left = ['.', '.']
  · rw [hparent] at hsegments
    have hnone : name? (path.toList.take (path.length - (ownExtension name).length)) = none := by
      rw [name?, dropVoid_of_segments hkept rfl hsegments]
      rfl
    rw [hbeside, withExtension, hnone]
    exact .inr ⟨kept, hkept, hsegments⟩
  · rw [hbeside, withExtension, name?_of_segments hkept hleftVoid hparent hsegments]
    simp only [hstem]
    rw [segments_textOf (List.cons_ne_nil _ _) hlegal, List.reverse_cons]
    exact .inl rfl

theorem isAbsolute_of_segments {parts others : List (List Char)} (hname : name ≠ [])
    (h : segments path = parts ++ name :: others) :
    isAbsolute path = true ↔ parts.head? = some [] := by
  rw [isAbsolute_iff, h]
  cases parts with
  | nil => simp [hname]
  | cons first parts =>
      have hpath : path ≠ [] := by
        rintro rfl
        simpa [segments] using congrArg List.length h
      simp [hpath]

/-- The path beside one that has a name starts at the root just if that does. -/
theorem isAbsolute_beside {path extension : String} (h : name? path.toList = some (name, before))
    (hslash : '/' ∉ extension.toList) :
    isAbsolute (beside path extension).toList = isAbsolute path.toList := by
  obtain ⟨hvoid, -, voids, -, hpath⟩ := segments_of_name? h
  rw [Bool.eq_iff_iff, isAbsolute_of_segments (ne_nil_of_isVoid hvoid) hpath]
  rcases segments_beside h hslash with hbeside | ⟨kept, -, hbeside⟩
  · exact isAbsolute_of_segments (by simp) hbeside
  · exact isAbsolute_of_segments (by simp) hbeside

/-! ### The directory that a path lies in -/

theorem dropVoid_isPrefix (before : List (List Char)) :
    (dropVoid before).reverse <+: before.reverse := by
  obtain ⟨voids, -, hbefore⟩ := exists_append_dropVoid before
  conv => rhs; rw [hbefore, List.reverse_append]
  exact List.prefix_append _ _

theorem dropVoid_ne_nil (hne : before ≠ []) : dropVoid before ≠ [] := by
  induction before with
  | nil => exact absurd rfl hne
  | cons last before ih =>
      cases before with
      | nil => exact List.cons_ne_nil _ _
      | cons next before =>
          rw [dropVoid]
          · split
            · exact ih (List.cons_ne_nil _ _)
            · exact List.cons_ne_nil _ _
          · exact List.cons_ne_nil _ _

/-- A path on the way that segments lead: that of the working directory or the root, or the first of
the segments, from the same start. -/
def IsOnWay (parts : List (List Char)) (absolute : Bool) (path : String) : Prop :=
  path = "" ∨ path = "/" ∨
    (segments path.toList <+: parts ∧ isAbsolute path.toList = absolute)

/-- The directory that a path lies in is on the way to its name. -/
theorem isOnWay_of_parent? {path parent : String} (h : parent? path = some parent)
    (hname : dropVoid (segments path.toList).reverse = name :: before) :
    IsOnWay before.reverse (isAbsolute path.toList) parent := by
  unfold parent? at h
  split at h
  · cases h
  rw [hname] at h
  cases before with
  | nil =>
      simp only at h
      split at h
      · cases h
      · exact .inl (Option.some.inj h).symm
  | cons last before =>
      simp only [Option.some.injEq] at h
      split at h
      · exact .inr (.inl h.symm)
      · rename_i hroot
        refine .inr (.inr ?_)
        obtain ⟨voids, -, hpath⟩ := exists_append_dropVoid (segments path.toList).reverse
        have hsegments : segments path.toList =
            (last :: before).reverse ++ name :: voids.reverse := by
          rw [← List.reverse_reverse (segments path.toList), hpath, hname]
          simp
        have hstarts := dropVoid_isPrefix (last :: before)
        have hparent : segments parent.toList = (dropVoid (last :: before)).reverse := by
          rw [← h, String.toList_ofList]
          refine segments_textOf (dropVoid_ne_nil (List.cons_ne_nil _ _)) fun part hpart => ?_
          have hmem : part ∈ segments path.toList := by
            rw [hsegments]
            exact List.mem_append_left _ (hstarts.subset (List.mem_reverse.2 hpart))
          exact slash_not_mem_of_mem_segments hmem
        have hpathPrefix : segments parent.toList <+: segments path.toList := by
          rw [hparent, hsegments]
          exact hstarts.trans (List.prefix_append _ _)
        refine ⟨hparent ▸ hstarts,
          isAbsolute_of_isPrefix (fun hnil => ?_) (fun hnil => ?_) hpathPrefix⟩
        · rw [hnil] at hparent
          rw [← List.reverse_reverse (dropVoid (last :: before)), ← hparent] at hroot
          exact hroot rfl
        · rw [hnil] at hsegments
          have hlength := congrArg List.length hsegments
          simp only [segments, List.length_append, List.length_reverse, List.length_cons,
            List.length_nil] at hlength
          omega

theorem IsOnWay.parent? {path parent : String} {parts : List (List Char)} {absolute : Bool}
    (hpath : IsOnWay parts absolute path) (h : Path.parent? path = some parent) :
    IsOnWay parts absolute parent := by
  rcases hpath with rfl | rfl | ⟨hstarts, rfl⟩
  · cases h
  · have hroot : Path.parent? "/" = none := by decide
    rw [hroot] at h
    cases h
  · cases hdrop : dropVoid (segments path.toList).reverse with
    | nil => exact absurd hdrop (dropVoid_ne_nil (by simpa using segments_ne_nil _))
    | cons name before =>
        refine (isOnWay_of_parent? h hdrop).imp_right (Or.imp_right fun ⟨hparent, habsolute⟩ => ?_)
        have hfirst := dropVoid_isPrefix (segments path.toList).reverse
        rw [hdrop, List.reverse_reverse, List.reverse_cons] at hfirst
        exact ⟨hparent.trans ((List.prefix_append _ _).trans (hfirst.trans hstarts)), habsolute⟩

end CommandBot.Path
