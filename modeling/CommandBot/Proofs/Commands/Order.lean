import CommandBot.Proofs.Commands.Entries
import CommandBot.Proofs.Commands.History

/-!
# Entries in any order

Whether commands can be built of entries does not depend on their order (`AreAccepted.perm`), and
the commands neither: under every name in lowercase stands its entry and nothing else, so any order
gives the same (`ofEntries_perm`). Only which fault is reported goes by the order. It is that of the
earliest pair that cannot follow the ones before it, and of its causes the first that applies
(`Refuses`). `ofEntries_settled` puts all this together.
-/

namespace CommandBot.Commands

/-- Names of the pattern that all differ in lowercase, and cooldowns that are not negative. -/
structure AreAccepted (entries : List (String × StoredCommand)) : Prop where
  named : ∀ e ∈ entries, MatchesNamePattern e.1
  cooldown : ∀ e ∈ entries, 0 ≤ e.2.cooldown
  distinct : entries.Pairwise fun a b => Text.lower a.1 ≠ Text.lower b.1

/-- With which fault an entry is refused after others that have been accepted. A name that is taken
counts before a bad name, and a bad name before a bad cooldown. -/
inductive Refuses (before : List (String × StoredCommand)) (name : String)
    (entry : StoredCommand) : Fault → Prop where
  | taken (htaken : ∃ e ∈ before, Text.lower e.1 = Text.lower name) :
      Refuses before name entry (.duplicateCommand (Text.lower name))
  | badName (hnew : ∀ e ∈ before, Text.lower e.1 ≠ Text.lower name)
      (hname : ¬ MatchesNamePattern name) :
      Refuses before name entry (.invalidCommandName name)
  | badCooldown (hnew : ∀ e ∈ before, Text.lower e.1 ≠ Text.lower name)
      (hname : MatchesNamePattern name) (hcooldown : entry.cooldown < 0) :
      Refuses before name entry (.invalidCooldown entry.cooldown)

/-! ### Entries that are accepted -/

theorem exists_ofEntries_eq_ok_iff (entries : List (String × StoredCommand)) :
    (∃ cs, ofEntries entries = .ok cs) ↔ AreAccepted entries := by
  simp only [ofEntries_eq_ok_iff, isValidName_iff_matchesNamePattern]
  constructor
  · rintro ⟨cs, hgood, hdistinct, -⟩
    exact ⟨fun e he => (hgood e he).1, fun e he => (hgood e he).2, hdistinct⟩
  · intro h
    exact ⟨_, fun e he => ⟨h.named e he, h.cooldown e he⟩, h.distinct, rfl⟩

theorem AreAccepted.perm {entries entries' : List (String × StoredCommand)}
    (h : AreAccepted entries) (hperm : entries.Perm entries') : AreAccepted entries' where
  named e he := h.named e (hperm.mem_iff.2 he)
  cooldown e he := h.cooldown e (hperm.mem_iff.2 he)
  distinct := h.distinct.perm hperm fun hne => hne.symm

/-- Under every name in lowercase stands the entry of that name, and nothing else stands there. -/
theorem get?_ofEntries {cs : Commands} {entries : List (String × StoredCommand)}
    (h : ofEntries entries = .ok cs) (key : String) (command : Command) :
    cs.byName.get? key = some command ↔
      ∃ e ∈ entries, key = Text.lower e.1 ∧ command = ofStored e.1 e.2 := by
  obtain ⟨-, hdistinct, rfl⟩ := ofEntries_eq_ok_iff.1 h
  rw [KeyMap.get?_ofList_eq_some_iff (List.pairwise_map.2 hdistinct), List.mem_map]
  simp only [Prod.mk.injEq, eq_comm]

/-- Accepted entries give the same commands in any order. -/
theorem ofEntries_perm {cs : Commands} {entries entries' : List (String × StoredCommand)}
    (h : ofEntries entries = .ok cs) (hperm : entries.Perm entries') :
    ofEntries entries' = .ok cs := by
  have haccepted := (exists_ofEntries_eq_ok_iff entries).1 ⟨cs, h⟩
  obtain ⟨cs', h'⟩ := (exists_ofEntries_eq_ok_iff entries').2 (haccepted.perm hperm)
  have hget : ∀ key, cs'.byName.get? key = cs.byName.get? key := by
    intro key
    ext command
    simp only [get?_ofEntries h, get?_ofEntries h', hperm.mem_iff]
  obtain rfl : cs' = cs := congrArg Commands.mk (KeyMap.ext_get? hget)
  exact h'

/-! ### Entries that are refused -/

theorem addAllNew_append_of_ok {cs next : Commands} {before : List (String × StoredCommand)}
    (h : cs.addAllNew before = .ok next) (after : List (String × StoredCommand)) :
    cs.addAllNew (before ++ after) = next.addAllNew after := by
  induction before generalizing cs with
  | nil =>
      obtain rfl := Except.ok.inj h
      rfl
  | cons e before ih =>
      obtain ⟨first, hfirst, hrest⟩ := addAllNew_cons_eq_ok_iff.1 h
      rw [List.cons_append, addAllNew, hfirst]
      exact ih hrest

/-- Entries are refused at the first that cannot be added to what the ones before it have made. -/
theorem addAllNew_eq_error_iff {cs : Commands} {entries : List (String × StoredCommand)}
    {fault : Fault} :
    cs.addAllNew entries = .error fault ↔
      ∃ before name entry after next, entries = before ++ (name, entry) :: after ∧
        cs.addAllNew before = .ok next ∧ next.addNew name entry = .error fault := by
  constructor
  · intro h
    induction entries generalizing cs with
    | nil => cases h
    | cons e rest ih =>
        obtain ⟨name, entry⟩ := e
        rw [addAllNew] at h
        cases hadd : cs.addNew name entry with
        | error other =>
            rw [hadd] at h
            exact ⟨[], name, entry, rest, cs, rfl, rfl, hadd.trans h⟩
        | ok first =>
            rw [hadd] at h
            obtain ⟨before, later, found, after, next, rfl, hbefore, hlater⟩ := ih h
            exact ⟨(name, entry) :: before, later, found, after, next, rfl,
              addAllNew_cons_eq_ok_iff.2 ⟨first, hadd, hbefore⟩, hlater⟩
  · rintro ⟨before, name, entry, after, next, rfl, hbefore, hadd⟩
    rw [addAllNew_append_of_ok hbefore, addAllNew, hadd]

theorem isSome_lookup_ofEntries_iff {cs : Commands} {entries : List (String × StoredCommand)}
    (h : ofEntries entries = .ok cs) (name : String) :
    (cs.lookup name).isSome = true ↔ ∃ e ∈ entries, Text.lower e.1 = Text.lower name := by
  rw [lookup, Option.isSome_iff_exists]
  simp only [get?_ofEntries h]
  constructor
  · rintro ⟨-, e, he, hlower, -⟩
    exact ⟨e, he, hlower.symm⟩
  · rintro ⟨e, he, hlower⟩
    exact ⟨_, e, he, hlower.symm, rfl⟩

/-- An entry is refused after accepted ones for the first cause that applies. -/
theorem addNew_eq_error_iff {cs : Commands} {before : List (String × StoredCommand)}
    (h : ofEntries before = .ok cs) (name : String) (entry : StoredCommand) (fault : Fault) :
    cs.addNew name entry = .error fault ↔ Refuses before name entry fault := by
  have htaken := isSome_lookup_ofEntries_iff h name
  have hadd : (∀ e ∈ before, Text.lower e.1 ≠ Text.lower name) →
      cs.addNew name entry = cs.add name entry := by
    intro hnew
    rw [addNew, if_neg]
    rw [htaken]
    rintro ⟨e, he, hlower⟩
    exact hnew e he hlower
  constructor
  · intro hfault
    by_cases hold : ∃ e ∈ before, Text.lower e.1 = Text.lower name
    · rw [addNew, if_pos (htaken.2 hold)] at hfault
      obtain rfl := Except.error.inj hfault
      exact .taken hold
    · have hnew : ∀ e ∈ before, Text.lower e.1 ≠ Text.lower name :=
        fun e he hlower => hold ⟨e, he, hlower⟩
      rw [hadd hnew] at hfault
      by_cases hname : MatchesNamePattern name
      · rcases Int.lt_or_le entry.cooldown 0 with hcooldown | hcooldown
        · rw [add_of_negative cs hname hcooldown] at hfault
          obtain rfl := Except.error.inj hfault
          exact .badCooldown hnew hname hcooldown
        · rw [add_of_matches cs hname hcooldown] at hfault
          cases hfault
      · rw [add_of_not_matches cs entry hname] at hfault
        obtain rfl := Except.error.inj hfault
        exact .badName hnew hname
  · intro hrefuses
    cases hrefuses with
    | taken hold => rw [addNew, if_pos (htaken.2 hold)]
    | badName hnew hname => rw [hadd hnew, add_of_not_matches cs entry hname]
    | badCooldown hnew hname hcooldown => rw [hadd hnew, add_of_negative cs hname hcooldown]

/-- What comes of entries. They make commands exactly when they are accepted; these hold the entries
under their names in lowercase and nothing else, and any other order of the entries makes the same.
Otherwise the fault is that of the earliest pair that cannot follow those before it. -/
theorem ofEntries_settled (entries : List (String × StoredCommand)) :
    ((∃ cs, ofEntries entries = .ok cs) ↔ AreAccepted entries) ∧
    (∀ cs, ofEntries entries = .ok cs →
      (∀ key command, cs.byName.get? key = some command ↔
        ∃ e ∈ entries, key = Text.lower e.1 ∧ command = ofStored e.1 e.2) ∧
      ∀ entries', entries.Perm entries' → ofEntries entries' = .ok cs) ∧
    ∀ fault, ofEntries entries = .error fault ↔
      ∃ before name entry after, entries = before ++ (name, entry) :: after ∧
        AreAccepted before ∧ Refuses before name entry fault := by
  refine ⟨exists_ofEntries_eq_ok_iff entries, fun cs hcs => ⟨get?_ofEntries hcs,
    fun entries' hperm => ofEntries_perm hcs hperm⟩, fun fault => ?_⟩
  rw [ofEntries, addAllNew_eq_error_iff]
  constructor
  · rintro ⟨before, name, entry, after, next, hentries, hbefore, hadd⟩
    exact ⟨before, name, entry, after, hentries,
      (exists_ofEntries_eq_ok_iff before).1 ⟨next, hbefore⟩,
      (addNew_eq_error_iff hbefore name entry fault).1 hadd⟩
  · rintro ⟨before, name, entry, after, hentries, haccepted, hrefuses⟩
    obtain ⟨next, hbefore⟩ := (exists_ofEntries_eq_ok_iff before).2 haccepted
    exact ⟨before, name, entry, after, next, hentries, hbefore,
      (addNew_eq_error_iff hbefore name entry fault).2 hrefuses⟩

/-- Two entries the other way round, and what stands under the second name. -/
theorem ofEntries_settled_reversed :
    let entries : List (String × StoredCommand) :=
      [("Hi", { response := "one" }), ("B_2", { cooldown := 5, response := "two" })]
    ∃ cs, ofEntries entries = .ok cs ∧ ofEntries entries.reverse = .ok cs ∧
      cs.byName.get? "b_2" = some ⟨"b_2", 5, false, false, "two"⟩ := by
  intro entries
  obtain ⟨hok, hsame, -⟩ := ofEntries_settled entries
  have haccepted : AreAccepted entries :=
    ⟨by decide +kernel, by decide +kernel, by decide +kernel⟩
  obtain ⟨cs, hcs⟩ := hok.2 haccepted
  obtain ⟨hget, hperm⟩ := hsame cs hcs
  refine ⟨cs, hcs, hperm _ (List.reverse_perm entries).symm, (hget _ _).2
    ⟨("B_2", { cooldown := 5, response := "two" }), ?_, by decide +kernel, by decide +kernel⟩⟩
  exact List.mem_cons_of_mem _ List.mem_cons_self

/-- A name that is taken is reported as such, although it is no name either and its cooldown is
negative. -/
example :
    ofEntries [("k", { response := "one" }), ("\u212A", { cooldown := -1, response := "two" })] =
      .error (.duplicateCommand "k") := by
  cbv

end CommandBot.Commands
