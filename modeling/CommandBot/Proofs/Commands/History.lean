import CommandBot.Proofs.Commands

/-!
# Commands after a history

The commands of a channel are what a log of additions, removals and look-ups has made of them
(`afterAll`). What stands under a name can be read off the log alone: it is the command that the
last accepted addition under this name in lowercase has stored, unless it was removed since
(`IsLive`). One operation changes what stands under its own name and nothing else (`get?_after`), so
by induction on the log the commands are those that are live (`get?_afterAll`), and everything that
can be asked of them follows (`reflects_afterAll`).
-/

namespace CommandBot.Commands

/-- What is asked of the commands of a channel. -/
inductive Operation where
  | add (name : String) (entry : StoredCommand)
  | remove (name : String)
  | lookup (name : String)
  deriving DecidableEq, Repr

namespace Operation

/-- An accepted addition that stores the command under the key. -/
def Stores (key : String) (command : Command) : Operation → Prop
  | .add name entry =>
      MatchesNamePattern name ∧ 0 ≤ entry.cooldown ∧ Text.lower name = key ∧
        command = ofStored name entry
  | .remove _ | .lookup _ => False

/-- A removal of what stands under the key. -/
def Removes (key : String) : Operation → Prop
  | .remove name => Text.lower name = key
  | .add _ _ | .lookup _ => False

/-- The operation stores something under the key or removes what stands there. -/
def Touches (key : String) (op : Operation) : Prop :=
  (∃ command, op.Stores key command) ∨ op.Removes key

end Operation

/-- The commands after an operation. One that is refused leaves them as they are. -/
def after (cs : Commands) : Operation → Commands
  | .add name entry =>
      match cs.add name entry with
      | .ok next => next
      | .error _ => cs
  | .remove name =>
      match cs.remove name with
      | .ok (_, next) => next
      | .error _ => cs
  | .lookup _ => cs

/-- The commands after all operations of a log, in order. -/
def afterAll (cs : Commands) (log : List Operation) : Commands := log.foldl after cs

/-- The command was stored under the key, and since then the key was not touched. -/
def IsLive (log : List Operation) (key : String) (command : Command) : Prop :=
  ∃ earlier op later, log = earlier ++ op :: later ∧ op.Stores key command ∧
    ∀ next ∈ later, ¬ next.Touches key

theorem isLive_nil (key : String) (command : Command) : ¬ IsLive [] key command := by
  rintro ⟨earlier, op, later, hlog, -⟩
  simp at hlog

theorem isLive_cons (op : Operation) (rest : List Operation) (key : String) (command : Command) :
    IsLive (op :: rest) key command ↔
      IsLive rest key command ∨
        op.Stores key command ∧ ∀ next ∈ rest, ¬ next.Touches key := by
  constructor
  · rintro ⟨earlier, last, later, hlog, hstores, hlater⟩
    cases earlier with
    | nil =>
        obtain ⟨rfl, rfl⟩ := List.cons.inj hlog
        exact .inr ⟨hstores, hlater⟩
    | cons first earlier =>
        exact .inl ⟨earlier, last, later, (List.cons.inj hlog).2, hstores, hlater⟩
  · rintro (⟨earlier, last, later, hlog, hstores, hlater⟩ | ⟨hstores, hrest⟩)
    · exact ⟨op :: earlier, last, later, by rw [hlog]; rfl, hstores, hlater⟩
    · exact ⟨[], op, rest, rfl, hstores, hrest⟩

theorem add_of_matches (cs : Commands) {name : String} {entry : StoredCommand}
    (hname : MatchesNamePattern name) (hcooldown : 0 ≤ entry.cooldown) :
    cs.add name entry = .ok ⟨cs.byName.insert (Text.lower name) (ofStored name entry)⟩ :=
  add_eq_ok_iff.2 ⟨(isValidName_iff_matchesNamePattern name).2 hname, hcooldown, rfl⟩

/-- A bad name is refused whatever the cooldown. -/
theorem add_of_not_matches (cs : Commands) {name : String} (entry : StoredCommand)
    (hname : ¬ MatchesNamePattern name) :
    cs.add name entry = .error (.invalidCommandName name) := by
  have hvalid : isValidName name = false :=
    Bool.eq_false_iff.2 fun h => hname ((isValidName_iff_matchesNamePattern name).1 h)
  rw [add, hvalid]
  rfl

theorem add_of_negative (cs : Commands) {name : String} {entry : StoredCommand}
    (hname : MatchesNamePattern name) (hcooldown : entry.cooldown < 0) :
    cs.add name entry = .error (.invalidCooldown entry.cooldown) := by
  rw [add, (isValidName_iff_matchesNamePattern name).2 hname, if_neg (by decide), if_pos hcooldown]

theorem remove_of_lookup_eq_some {cs : Commands} {name : String} {command : Command}
    (h : cs.lookup name = some command) :
    cs.remove name = .ok (command, ⟨cs.byName.erase (Text.lower name)⟩) :=
  remove_eq_ok_iff.2 ⟨h, rfl⟩

theorem remove_of_lookup_eq_none {cs : Commands} {name : String} (h : cs.lookup name = none) :
    cs.remove name = .error (.commandNotFound name) := by
  rw [remove, h]

/-- An operation sets what stands under the key that it touches, and changes nothing else. -/
theorem get?_after (cs : Commands) (op : Operation) (key : String) (command : Command) :
    (cs.after op).byName.get? key = some command ↔
      op.Stores key command ∨ ¬ op.Touches key ∧ cs.byName.get? key = some command := by
  cases op with
  | add name entry =>
      by_cases haccepted : MatchesNamePattern name ∧ 0 ≤ entry.cooldown
      · obtain ⟨hname, hcooldown⟩ := haccepted
        have hafter : cs.after (.add name entry) =
            ⟨cs.byName.insert (Text.lower name) (ofStored name entry)⟩ := by
          rw [after, add_of_matches cs hname hcooldown]
        rw [hafter, KeyMap.get?_insert]
        by_cases hkey : Text.lower name = key
        · simp [Operation.Stores, Operation.Touches, hname, hcooldown, hkey, eq_comm]
        · simp [Operation.Stores, Operation.Touches, Operation.Removes, hkey, Ne.symm hkey]
      · have hafter : cs.after (.add name entry) = cs := by
          rw [after]
          split
          · rename_i next hnext
            obtain ⟨hvalid, hcooldown, -⟩ := add_eq_ok_iff.1 hnext
            exact absurd ⟨(isValidName_iff_matchesNamePattern name).1 hvalid, hcooldown⟩ haccepted
          · rfl
        have hstores : ∀ c, ¬ (Operation.add name entry).Stores key c :=
          fun c h => haccepted ⟨h.1, h.2.1⟩
        simp [hafter, hstores, Operation.Touches, Operation.Removes]
  | remove name =>
      have hafter : (cs.after (.remove name)).byName = cs.byName.erase (Text.lower name) := by
        cases hfound : cs.lookup name with
        | some found => rw [after, remove_of_lookup_eq_some hfound]
        | none =>
            rw [after, remove_of_lookup_eq_none hfound]
            exact (KeyMap.erase_of_get?_eq_none hfound).symm
      rw [hafter, KeyMap.get?_erase]
      by_cases hkey : Text.lower name = key
      · simp [Operation.Stores, Operation.Touches, Operation.Removes, hkey]
      · simp [Operation.Stores, Operation.Touches, Operation.Removes, hkey, Ne.symm hkey]
  | lookup name => simp [after, Operation.Stores, Operation.Touches, Operation.Removes]

/-- Under a key stands what is live there, or what stood there all along. -/
theorem get?_afterAll (cs : Commands) (log : List Operation) (key : String) (command : Command) :
    (cs.afterAll log).byName.get? key = some command ↔
      IsLive log key command ∨
        (∀ op ∈ log, ¬ op.Touches key) ∧ cs.byName.get? key = some command := by
  induction log generalizing cs with
  | nil => simp [afterAll, isLive_nil]
  | cons op rest ih =>
      have hrest : cs.afterAll (op :: rest) = (cs.after op).afterAll rest := rfl
      rw [hrest, ih, get?_after, isLive_cons, List.forall_mem_cons, and_or_left, ← or_assoc]
      simp only [and_comm, and_assoc]

/-- An operation is refused or changes nothing, or it is an addition or a removal that succeeds. -/
theorem after_cases (cs : Commands) (op : Operation) :
    cs.after op = cs ∨
      (∃ name entry, op = .add name entry ∧ cs.add name entry = .ok (cs.after op)) ∨
      ∃ name command, op = .remove name ∧ cs.remove name = .ok (command, cs.after op) := by
  cases op with
  | add name entry =>
      cases hadd : cs.add name entry with
      | ok next => exact .inr (.inl ⟨name, entry, rfl, by rw [hadd, after, hadd]⟩)
      | error fault => exact .inl (by rw [after, hadd])
  | remove name =>
      cases hremove : cs.remove name with
      | ok result => exact .inr (.inr ⟨name, result.1, rfl, by rw [hremove, after, hremove]⟩)
      | error fault => exact .inl (by rw [after, hremove])
  | lookup name => exact .inl rfl

theorem WellFormed.after {cs : Commands} (hcs : cs.WellFormed) (op : Operation) :
    (cs.after op).WellFormed := by
  rcases after_cases cs op with hsame | ⟨_, _, -, hadd⟩ | ⟨_, _, -, hremove⟩
  · rw [hsame]
    exact hcs
  · exact hcs.add hadd
  · exact hcs.remove hremove

theorem IsStorable.after {cs : Commands} (hcs : cs.IsStorable) {op : Operation}
    (hfits : ∀ name entry, op = .add name entry → entry.Fits) : (cs.after op).IsStorable := by
  rcases after_cases cs op with hsame | ⟨name, entry, hop, hadd⟩ | ⟨_, _, -, hremove⟩
  · rw [hsame]
    exact hcs
  · exact hcs.add (hfits name entry hop) hadd
  · exact hcs.remove hremove

theorem WellFormed.afterAll {cs : Commands} (hcs : cs.WellFormed) (log : List Operation) :
    (cs.afterAll log).WellFormed := by
  induction log generalizing cs with
  | nil => exact hcs
  | cons op rest ih => exact ih (hcs.after op)

theorem IsStorable.afterAll {cs : Commands} (hcs : cs.IsStorable) {log : List Operation}
    (hfits : ∀ name entry, .add name entry ∈ log → entry.Fits) :
    (cs.afterAll log).IsStorable := by
  induction log generalizing cs with
  | nil => exact hcs
  | cons op rest ih =>
      have hop : (cs.after op).IsStorable := hcs.after fun name entry h =>
        hfits name entry (h ▸ List.mem_cons_self)
      exact ih hop fun name entry h => hfits name entry (List.mem_cons_of_mem _ h)

/-- The names of the commands that are picked out, in the order of the commands. -/
def namesOf (cs : Commands) (p : Command → Bool) : List String :=
  (cs.byName.values.filter p).map (·.name)

theorem namesOf_ascending {cs : Commands} (hcs : cs.WellFormed) (p : Command → Bool) :
    (cs.namesOf p).Pairwise (· < ·) := by
  refine List.pairwise_map.2 (List.Pairwise.filter p ?_)
  refine List.pairwise_map.2 (List.Pairwise.imp_of_mem ?_ cs.byName.ascending)
  intro a b ha hb hlt
  rw [(hcs a.1 a.2 (KeyMap.get?_of_mem ha)).named, (hcs b.1 b.2 (KeyMap.get?_of_mem hb)).named]
  exact hlt

theorem mem_namesOf_iff {cs : Commands} (hcs : cs.WellFormed) (p : Command → Bool) (name : String) :
    name ∈ cs.namesOf p ↔ ∃ command, cs.byName.get? name = some command ∧ p command = true := by
  simp only [namesOf, KeyMap.values, List.mem_map, List.mem_filter]
  constructor
  · rintro ⟨command, ⟨⟨e, he, rfl⟩, hp⟩, rfl⟩
    have hget := KeyMap.get?_of_mem he
    rw [← (hcs e.1 e.2 hget).named] at hget
    exact ⟨e.2, hget, hp⟩
  · rintro ⟨command, hget, hp⟩
    exact ⟨command, ⟨⟨(name, command), KeyMap.mem_of_get? hget, rfl⟩, hp⟩, (hcs _ _ hget).named⟩

theorem listed_forAll (cs : Commands) :
    cs.listed.forAll = cs.namesOf fun c => !c.modOnly && !c.hidden := by
  simp only [listed, namesOf, List.filter_filter]

theorem listed_modOnly (cs : Commands) :
    cs.listed.modOnly = cs.namesOf fun c => c.modOnly && !c.hidden := by
  simp only [listed, namesOf, List.filter_filter]

/-- What can be asked of the commands of a channel is settled by the log of what was asked of them
before. -/
structure Reflects (log : List Operation) (cs : Commands) : Prop where
  /-- A look-up finds what is live under the name in lowercase, and nothing else. -/
  lookup : ∀ name command, cs.lookup name = some command ↔ IsLive log (Text.lower name) command
  /-- A name of the pattern is accepted with a cooldown that is not negative. -/
  accepted : ∀ name entry, MatchesNamePattern name → 0 ≤ entry.cooldown →
    cs.add name entry = .ok (cs.after (.add name entry))
  /-- Any other name is refused as such, whatever its cooldown. -/
  badName : ∀ name entry, ¬ MatchesNamePattern name →
    cs.add name entry = .error (.invalidCommandName name)
  badCooldown : ∀ name entry, MatchesNamePattern name → entry.cooldown < 0 →
    cs.add name entry = .error (.invalidCooldown entry.cooldown)
  /-- A removal gives what a look-up finds. -/
  removed : ∀ name command, cs.lookup name = some command →
    cs.remove name = .ok (command, cs.after (.remove name))
  missing : ∀ name, cs.lookup name = none → cs.remove name = .error (.commandNotFound name)
  unchangedByAdd : ∀ name entry fault, cs.add name entry = .error fault →
    cs.after (.add name entry) = cs
  unchangedByRemove : ∀ name fault, cs.remove name = .error fault → cs.after (.remove name) = cs
  /-- The size is the number of names under which something is live. -/
  size : ∃ names : List String, names.Nodup ∧
    (∀ key, key ∈ names ↔ ∃ command, IsLive log key command) ∧ cs.size = names.length
  /-- If the cooldowns that were added can be stored, the commands can be rebuilt from what is
  stored of them. -/
  rebuilt : (∀ name entry, .add name entry ∈ log → entry.Fits) →
    ofEntries cs.toEntries.entries = .ok cs
  forAllAscending : cs.listed.forAll.Pairwise (· < ·)
  modOnlyAscending : cs.listed.modOnly.Pairwise (· < ·)
  mem_forAll : ∀ name, name ∈ cs.listed.forAll ↔
    ∃ command, IsLive log name command ∧ command.modOnly = false ∧ command.hidden = false
  mem_modOnly : ∀ name, name ∈ cs.listed.modOnly ↔
    ∃ command, IsLive log name command ∧ command.modOnly = true ∧ command.hidden = false

/-- After every log the commands are those that are live. -/
theorem reflects_afterAll (log : List Operation) : Reflects log (empty.afterAll log) := by
  have hcs : (empty.afterAll log).WellFormed := wellFormed_empty.afterAll log
  have hlive : ∀ key command, (empty.afterAll log).byName.get? key = some command ↔
      IsLive log key command := by
    intro key command
    rw [get?_afterAll, empty, KeyMap.get?_empty]
    simp
  exact
    { lookup := fun name command => hlive (Text.lower name) command
      accepted := fun _ _ hname hcooldown => by rw [after, add_of_matches _ hname hcooldown]
      badName := fun _ entry hname => add_of_not_matches _ entry hname
      badCooldown := fun _ _ hname hcooldown => add_of_negative _ hname hcooldown
      removed := fun _ _ hlookup => by rw [after, remove_of_lookup_eq_some hlookup]
      missing := fun _ hlookup => remove_of_lookup_eq_none hlookup
      unchangedByAdd := fun _ _ _ hadd => by rw [after, hadd]
      unchangedByRemove := fun _ _ hremove => by rw [after, hremove]
      size := ⟨(empty.afterAll log).byName.keys, KeyMap.nodup_keys _,
        fun key => by simp only [KeyMap.mem_keys_iff, hlive], (List.length_map _).symm⟩
      rebuilt := fun hfits => ofEntries_toEntries hcs (isStorable_empty.afterAll hfits)
      forAllAscending := by
        rw [listed_forAll]
        exact namesOf_ascending hcs _
      modOnlyAscending := by
        rw [listed_modOnly]
        exact namesOf_ascending hcs _
      mem_forAll := fun name => by simp [listed_forAll, mem_namesOf_iff hcs, hlive]
      mem_modOnly := fun name => by simp [listed_modOnly, mem_namesOf_iff hcs, hlive] }

/-- The Kelvin sign is the letter `k` in lowercase: it finds the command and removes it, but is no
name itself. -/
theorem reflects_afterAll_kelvin_sign :
    let log : List Operation :=
      [.add "K" { response := "one" }, .add "k" { cooldown := 5, response := "two" },
        .add "\u212A" { cooldown := -1, response := "three" }]
    let cs := empty.afterAll log
    let command : Command := ⟨"k", 5, false, false, "two"⟩
    cs.lookup "\u212A" = some command ∧
      cs.remove "\u212A" = .ok (command, cs.after (.remove "\u212A")) ∧
      cs.add "\u212A" { cooldown := -1, response := "three" } =
        .error (.invalidCommandName "\u212A") ∧
      ofEntries cs.toEntries.entries = .ok cs := by
  intro log cs command
  have h : Reflects log cs := reflects_afterAll log
  have hkelvin : ¬ MatchesNamePattern "\u212A" := by decide +kernel
  have hlive : IsLive log (Text.lower "\u212A") command := by
    refine ⟨[.add "K" { response := "one" }], .add "k" { cooldown := 5, response := "two" },
      [.add "\u212A" { cooldown := -1, response := "three" }], rfl,
      ⟨by decide +kernel, by decide, by decide +kernel, by decide +kernel⟩, fun next hnext => ?_⟩
    obtain rfl := List.mem_singleton.1 hnext
    rintro (⟨_, hstores⟩ | hremoves)
    · exact hkelvin hstores.1
    · exact hremoves
  have hfits : ∀ name entry, .add name entry ∈ log → entry.Fits := by
    intro name entry hmem
    simp only [log, List.mem_cons, List.not_mem_nil, or_false, Operation.add.injEq] at hmem
    rcases hmem with ⟨-, rfl⟩ | ⟨-, rfl⟩ | ⟨-, rfl⟩ <;> decide
  have hlookup := (h.lookup _ _).2 hlive
  exact ⟨hlookup, h.removed _ _ hlookup, h.badName _ _ hkelvin, h.rebuilt hfits⟩

end CommandBot.Commands
