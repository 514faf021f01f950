import CommandBot.Number.Integer
import CommandBot.Proofs.KeyMap
import CommandBot.Proofs.Text.Casing
import CommandBot.Proofs.Text.Names

/-!
# Well-formed commands

In the commands of a channel each command stands under its own name, which is valid and in
lowercase (`Commands.WellFormed`), and its cooldown is one that can be stored
(`Commands.IsStorable`). Adding and removing keep this up. Commands of this kind can be rebuilt
from the entries that are stored of them (`ofEntries_toEntries`).
-/

namespace CommandBot

theorem Number.fitsSigned_iff (bits : Nat) (n : Int) :
    fitsSigned bits n = true ↔ -(twoPow (bits - 1) : Int) ≤ n ∧ n < twoPow (bits - 1) := by
  simp [fitsSigned]

/-- The cooldown is one that a config can hold. -/
def StoredCommand.Fits (entry : StoredCommand) : Prop :=
  Number.fitsSigned 64 entry.cooldown = true

instance (entry : StoredCommand) : Decidable entry.Fits :=
  inferInstanceAs (Decidable (Number.fitsSigned 64 entry.cooldown = true))

theorem StoredCommand.Fits.lt {entry : StoredCommand} (h : entry.Fits) :
    entry.cooldown < Number.twoPow 63 :=
  ((Number.fitsSigned_iff 64 _).1 h).2

theorem Command.fits_stored (c : Command) : c.stored.Fits := by
  have hpos : 0 < Number.twoPow 63 := by decide
  refine (Number.fitsSigned_iff 64 _).2 ?_
  change -(Number.twoPow 63 : Int) ≤ min (c.cooldown : Int) (Number.twoPow 63 - 1) ∧
    min (c.cooldown : Int) (Number.twoPow 63 - 1) < Number.twoPow 63
  omega

namespace Commands

/-- The command stands under its own name, which is valid and in lowercase. -/
structure IsProper (key : String) (command : Command) : Prop where
  named : command.name = key
  valid : isValidName key = true
  lowered : Text.lower key = key

/-- Every command stands under its own name, which is valid and in lowercase. -/
def WellFormed (cs : Commands) : Prop :=
  ∀ key command, cs.byName.get? key = some command → IsProper key command

/-- Every command has a cooldown that a config can hold. -/
def IsStorable (cs : Commands) : Prop :=
  ∀ key command, cs.byName.get? key = some command → command.cooldown < Number.twoPow 63

/-- The command that an entry becomes under a name. -/
def ofStored (name : String) (entry : StoredCommand) : Command :=
  ⟨Text.lower name, entry.cooldown.toNat, entry.modOnly, entry.hidden, entry.response⟩

/-- Adding succeeds for a valid name and a cooldown that is not negative, and then stores the
command under its name in lowercase. -/
theorem add_eq_ok_iff {cs cs' : Commands} {name : String} {entry : StoredCommand} :
    cs.add name entry = .ok cs' ↔
      isValidName name = true ∧ 0 ≤ entry.cooldown ∧
        cs' = ⟨cs.byName.insert (Text.lower name) (ofStored name entry)⟩ := by
  unfold add
  by_cases hvalid : isValidName name = true
  · by_cases hneg : entry.cooldown < 0
    · simp [hvalid, hneg, Int.not_le.2 hneg]
    · simp only [hvalid, hneg, Bool.not_true, Bool.false_eq_true, if_false, true_and,
        Except.ok.injEq, Int.not_lt.1 hneg, ofStored]
      exact eq_comm
  · simp [hvalid]

theorem isProper_ofStored {name : String} (entry : StoredCommand) (h : isValidName name = true) :
    IsProper (Text.lower name) (ofStored name entry) :=
  ⟨rfl, isValidName_lower h, Text.lower_lower _⟩

theorem lookup_eq_some {cs : Commands} {name : String} {command : Command}
    (h : cs.lookup name = some command) (hcs : cs.WellFormed) :
    command.name = Text.lower name ∧ cs.byName.get? command.name = some command := by
  have hname := (hcs _ _ h).named
  exact ⟨hname, by rw [hname]; exact h⟩

theorem remove_eq_ok_iff {cs cs' : Commands} {name : String} {command : Command} :
    cs.remove name = .ok (command, cs') ↔
      cs.lookup name = some command ∧ cs' = ⟨cs.byName.erase (Text.lower name)⟩ := by
  unfold remove
  cases hfound : cs.lookup name with
  | none => simp
  | some found =>
      simp only [Except.ok.injEq, Prod.mk.injEq, Option.some.injEq]
      exact and_congr_right fun _ => eq_comm

theorem wellFormed_empty : empty.WellFormed := by
  intro key command h
  simp [empty] at h

theorem isStorable_empty : empty.IsStorable := by
  intro key command h
  simp [empty] at h

theorem WellFormed.add {cs cs' : Commands} {name : String} {entry : StoredCommand}
    (hcs : cs.WellFormed) (h : cs.add name entry = .ok cs') : cs'.WellFormed := by
  obtain ⟨hvalid, -, rfl⟩ := add_eq_ok_iff.1 h
  intro key command hget
  rw [KeyMap.get?_insert] at hget
  split at hget
  · rename_i hkey
    obtain rfl := Option.some.inj hget
    rw [hkey]
    exact isProper_ofStored entry hvalid
  · exact hcs key command hget

theorem IsStorable.add {cs cs' : Commands} {name : String} {entry : StoredCommand}
    (hcs : cs.IsStorable) (hentry : entry.Fits) (h : cs.add name entry = .ok cs') :
    cs'.IsStorable := by
  obtain ⟨-, hcooldown, rfl⟩ := add_eq_ok_iff.1 h
  intro key command hget
  rw [KeyMap.get?_insert] at hget
  split at hget
  · obtain rfl := Option.some.inj hget
    have hlt := hentry.lt
    change entry.cooldown.toNat < _
    omega
  · exact hcs key command hget

theorem WellFormed.remove {cs cs' : Commands} {name : String} {command : Command}
    (hcs : cs.WellFormed) (h : cs.remove name = .ok (command, cs')) : cs'.WellFormed := by
  obtain ⟨-, rfl⟩ := remove_eq_ok_iff.1 h
  exact fun key found hget => hcs key found (KeyMap.get?_of_get?_erase hget)

theorem IsStorable.remove {cs cs' : Commands} {name : String} {command : Command}
    (hcs : cs.IsStorable) (h : cs.remove name = .ok (command, cs')) : cs'.IsStorable := by
  obtain ⟨-, rfl⟩ := remove_eq_ok_iff.1 h
  exact fun key found hget => hcs key found (KeyMap.get?_of_get?_erase hget)

theorem addNew_eq_ok_iff {cs cs' : Commands} {name : String} {entry : StoredCommand} :
    cs.addNew name entry = .ok cs' ↔ cs.lookup name = none ∧ cs.add name entry = .ok cs' := by
  unfold addNew
  cases cs.lookup name with
  | none => simp
  | some command => simp

theorem addAllNew_cons_eq_ok_iff {cs cs' : Commands} {name : String} {entry : StoredCommand}
    {rest : List (String × StoredCommand)} :
    cs.addAllNew ((name, entry) :: rest) = .ok cs' ↔
      ∃ next, cs.addNew name entry = .ok next ∧ next.addAllNew rest = .ok cs' := by
  rw [addAllNew]
  cases cs.addNew name entry with
  | error fault => simp
  | ok next => simp

theorem WellFormed.addAllNew {cs cs' : Commands} {entries : List (String × StoredCommand)}
    (hcs : cs.WellFormed) (h : cs.addAllNew entries = .ok cs') : cs'.WellFormed := by
  induction entries generalizing cs with
  | nil =>
      obtain rfl := Except.ok.inj h
      exact hcs
  | cons e rest ih =>
      obtain ⟨next, hnext, hrest⟩ := addAllNew_cons_eq_ok_iff.1 h
      exact ih (hcs.add (addNew_eq_ok_iff.1 hnext).2) hrest

theorem IsStorable.addAllNew {cs cs' : Commands} {entries : List (String × StoredCommand)}
    (hcs : cs.IsStorable) (hentries : ∀ e ∈ entries, e.2.Fits)
    (h : cs.addAllNew entries = .ok cs') : cs'.IsStorable := by
  induction entries generalizing cs with
  | nil =>
      obtain rfl := Except.ok.inj h
      exact hcs
  | cons e rest ih =>
      obtain ⟨next, hnext, hrest⟩ := addAllNew_cons_eq_ok_iff.1 h
      have hfits := hentries e List.mem_cons_self
      exact ih (hcs.add hfits (addNew_eq_ok_iff.1 hnext).2)
        (fun d hd => hentries d (List.mem_cons_of_mem _ hd)) hrest

theorem wellFormed_of_ofEntries {cs : Commands} {entries : List (String × StoredCommand)}
    (h : ofEntries entries = .ok cs) : cs.WellFormed :=
  wellFormed_empty.addAllNew h

theorem isStorable_of_ofEntries {cs : Commands} {entries : List (String × StoredCommand)}
    (hentries : ∀ e ∈ entries, e.2.Fits) (h : ofEntries entries = .ok cs) : cs.IsStorable :=
  isStorable_empty.addAllNew hentries h

theorem exists_of_get?_addAllNew {cs cs' : Commands} {entries : List (String × StoredCommand)}
    (h : cs.addAllNew entries = .ok cs') {key : String} {command : Command}
    (hget : cs'.byName.get? key = some command) :
    cs.byName.get? key = some command ∨ ∃ e ∈ entries, command = ofStored e.1 e.2 := by
  induction entries generalizing cs with
  | nil =>
      obtain rfl := Except.ok.inj h
      exact .inl hget
  | cons e rest ih =>
      obtain ⟨next, hnext, hrest⟩ := addAllNew_cons_eq_ok_iff.1 h
      rcases ih hrest with hold | ⟨d, hd, hcommand⟩
      · obtain ⟨-, -, rfl⟩ := add_eq_ok_iff.1 (addNew_eq_ok_iff.1 hnext).2
        rw [KeyMap.get?_insert] at hold
        split at hold
        · exact .inr ⟨e, List.mem_cons_self, (Option.some.inj hold).symm⟩
        · exact .inl hold
      · exact .inr ⟨d, List.mem_cons_of_mem _ hd, hcommand⟩

theorem exists_of_get?_ofEntries {cs : Commands} {entries : List (String × StoredCommand)}
    (h : ofEntries entries = .ok cs) {key : String} {command : Command}
    (hget : cs.byName.get? key = some command) :
    ∃ e ∈ entries, command = ofStored e.1 e.2 := by
  rcases exists_of_get?_addAllNew h hget with hold | hentry
  · rw [empty, KeyMap.get?_empty] at hold
    cases hold
  · exact hentry

theorem ofStored_stored {key : String} {command : Command} (hproper : IsProper key command)
    (hcooldown : command.cooldown < Number.twoPow 63) : ofStored key command.stored = command := by
  have hmin : (min (command.cooldown : Int) (Number.twoPow 63 - 1)).toNat = command.cooldown := by
    omega
  obtain ⟨name, cooldown, modOnly, hidden, response⟩ := command
  obtain rfl : name = key := hproper.named
  simp only [ofStored, Command.stored, hproper.lowered, Command.mk.injEq, true_and, and_true]
  exact hmin

theorem add_stored (cs : Commands) {key : String} {command : Command}
    (hproper : IsProper key command) (hcooldown : command.cooldown < Number.twoPow 63) :
    cs.add key command.stored = .ok ⟨cs.byName.insert key command⟩ := by
  refine add_eq_ok_iff.2 ⟨hproper.valid, ?_, ?_⟩
  · have hpos : 0 < Number.twoPow 63 := by decide
    change 0 ≤ min (command.cooldown : Int) (Number.twoPow 63 - 1)
    omega
  · rw [ofStored_stored hproper hcooldown, hproper.lowered]

/-- Proper commands under new names are added as they are. -/
theorem addAllNew_stored (cs : Commands) {rest : List (String × Command)}
    (hproper : ∀ e ∈ rest, IsProper e.1 e.2)
    (hcooldown : ∀ e ∈ rest, e.2.cooldown < Number.twoPow 63)
    (hascending : Ascending rest) (hnew : ∀ e ∈ rest, cs.byName.get? e.1 = none) :
    cs.addAllNew (rest.map fun e => (e.1, e.2.stored)) = .ok ⟨cs.byName.insertAll rest⟩ := by
  induction rest generalizing cs with
  | nil => rfl
  | cons e rest ih =>
      have hhead := hproper e List.mem_cons_self
      have hadd := add_stored cs hhead (hcooldown e List.mem_cons_self)
      have hlookup : cs.lookup e.1 = none := by
        rw [lookup, hhead.lowered]
        exact hnew e List.mem_cons_self
      have hrest := ih ⟨cs.byName.insert e.1 e.2⟩
        (fun d hd => hproper d (List.mem_cons_of_mem _ hd))
        (fun d hd => hcooldown d (List.mem_cons_of_mem _ hd)) hascending.tail
        fun d hd => by
          rw [KeyMap.get?_insert_of_ne _ _ (hascending.ne_of_mem d hd)]
          exact hnew d (List.mem_cons_of_mem _ hd)
      exact addAllNew_cons_eq_ok_iff.2 ⟨_, addNew_eq_ok_iff.2 ⟨hlookup, hadd⟩, hrest⟩

theorem toEntries_eq_map {cs : Commands} (hcs : cs.WellFormed) :
    cs.toEntries = cs.byName.map Command.stored := by
  have hnames : (cs.byName.values.map fun c => (c.name, c.stored)) =
      cs.byName.entries.map fun e => (e.1, e.2.stored) := by
    rw [KeyMap.values, List.map_map]
    refine List.map_congr_left fun e he => ?_
    have hname := (hcs e.1 e.2 (KeyMap.get?_of_mem he)).named
    simp only [Function.comp_apply, hname]
  rw [toEntries, hnames, KeyMap.ofList_map_entries]

theorem ofEntries_toEntries {cs : Commands} (hcs : cs.WellFormed) (hstorable : cs.IsStorable) :
    ofEntries cs.toEntries.entries = .ok cs := by
  have hall := addAllNew_stored empty
    (fun e he => hcs e.1 e.2 (KeyMap.get?_of_mem he))
    (fun e he => hstorable e.1 e.2 (KeyMap.get?_of_mem he)) cs.byName.ascending fun e _ => rfl
  have hmap : empty.byName.insertAll cs.byName.entries = cs.byName := KeyMap.ofList_entries _
  rw [hmap] at hall
  rw [toEntries_eq_map hcs]
  exact hall

theorem fits_of_mem_toEntries {cs : Commands} (hcs : cs.WellFormed) {e : String × StoredCommand}
    (h : e ∈ cs.toEntries.entries) : e.2.Fits := by
  rw [toEntries_eq_map hcs, KeyMap.entries_map] at h
  obtain ⟨d, -, rfl⟩ := List.mem_map.1 h
  exact d.2.fits_stored

end Commands

end CommandBot
