import CommandBot.Proofs.Commands.Entries
import CommandBot.Proofs.CommandAdd.Grammar

/-!
# The names that `cmdadd` takes

`cmdadd` looks at the name in lowercase, the commands of a channel at the name as it is typed. The
two differ for one character alone: of all characters that names may not hold, only the Kelvin sign
has a lowercase that they may hold, the letter `k` (`forall_lowerChar_iff`). So a name with a Kelvin
sign and nothing else amiss, which the commands refuse and a config may not hold, is stored by
`cmdadd`; every other name is taken or refused by all of them alike (`call_commandAdd_name`).
-/

namespace CommandBot

namespace Text

/-- The sign of the unit of temperature, which looks like the letter `K`. -/
def kelvinSign : Char := Char.ofNat 0x212A

/-- A run of the lowercase mapping stays in ASCII, holds the Kelvin sign alone, or does not end in
ASCII. -/
theorem lowerRuns_ascii : ∀ run ∈ lowerRuns,
    run.last < 128 ∨ run.first = 0x212A ∧ run.last = 0x212A ∨ 128 ≤ run.target := by
  decide +kernel

theorem not_isNameChar_ofNat {n : Nat} (h : 128 ≤ n) : isNameChar (Char.ofNat n) = false := by
  rw [← Bool.not_eq_true]
  intro hname
  rcases toNat_ofNat_or_eq_ofNat_zero n with hcode | hzero
  · have hlt := toNat_lt_of_isNameChar hname
    omega
  · rw [hzero] at hname
    exact absurd hname (by decide)

theorem isNameChar_or_eq_kelvinSign_of_shiftCase {c : Char} (hcode : 128 ≤ c.toNat)
    (h : isNameChar (shiftCase lowerRuns c) = true) : isNameChar c = true ∨ c = kelvinSign := by
  unfold shiftCase at h
  split at h
  · rename_i run hrun
    have hcovers := List.find?_some hrun
    obtain ⟨hfirst, hlast, -⟩ := (CaseRun.covers_iff run c.toNat).1 hcovers
    rcases lowerRuns_ascii run (List.mem_of_find?_eq_some hrun) with
      hlow | ⟨hkelvin, hkelvin'⟩ | hhigh
    · omega
    · have hsign : c.toNat = 0x212A := by omega
      refine .inr ?_
      rw [kelvinSign, ← hsign, Char.ofNat_toNat]
    · have hsend : 128 ≤ run.send c.toNat := Nat.le_trans hhigh (Nat.le_add_right _ _)
      rw [not_isNameChar_ofNat hsend] at h
      cases h
  · exact .inl h

/-- Of the characters that names may not hold only the Kelvin sign comes in lowercase to one that
they may hold. -/
theorem forall_lowerChar_iff (c : Char) :
    (∀ d ∈ lowerChar c, isNameChar d = true) ↔ isNameChar c = true ∨ c = kelvinSign := by
  constructor
  · intro h
    by_cases hascii : c.toNat < 128
    · rw [lowerChar_eq_of_lt hascii] at h
      exact .inl (isNameChar_of_toLower (h _ List.mem_cons_self))
    by_cases hdotted : c.toNat = 0x130
    · -- the lowercase of `İ` is an `i` and a dot above, which is no name character
      rw [lowerChar, if_pos hdotted] at h
      exact absurd (h (Char.ofNat 0x307) (by decide)) (by decide)
    · rw [lowerChar, if_neg hdotted] at h
      exact isNameChar_or_eq_kelvinSign_of_shiftCase (Nat.not_lt.1 hascii)
        (h _ List.mem_cons_self)
  · rintro (hc | rfl)
    · rw [lowerChar_eq_of_isNameChar hc]
      exact List.forall_mem_singleton.2 (isNameChar_toLower hc)
    · have hk : lowerChar kelvinSign = ['k'] := by decide +kernel
      rw [hk]
      exact List.forall_mem_singleton.2 (by decide)

theorem forall_lowerFrom_iff (before cs : List Char) :
    (∀ d ∈ lowerFrom before cs, isNameChar d = true) ↔
      ∀ c ∈ cs, isNameChar c = true ∨ c = kelvinSign := by
  induction cs generalizing before with
  | nil => simp
  | cons c rest ih =>
      rw [lowerFrom_cons, List.forall_mem_append, ih, List.forall_mem_cons]
      refine and_congr_left fun _ => ?_
      by_cases hsigma : c = 'Σ'
      · subst hsigma
        rw [if_pos rfl, List.forall_mem_singleton]
        refine iff_of_false ?_ (by decide)
        split
        · decide
        · decide
      · rw [if_neg hsigma]
        exact forall_lowerChar_iff c

theorem lowerFrom_ne_nil (before : List Char) {cs : List Char} (h : cs ≠ []) :
    lowerFrom before cs ≠ [] := by
  cases cs with
  | nil => exact absurd rfl h
  | cons c rest =>
      rw [lowerFrom_cons]
      refine List.append_ne_nil_of_left_ne_nil ?_ _
      split
      · exact List.cons_ne_nil _ _
      · unfold lowerChar
        split
        · exact List.cons_ne_nil _ _
        · exact List.cons_ne_nil _ _

end Text

open Text

/-- A name, but for Kelvin signs in it. -/
def IsLooseName (name : String) : Prop :=
  name.toList ≠ [] ∧ ∀ c ∈ name.toList, isNameChar c = true ∨ c = kelvinSign

/-- The lowercase of a text is a name just when the text is one but for Kelvin signs. -/
theorem matchesNamePattern_lower_iff (name : String) :
    MatchesNamePattern (lower name) ↔ IsLooseName name := by
  rw [← isValidName_iff_matchesNamePattern, isValidName_iff, toList_lower, forall_lowerFrom_iff]
  refine and_congr_left fun _ => ⟨fun h hnil => h ?_, lowerFrom_ne_nil []⟩
  rw [hnil, lowerFrom_nil]

theorem matchesNamePattern_iff_isLooseName (name : String) :
    MatchesNamePattern name ↔ IsLooseName name ∧ kelvinSign ∉ name.toList := by
  rw [← isValidName_iff_matchesNamePattern, isValidName_iff, IsLooseName]
  constructor
  · rintro ⟨hne, hall⟩
    refine ⟨⟨hne, fun c hc => .inl (hall c hc)⟩, fun hkelvin => ?_⟩
    exact absurd (hall _ hkelvin) (by decide)
  · rintro ⟨⟨hne, hall⟩, hkelvin⟩
    refine ⟨hne, fun c hc => (hall c hc).resolve_right ?_⟩
    rintro rfl
    exact hkelvin hc

namespace Commands

theorem ofEntries_of_matches {name : String} {entry : StoredCommand}
    (hname : MatchesNamePattern name) (hcooldown : 0 ≤ entry.cooldown) :
    ofEntries [(name, entry)] = .ok ⟨.ofList [(lower name, ofStored name entry)]⟩ := by
  have hvalid := (isValidName_iff_matchesNamePattern name).2 hname
  exact ofEntries_eq_ok_iff.2 ⟨by simpa using ⟨hvalid, hcooldown⟩, by simp, rfl⟩

theorem ofEntries_of_not_matches {name : String} (entry : StoredCommand)
    (hname : ¬ MatchesNamePattern name) :
    ofEntries [(name, entry)] = .error (.invalidCommandName name) := by
  simp [ofEntries, addAllNew, addNew, add_of_not_matches empty entry hname]

end Commands

namespace CommandAdd

/-- What changes a channel is the storing of a command, under a name that is one but for Kelvin
signs. -/
theorem Answers.isLooseName {settings : Settings} {channel : Channel} {args : List String}
    {answer : String × Channel} (h : Answers settings channel args answer)
    (hchanged : answer.2 ≠ channel) : ∃ name words, args = name :: words ∧ IsLooseName name := by
  cases h with
  | stored _ hname _ => exact ⟨_, _, rfl, (matchesNamePattern_lower_iff _).1 hname⟩
  | _ => exact absurd rfl hchanged

/-- The names that `cmdadd` takes. It changes a channel only for a name that matches the pattern, or
would but for Kelvin signs. With a response and a cooldown that is not negative, a name that
matches as it is typed is stored just as the commands store it, and a config may hold it. One that
does not match is refused by the commands and in a config, and by `cmdadd` as well, which then
leaves the channel as it is, unless nothing is amiss but Kelvin signs: then the command is stored
under the lowercase of the name. -/
theorem call_commandAdd_name (network : Network) (settings : Settings) (call : Invocation) :
    let run := Callable.call network (Builtin.commandAdd settings) call
    let stored := fun name commands => Builtin.say (.commandAdd settings) call
      (Wording.commandAdded (lower name),
        { call.channel with commands := commands, unsaved := true })
    (run.effects.channel ≠ call.channel →
      ∃ name words, call.args = name :: words ∧ IsLooseName name) ∧
    ∀ name words entry, call.args = name :: words → Asks settings words entry →
      0 ≤ entry.cooldown →
      (MatchesNamePattern name ↔ IsLooseName name ∧ kelvinSign ∉ name.toList) ∧
      (MatchesNamePattern name → ∃ commands,
        call.channel.commands.add name entry = .ok commands ∧ run = stored name commands ∧
        (Commands.ofEntries [(name, entry)]).isOk = true) ∧
      (¬ MatchesNamePattern name →
        call.channel.commands.add name entry = .error (.invalidCommandName name) ∧
        Commands.ofEntries [(name, entry)] = .error (.invalidCommandName name) ∧
        (¬ IsLooseName name →
          run = Builtin.say (.commandAdd settings) call (Wording.invalidName, call.channel)) ∧
        (IsLooseName name → ∃ commands,
          call.channel.commands.add (lower name) entry = .ok commands ∧
          run = stored name commands)) := by
  intro run stored
  refine ⟨fun hchanged => ?_, fun name words entry hargs hasks hcooldown => ?_⟩
  · obtain ⟨answer, hanswer⟩ := exists_answers settings call.channel call.args
    have hrun : run = Builtin.say (.commandAdd settings) call answer :=
      call_of_answers network hanswer
    rw [hrun] at hchanged
    exact hanswer.isLooseName hchanged
  · have hstored : IsLooseName name →
        run = stored name ⟨call.channel.commands.byName.insert (lower name)
          (Commands.ofStored name entry)⟩ := by
      intro hname
      refine call_of_answers network ?_
      rw [hargs]
      exact .stored hasks ((matchesNamePattern_lower_iff name).2 hname) hcooldown
    refine ⟨matchesNamePattern_iff_isLooseName name, fun hname => ?_, fun hname => ?_⟩
    · refine ⟨_, Commands.add_of_matches _ hname hcooldown,
        hstored ((matchesNamePattern_iff_isLooseName name).1 hname).1, ?_⟩
      rw [Commands.ofEntries_of_matches hname hcooldown]
      rfl
    · refine ⟨Commands.add_of_not_matches _ entry hname,
        Commands.ofEntries_of_not_matches entry hname, fun hloose => ?_, fun hloose => ?_⟩
      · refine call_of_answers network ?_
        rw [hargs]
        exact .badName hasks fun hlower => hloose ((matchesNamePattern_lower_iff name).1 hlower)
      · have hlower := (matchesNamePattern_lower_iff name).2 hloose
        refine ⟨_, Commands.add_of_matches _ hlower hcooldown, ?_⟩
        rw [hstored hloose, Commands.ofStored, Commands.ofStored, lower_lower]

/-- A name that holds a hyphen is refused, and one that has a capital is stored in lowercase. -/
theorem call_commandAdd_name_typed :
    let settings : Settings := ⟨"-modonly", "-hidden", 5⟩
    let channel := Channel.start "room" "r!" .empty 0
    let call := fun name : String => (⟨[name, "hello"], ⟨"1", "ann", true, false, false⟩, 0, .empty,
      channel, []⟩ : Invocation)
    let run := fun name => Callable.call .down (Builtin.commandAdd settings) (call name)
    run "a-b" = Builtin.say (.commandAdd settings) (call "a-b") (Wording.invalidName, channel) ∧
      (∃ commands, channel.commands.add "Hi" ⟨5, false, false, "hello"⟩ = .ok commands ∧
        run "Hi" = Builtin.say (.commandAdd settings) (call "Hi")
          (Wording.commandAdded (lower "Hi"),
            { channel with commands := commands, unsaved := true })) ∧
      IsLooseName "Hi" := by
  intro settings channel call run
  have hcut : IsCut settings [] ["hello"] := ⟨by decide, by decide +kernel⟩
  have hasks : Asks settings ["hello"] ⟨5, false, false, "hello"⟩ := by
    refine ⟨[], ["hello"], .default (fun word hword => ?_) hcut, by decide,
      ⟨by decide, by decide⟩, rfl⟩
    obtain rfl := Option.some.inj hword
    exact Number.readSigned?_eq_none_iff.1 (by decide)
  have hyphen := (call_commandAdd_name .down settings (call "a-b")).2 "a-b" ["hello"] _ rfl hasks
    (by decide)
  have hcapital := (call_commandAdd_name .down settings (call "Hi")).2 "Hi" ["hello"] _ rfl hasks
    (by decide)
  have hloose : ¬ IsLooseName "a-b" := fun h =>
    absurd (h.2 '-' (by decide)) (by decide)
  obtain ⟨commands, hadd, hrun, -⟩ := hcapital.2.1 (by decide)
  refine ⟨(hyphen.2.2 (by decide)).2.2.1 hloose, ⟨commands, hadd, hrun⟩, ?_⟩
  have hchanged : (run "Hi").effects.channel ≠ channel := by
    intro hsame
    have hstored : run "Hi" = _ := hrun
    rw [hstored] at hsame
    exact Bool.false_ne_true (congrArg Channel.unsaved hsame.symm)
  obtain ⟨name, words, hargs, hname⟩ :=
    (call_commandAdd_name .down settings (call "Hi")).1 hchanged
  obtain ⟨rfl, -⟩ := List.cons.inj hargs
  exact hname

/-- The Kelvin sign is no name, and the commands of a channel refuse it, but `cmdadd` stores a
command under it: as `k`. -/
theorem kelvin_sign_stored :
    let sign := String.singleton kelvinSign
    let settings : Settings := ⟨"-modonly", "-hidden", 5⟩
    let channel := Channel.start "room" "r!" .empty 0
    let call : Invocation := ⟨[sign, "hello"], ⟨"1", "ann", true, false, false⟩, 0, .empty, channel,
      []⟩
    let after := (Callable.call .down (Builtin.commandAdd settings) call).effects.channel
    isValidName sign = false ∧
      channel.commands.add sign ⟨5, false, false, "hello"⟩ = .error (.invalidCommandName sign) ∧
      after.commands.lookup "k" = some ⟨"k", 5, false, false, "hello"⟩ ∧ after.unsaved = true := by
  intro sign settings channel call after
  refine ⟨by decide, ?_, by decide +kernel, by decide +kernel⟩
  exact Commands.add_of_not_matches _ _ (by decide)

end CommandAdd

end CommandBot
