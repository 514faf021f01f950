import CommandBot.Module.Builtin
import CommandBot.Proofs.Commands.History
import CommandBot.Proofs.Number.Integer
import CommandBot.Proofs.Text.Casing

/-!
# The grammar of `cmdadd`

`Reads` takes the words after the name apart: at most one whole number, then as many flags as there
are, then the response. Any words can be read so, and in one way only, because `parse` follows every
such reading (`parse_of_asks`, `parse_of_reads_nil`). `Answers` lists what the module says, with
what the channel is then: either the whole command is stored or everything stays as it is, and the
module does just what is listed (`call_commandAdd`).
-/

namespace CommandBot.CommandAdd

/-- The word is the flag of commands for moderators, in any letter case. -/
def IsModOnlyFlag (settings : Settings) (word : String) : Prop :=
  Text.lower word = Text.lower settings.modOnlyFlag

/-- The word is the flag of hidden commands, in any letter case. -/
def IsHiddenFlag (settings : Settings) (word : String) : Prop :=
  Text.lower word = Text.lower settings.hiddenFlag

instance (settings : Settings) (word : String) : Decidable (IsModOnlyFlag settings word) :=
  inferInstanceAs (Decidable (_ = _))

instance (settings : Settings) (word : String) : Decidable (IsHiddenFlag settings word) :=
  inferInstanceAs (Decidable (_ = _))

/-- All of the first words are flags, and those after them do not start with one. -/
structure IsCut (settings : Settings) (flags response : List String) : Prop where
  flags : ∀ flag ∈ flags, IsModOnlyFlag settings flag ∨ IsHiddenFlag settings flag
  response : ∀ word ∈ response.head?, ¬ IsModOnlyFlag settings word ∧ ¬ IsHiddenFlag settings word

/-- The words after the name are a cooldown, flags and a response. Without a cooldown that of the
settings counts. -/
inductive Reads (settings : Settings) : List String → Int → List String → List String → Prop
  | given {word : String} {cooldown : Int} {flags response : List String}
      (hword : Number.IsSigned 64 word cooldown) (hcut : IsCut settings flags response) :
      Reads settings (word :: (flags ++ response)) cooldown flags response
  | default {flags response : List String}
      (hword : ∀ word ∈ (flags ++ response).head?, ∀ n, ¬ Number.IsSigned 64 word n)
      (hcut : IsCut settings flags response) :
      Reads settings (flags ++ response) settings.defaultCooldown flags response

/-- What the flags make of a command. A word that is spelled like both flags is the first. -/
structure Flagged (settings : Settings) (flags : List String) (modOnly hidden : Bool) : Prop where
  modOnly : modOnly = true ↔ ∃ flag ∈ flags, IsModOnlyFlag settings flag
  hidden : hidden = true ↔
    ∃ flag ∈ flags, ¬ IsModOnlyFlag settings flag ∧ IsHiddenFlag settings flag

/-- The words after the name ask for this entry. -/
def Asks (settings : Settings) (words : List String) (entry : StoredCommand) : Prop :=
  ∃ flags response, Reads settings words entry.cooldown flags response ∧ response ≠ [] ∧
    Flagged settings flags entry.modOnly entry.hidden ∧ entry.response = " ".intercalate response

/-- What is said to the arguments, and the channel after that. -/
inductive Answers (settings : Settings) (channel : Channel) :
    List String → String × Channel → Prop
  | nothing : Answers settings channel [] (Wording.noCommandInfo, channel)
  | incomplete {name : String} {words flags : List String} {cooldown : Int}
      (h : Reads settings words cooldown flags []) :
      Answers settings channel (name :: words) (Wording.commandIncomplete, channel)
  | badName {name : String} {words : List String} {entry : StoredCommand}
      (h : Asks settings words entry) (hname : ¬ MatchesNamePattern (Text.lower name)) :
      Answers settings channel (name :: words) (Wording.invalidName, channel)
  | negative {name : String} {words : List String} {entry : StoredCommand}
      (h : Asks settings words entry) (hname : MatchesNamePattern (Text.lower name))
      (hcooldown : entry.cooldown < 0) :
      Answers settings channel (name :: words) (Wording.negativeCooldown, channel)
  | stored {name : String} {words : List String} {entry : StoredCommand}
      (h : Asks settings words entry) (hname : MatchesNamePattern (Text.lower name))
      (hcooldown : 0 ≤ entry.cooldown) :
      Answers settings channel (name :: words)
        (Wording.commandAdded (Text.lower name),
          { channel with
            commands := ⟨channel.commands.byName.insert (Text.lower name)
              (Commands.ofStored name entry)⟩
            unsaved := true })

variable {settings : Settings} {channel : Channel} {name : String}
  {words flags response : List String} {cooldown : Int} {entry : StoredCommand}

/-! ### Every list of words can be read -/

theorem exists_cut (settings : Settings) (words : List String) :
    ∃ flags response, words = flags ++ response ∧ IsCut settings flags response := by
  induction words with
  | nil => exact ⟨[], [], rfl, fun _ h => absurd h List.not_mem_nil, fun _ h => by cases h⟩
  | cons word rest ih =>
      by_cases hflag : IsModOnlyFlag settings word ∨ IsHiddenFlag settings word
      · obtain ⟨flags, response, rfl, hcut⟩ := ih
        exact ⟨word :: flags, response, rfl, List.forall_mem_cons.2 ⟨hflag, hcut.flags⟩,
          hcut.response⟩
      · refine ⟨[], word :: rest, rfl, fun _ h => absurd h List.not_mem_nil, fun first h => ?_⟩
        obtain rfl := Option.some.inj h
        exact not_or.1 hflag

theorem exists_reads (settings : Settings) (words : List String) :
    ∃ cooldown flags response, Reads settings words cooldown flags response := by
  by_cases hnumber : ∃ word ∈ words.head?, ∃ n, Number.IsSigned 64 word n
  · obtain ⟨word, hhead, n, hn⟩ := hnumber
    obtain ⟨rest, rfl⟩ := List.head?_eq_some_iff.1 hhead
    obtain ⟨flags, response, rfl, hcut⟩ := exists_cut settings rest
    exact ⟨n, flags, response, .given hn hcut⟩
  · obtain ⟨flags, response, rfl, hcut⟩ := exists_cut settings words
    exact ⟨_, flags, response, .default (fun word hword n hn => hnumber ⟨word, hword, n, hn⟩) hcut⟩

theorem exists_flagged (settings : Settings) (flags : List String) :
    ∃ modOnly hidden, Flagged settings flags modOnly hidden :=
  ⟨_, _, decide_eq_true_iff, decide_eq_true_iff⟩

/-- Either the response is missing, or the words ask for an entry. -/
theorem incomplete_or_asks (settings : Settings) (words : List String) :
    (∃ cooldown flags, Reads settings words cooldown flags []) ∨
      ∃ entry, Asks settings words entry := by
  obtain ⟨cooldown, flags, response, hreads⟩ := exists_reads settings words
  by_cases hresponse : response = []
  · subst hresponse
    exact .inl ⟨cooldown, flags, hreads⟩
  · obtain ⟨modOnly, hidden, hflagged⟩ := exists_flagged settings flags
    exact .inr ⟨⟨cooldown, modOnly, hidden, " ".intercalate response⟩, flags, response, hreads,
      hresponse, hflagged, rfl⟩

/-! ### The words are read in this way -/

theorem takeCooldown_of_reads (h : Reads settings words cooldown flags response) :
    takeCooldown settings words = (cooldown, flags ++ response) := by
  cases h with
  | given hword hcut => rw [takeCooldown, Number.readSigned?_eq_some_iff.2 hword]
  | default hword hcut =>
      cases hwords : flags ++ response with
      | nil => rfl
      | cons word rest =>
          rw [hwords] at hword
          rw [takeCooldown, Number.readSigned?_eq_none_iff.2 (hword word rfl)]

theorem Reads.isCut (h : Reads settings words cooldown flags response) :
    IsCut settings flags response := by
  cases h with
  | given hword hcut => exact hcut
  | default hword hcut => exact hcut

section

variable (modOnly hidden : Bool) {flag word : String} (rest : List String)

theorem takeFlags_cons_of_isModOnlyFlag (h : IsModOnlyFlag settings flag) :
    takeFlags settings modOnly hidden (flag :: rest) = takeFlags settings true hidden rest :=
  if_pos h

theorem takeFlags_cons_of_isHiddenFlag (hnot : ¬ IsModOnlyFlag settings flag)
    (h : IsHiddenFlag settings flag) :
    takeFlags settings modOnly hidden (flag :: rest) = takeFlags settings modOnly true rest :=
  (if_neg hnot).trans (if_pos h)

theorem takeFlags_cons_of_not_flag (hmodOnly : ¬ IsModOnlyFlag settings word)
    (hhidden : ¬ IsHiddenFlag settings word) :
    takeFlags settings modOnly hidden (word :: rest) = (modOnly, hidden, word :: rest) :=
  (if_neg hmodOnly).trans (if_neg hhidden)

end

/-- The flags are taken one by one, onto those that were taken before. -/
theorem takeFlags_append {modOnly hidden modOnly' hidden' : Bool}
    (hcut : IsCut settings flags response)
    (hmodOnly : modOnly' = true ↔ modOnly = true ∨ ∃ flag ∈ flags, IsModOnlyFlag settings flag)
    (hhidden : hidden' = true ↔ hidden = true ∨
      ∃ flag ∈ flags, ¬ IsModOnlyFlag settings flag ∧ IsHiddenFlag settings flag) :
    takeFlags settings modOnly hidden (flags ++ response) = (modOnly', hidden', response) := by
  -- what was taken before changes with every flag, so the induction is for any of it
  induction flags generalizing modOnly hidden with
  | nil =>
      have hmodOnly' : modOnly' = modOnly := Bool.eq_iff_iff.2 (by simpa using hmodOnly)
      have hhidden' : hidden' = hidden := Bool.eq_iff_iff.2 (by simpa using hhidden)
      rw [hmodOnly', hhidden', List.nil_append]
      cases response with
      | nil => rfl
      | cons word rest =>
          obtain ⟨hfirst, hsecond⟩ := hcut.response word rfl
          exact takeFlags_cons_of_not_flag _ _ rest hfirst hsecond
  | cons flag rest ih =>
      have hrest : IsCut settings rest response :=
        ⟨fun other hother => hcut.flags other (List.mem_cons_of_mem _ hother), hcut.response⟩
      rw [List.cons_append]
      by_cases hflag : IsModOnlyFlag settings flag
      · rw [takeFlags_cons_of_isModOnlyFlag _ _ _ hflag]
        refine ih hrest ?_ ?_
        · simpa [hflag] using hmodOnly
        · simpa [hflag] using hhidden
      · have hother : IsHiddenFlag settings flag :=
          (hcut.flags flag List.mem_cons_self).resolve_left hflag
        rw [takeFlags_cons_of_isHiddenFlag _ _ _ hflag hother]
        refine ih hrest ?_ ?_
        · simpa [hflag] using hmodOnly
        · simpa [hflag, hother] using hhidden

theorem takeFlags_of_flagged {modOnly hidden : Bool} (hcut : IsCut settings flags response)
    (h : Flagged settings flags modOnly hidden) :
    takeFlags settings false false (flags ++ response) = (modOnly, hidden, response) := by
  refine takeFlags_append hcut ?_ ?_
  · simpa using h.modOnly
  · simpa using h.hidden

theorem parse_of_reads_nil (name : String) (h : Reads settings words cooldown flags []) :
    parse settings (name :: words) = .error Wording.commandIncomplete := by
  obtain ⟨modOnly, hidden, hflagged⟩ := exists_flagged settings flags
  simp only [parse, takeCooldown_of_reads h, takeFlags_of_flagged h.isCut hflagged]
  rfl

theorem parse_of_asks (name : String) (h : Asks settings words entry) :
    parse settings (name :: words) = .ok ⟨Text.lower name, entry⟩ := by
  obtain ⟨flags, response, hreads, hresponse, hflagged, htext⟩ := h
  simp only [parse, takeCooldown_of_reads hreads, takeFlags_of_flagged hreads.isCut hflagged]
  rw [if_neg (by simpa using hresponse), ← htext]

/-! ### What is answered -/

theorem perform_of_asks (channel : Channel) (h : Asks settings words entry) :
    perform settings (name :: words) channel = store channel ⟨Text.lower name, entry⟩ := by
  rw [perform, parse_of_asks name h]

theorem perform_of_answers {args : List String} {answer : String × Channel}
    (h : Answers settings channel args answer) : perform settings args channel = .ok answer := by
  cases h with
  | nothing => rfl
  | incomplete h => rw [perform, parse_of_reads_nil _ h]
  | badName h hname => rw [perform_of_asks channel h, store, Commands.add_of_not_matches _ _ hname]
  | negative h hname hcooldown =>
      rw [perform_of_asks channel h, store, Commands.add_of_negative _ hname hcooldown]
  | stored h hname hcooldown =>
      rw [perform_of_asks channel h, store, Commands.add_of_matches _ hname hcooldown]
      simp [Commands.ofStored, Channel.markUnsaved]

theorem exists_answers (settings : Settings) (channel : Channel) (args : List String) :
    ∃ answer, Answers settings channel args answer := by
  cases args with
  | nil => exact ⟨_, .nothing⟩
  | cons name words =>
      rcases incomplete_or_asks settings words with ⟨cooldown, flags, hreads⟩ | ⟨entry, hasks⟩
      · exact ⟨_, .incomplete hreads⟩
      · by_cases hname : MatchesNamePattern (Text.lower name)
        · by_cases hcooldown : entry.cooldown < 0
          · exact ⟨_, .negative hasks hname hcooldown⟩
          · exact ⟨_, .stored hasks hname (Int.not_lt.1 hcooldown)⟩
        · exact ⟨_, .badName hasks hname⟩

theorem call_of_answers (network : Network) {call : Invocation} {answer : String × Channel}
    (h : Answers settings call.channel call.args answer) :
    Callable.call network (Builtin.commandAdd settings) call =
      Builtin.say (.commandAdd settings) call answer := by
  change Builtin.runCommandAdd settings call = _
  rw [Builtin.runCommandAdd, perform_of_answers h]

/-- What `cmdadd` does with its arguments: it answers just what is listed for them and never fails,
and it leaves the channel as it is listed, either marked and with one command stored under the
lowercase of its name, or as it was. Nothing else changes, and no time passes. In particular any
command can be stored that has a valid name and a cooldown in the range, by writing out its
cooldown, some flags, and a response that does not start with a flag. Later words of the response
may look like flags or numbers. -/
theorem call_commandAdd (network : Network) (settings : Settings) (call : Invocation) :
    (∃ answer : String × Channel,
      Callable.call network (Builtin.commandAdd settings) call =
        Builtin.say (.commandAdd settings) call answer ∧
      ∀ other, Answers settings call.channel call.args other ↔ other = answer) ∧
    ∀ (name : String) (cooldown : Nat) (flags response : List String) (modOnly hidden : Bool),
      MatchesNamePattern name → cooldown < Number.twoPow 63 → IsCut settings flags response →
      response ≠ [] → Flagged settings flags modOnly hidden →
      Answers settings call.channel (name :: toString cooldown :: (flags ++ response))
        (Wording.commandAdded (Text.lower name),
          { call.channel with
            commands := ⟨call.channel.commands.byName.insert (Text.lower name)
              ⟨Text.lower name, cooldown, modOnly, hidden, " ".intercalate response⟩⟩
            unsaved := true }) := by
  refine ⟨?_, fun name cooldown flags response modOnly hidden hname hfits hcut hresponse
    hflagged => ?_⟩
  · obtain ⟨answer, hanswer⟩ := exists_answers settings call.channel call.args
    refine ⟨answer, call_of_answers network hanswer, fun other => ⟨fun hother => ?_, ?_⟩⟩
    · have hperform := perform_of_answers hother
      rw [perform_of_answers hanswer] at hperform
      exact (Except.ok.inj hperform).symm
    · rintro rfl
      exact hanswer
  · have hasks : Asks settings (toString cooldown :: (flags ++ response))
        ⟨cooldown, modOnly, hidden, " ".intercalate response⟩ :=
      ⟨flags, response, .given (Number.isSigned_toString hfits) hcut, hresponse, hflagged, rfl⟩
    exact .stored hasks hname.lower (Int.natCast_nonneg cooldown)

/-- A command is stored whose response starts with a number and holds a flag. -/
theorem call_commandAdd_numeric_response :
    let settings : Settings := ⟨"-modonly", "-hidden", 5⟩
    let channel := Channel.start "room" "r!" .empty 0
    let call : Invocation := ⟨["Hi", "7", "-HIDDEN", "-modonly", "5", "-hidden", "x"],
      ⟨"1", "ann", true, false, false⟩, 0, .empty, channel, []⟩
    Callable.call .down (Builtin.commandAdd settings) call =
      Builtin.say (.commandAdd settings) call ("Command hi added successfully.",
        { channel with
          commands := ⟨channel.commands.byName.insert "hi" ⟨"hi", 7, true, true, "5 -hidden x"⟩⟩
          unsaved := true }) := by
  intro settings channel call
  have hcut : IsCut settings ["-HIDDEN", "-modonly"] ["5", "-hidden", "x"] :=
    ⟨by decide +kernel, by decide +kernel⟩
  have hflagged : Flagged settings ["-HIDDEN", "-modonly"] true true :=
    ⟨by decide +kernel, by decide +kernel⟩
  have hlower : Text.lower "Hi" = "hi" := by decide +kernel
  obtain ⟨⟨answer, hcall, hanswers⟩, hstored⟩ := call_commandAdd .down settings call
  have hanswer := hstored "Hi" 7 _ _ true true (by decide) (by decide) hcut (by decide) hflagged
  rw [hcall, ← (hanswers _).1 hanswer, hlower]
  rfl

end CommandBot.CommandAdd
