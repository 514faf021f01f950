import CommandBot.Request.Basic

/-!
# The gates of a request

A call of the module `request` is held back, or switches the submode, or passes every gate and asks
for what a link points to, or only answers. `course` tells which, once and for all: later proofs go
through the cases of a `Course` and never look at the gates one by one.
-/

namespace CommandBot.Request

/-- The modifiers that a call asks for. -/
def requestedMods (call : Invocation) : String := (call.args.tail.head?.map modsText).getD ""

/-- The requests are closed to the author, or the author is on cooldown. -/
def IsHeld (state : State) (call : Invocation) : Prop :=
  (state.settings.submode && !call.author.isPrivileged) = true ∨
    state.cooldowns.status call.author.id call.now ≠ .ready

/-- A moderator who is not on cooldown sends `submode` first, in any letter case. -/
structure Switches (state : State) (call : Invocation) : Prop where
  moderator : call.author.isModerator = true
  ready : state.cooldowns.status call.author.id call.now = .ready
  word : ∃ word ∈ call.args.head?, Text.lower word = "submode"

/-- The author may request and is not on cooldown, and the first argument is a link in lowercase,
and not a moderator's `submode`. -/
structure Passes (state : State) (call : Invocation) (link : MapLink) : Prop where
  admitted : state.settings.submode = false ∨ call.author.isModerator = true ∨
    call.author.isSubscriber = true ∨ call.author.isVip = true
  ready : state.cooldowns.status call.author.id call.now = .ready
  word : ∃ word ∈ call.args.head?, parseLink (Text.lower word) = some link ∧
    ¬ (Text.lower word = "submode" ∧ call.author.isModerator = true)

/-- What a call does by the gates. -/
inductive Course (network : Network) (state : State) (call : Invocation) : Prop
  | held (h : IsHeld state call)
      (hrun : run network state call = .instant state call.channel call.exchanges (.ok .veto))
  | switches (h : Switches state call) (hrun : run network state call = toggleSubmode state call)
  | passes {link : MapLink} (h : Passes state call link)
      (hrun : run network state call = fulfil network state call link (requestedMods call))
  | answers {text : String} (hheld : ¬ IsHeld state call) (hswitches : ¬ Switches state call)
      (hpasses : ∀ link, ¬ Passes state call link) (htext : text ≠ Wording.requestSent)
      (hrun : run network state call = .reply state call call.channel text)

variable {state : State} {call : Invocation} {link : MapLink}

theorem isPrivileged_iff (author : Author) :
    author.isPrivileged = true ↔
      author.isModerator = true ∨ author.isSubscriber = true ∨ author.isVip = true := by
  simp [Author.isPrivileged, or_assoc]

theorem not_isHeld_iff :
    ¬ IsHeld state call ↔
      (state.settings.submode = false ∨ call.author.isModerator = true ∨
        call.author.isSubscriber = true ∨ call.author.isVip = true) ∧
      state.cooldowns.status call.author.id call.now = .ready := by
  rw [IsHeld, not_or, Decidable.not_not, ← isPrivileged_iff]
  refine and_congr_left fun _ => ?_
  cases state.settings.submode with
  | false => simp
  | true => simp

theorem Switches.not_isHeld (h : Switches state call) : ¬ IsHeld state call :=
  not_isHeld_iff.2 ⟨.inr (.inl h.moderator), h.ready⟩

theorem Passes.not_isHeld (h : Passes state call link) : ¬ IsHeld state call :=
  not_isHeld_iff.2 ⟨h.admitted, h.ready⟩

theorem Switches.not_passes (h : Switches state call) : ¬ Passes state call link := by
  intro hpasses
  obtain ⟨word, hword, hsubmode⟩ := h.word
  obtain ⟨other, hother, -, hnot⟩ := hpasses.word
  obtain rfl := Option.mem_unique hword hother
  exact hnot ⟨hsubmode, h.moderator⟩

variable (network : Network)

/-- A call from a viewer who may not request, or one too early, is vetoed and leaves no trace. -/
theorem run_of_isHeld (h : IsHeld state call) :
    run network state call = .instant state call.channel call.exchanges (.ok .veto) := by
  unfold run
  split
  · rfl
  · rename_i hopen
    rw [if_pos (h.resolve_left hopen)]

section

variable (hheld : ¬ IsHeld state call)
include hheld

theorem run_of_not_isHeld :
    run network state call =
      match call.args with
      | [] => .reply state call call.channel Wording.noMap
      | word :: rest => handle network state call (Text.lower word) rest :=
  (if_neg (not_or.1 hheld).1).trans (if_neg (not_or.1 hheld).2)

theorem course_of_args_nil (hargs : call.args = []) : Course network state call := by
  have hnone : ∀ word, word ∉ call.args.head? := by simp [hargs]
  have hother : Wording.noMap ≠ Wording.requestSent := by decide
  refine .answers hheld (fun hswitches => ?_) (fun link hpasses => ?_) hother ?_
  · obtain ⟨word, hword, -⟩ := hswitches.word
    exact hnone word hword
  · obtain ⟨word, hword, -⟩ := hpasses.word
    exact hnone word hword
  · rw [run_of_not_isHeld network hheld, hargs]

theorem course_of_args_cons {word : String} {rest : List String}
    (hargs : call.args = word :: rest) : Course network state call := by
  have hrun : run network state call = handle network state call (Text.lower word) rest := by
    rw [run_of_not_isHeld network hheld, hargs]
  have hhead : ∀ other, other ∈ call.args.head? ↔ word = other := by simp [hargs]
  have hmods : (rest.head?.map modsText).getD "" = requestedMods call := by
    rw [requestedMods, hargs]
    rfl
  obtain ⟨hadmitted, hready⟩ := not_isHeld_iff.1 hheld
  unfold handle at hrun
  rw [hmods] at hrun
  by_cases htoggle : Text.lower word = "submode" ∧ call.author.isModerator = true
  · rw [if_pos htoggle] at hrun
    exact .switches ⟨htoggle.2, hready, word, (hhead word).2 rfl, htoggle.1⟩ hrun
  rw [if_neg htoggle] at hrun
  cases hlink : parseLink (Text.lower word) with
  | some link =>
      rw [hlink] at hrun
      exact .passes ⟨hadmitted, hready, word, (hhead word).2 rfl, hlink, htoggle⟩ hrun
  | none =>
      rw [hlink] at hrun
      have hother : Wording.badLink ≠ Wording.requestSent := by decide
      refine .answers hheld (fun hswitches => ?_) (fun link hpasses => ?_) hother hrun
      · obtain ⟨other, hother, hsubmode⟩ := hswitches.word
        obtain rfl := (hhead other).1 hother
        exact htoggle ⟨hsubmode, hswitches.moderator⟩
      · obtain ⟨other, hother, hsome, -⟩ := hpasses.word
        obtain rfl := (hhead other).1 hother
        rw [hlink] at hsome
        cases hsome

end

theorem course (state : State) (call : Invocation) : Course network state call := by
  by_cases hheld : IsHeld state call
  · exact .held hheld (run_of_isHeld network hheld)
  · cases hargs : call.args with
    | nil => exact course_of_args_nil network hheld hargs
    | cons word rest => exact course_of_args_cons network hheld hargs

end CommandBot.Request
