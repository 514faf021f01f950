import CommandBot.Cooldown
import CommandBot.Proofs.KeyMap

/-!
# Cooldowns that agree

A use of a command that comes too early leaves everything as it is, and any other is marked
(`CommandCooldowns.use_cases`). A module asks for the status of a caller first and charges them
later. Where it charges whoever is ready at once (`CallerCooldowns.attempt`), both keep the same
marks and give the same answers (`Agree`), from one attempt to the next and so over all attempts
(`answers_eq_of_simulation`). The time that a refusal names is exact (`IsExact`) as long as no mark
lies in the future, which the attempts keep up because the clock does not run backwards (`IsPast`).
-/

namespace CommandBot

/-- A use is too early if the last one lies back less than the cooldown, and else it is marked. -/
theorem CommandCooldowns.use_cases (c : CommandCooldowns) (name : String) (cooldown : Duration)
    (now : Instant) :
    (∃ last, c.lastUse.get? name = some last ∧ now - last < cooldown ∧
      c.use name cooldown now = (.waiting (cooldown - (now - last)), c)) ∨
    ((∀ last, c.lastUse.get? name = some last → cooldown ≤ now - last) ∧
      c.use name cooldown now = (.ready, ⟨c.lastUse.insert name now⟩)) := by
  unfold use
  cases hlast : c.lastUse.get? name with
  | none => exact .inr ⟨fun last h => (by cases h), rfl⟩
  | some last =>
      by_cases hearly : now - last < cooldown
      · exact .inl ⟨last, rfl, hearly, if_pos hearly⟩
      · refine .inr ⟨fun other h => ?_, if_neg hearly⟩
        obtain rfl := Option.some.inj h
        exact Nat.not_lt.1 hearly

/-- The use of one command does not count for another. -/
theorem CommandCooldowns.use_insert_of_ne (c : CommandCooldowns) {name other : String}
    (h : name ≠ other) (cooldown : Duration) (now moment : Instant) :
    use ⟨c.lastUse.insert other moment⟩ name cooldown now =
      ((c.use name cooldown now).1, ⟨(c.use name cooldown now).2.lastUse.insert other moment⟩) := by
  unfold use
  rw [KeyMap.get?_insert_of_ne _ _ h]
  cases c.lastUse.get? name with
  | none => simp only [KeyMap.insert_comm _ h]
  | some last =>
      simp only
      split
      · rfl
      · simp only [KeyMap.insert_comm _ h]

/-- The caller may try again if the last success lies back at least as long as the cooldown. -/
theorem CallerCooldowns.status_eq_ready_iff (c : CallerCooldowns) (caller : String)
    (now : Instant) :
    c.status caller now = .ready ↔
      ∀ last, c.lastSuccess.get? caller = some last → c.cooldown ≤ now - last := by
  unfold status
  cases c.lastSuccess.get? caller with
  | none => simp
  | some last =>
      by_cases hlate : c.cooldown ≤ now - last
      · simp [hlate]
      · simp [hlate]

theorem CallerCooldowns.status_charge_of_ne (c : CallerCooldowns) {id caller : String}
    (h : id ≠ caller) (charged moment : Instant) :
    (c.charge caller charged).status id moment = c.status id moment := by
  rw [status, status, get?_charge, if_neg h, cooldown_charge]

/-! ### Attempts in turn -/

/-- An attempt to use something, a while after the attempt before. -/
structure Attempt where
  wait : Duration
  key : String

/-- What was answered to an attempt, and when. -/
structure Answer where
  key : String
  moment : Instant
  readiness : Readiness
  deriving DecidableEq

section

variable {σ τ : Type}

/-- The answers to attempts in turn, from a moment on. -/
def answers (attempt : σ → String → Instant → Readiness × σ) :
    σ → Instant → List Attempt → List Answer
  | _, _, [] => []
  | s, now, a :: rest =>
      ⟨a.key, now + a.wait, (attempt s a.key (now + a.wait)).1⟩ ::
        answers attempt (attempt s a.key (now + a.wait)).2 (now + a.wait) rest

variable {attempt : σ → String → Instant → Readiness × σ}

/-- If single attempts keep up a relation between two states and are answered alike in related
states, then so are all attempts. -/
theorem answers_eq_of_simulation {other : τ → String → Instant → Readiness × τ}
    {Related : σ → τ → Prop}
    (hstep : ∀ s t, Related s t → ∀ key now,
      (attempt s key now).1 = (other t key now).1 ∧
        Related (attempt s key now).2 (other t key now).2)
    {s : σ} {t : τ} (h : Related s t) (now : Instant) (attempts : List Attempt) :
    answers attempt s now attempts = answers other t now attempts := by
  induction attempts generalizing s t now with
  | nil => rfl
  | cons a rest ih =>
      obtain ⟨hreadiness, hnext⟩ := hstep s t h a.key (now + a.wait)
      rw [answers, answers, hreadiness, ih hnext]

/-- The first answer is to an attempt, and the others come from what this one leaves. -/
theorem exists_of_answers_eq_cons {s : σ} {now : Instant} {attempts : List Attempt}
    {first : Answer} {later : List Answer} (h : answers attempt s now attempts = first :: later) :
    ∃ key wait rest, first = ⟨key, now + wait, (attempt s key (now + wait)).1⟩ ∧
      answers attempt (attempt s key (now + wait)).2 (now + wait) rest = later := by
  cases attempts with
  | nil => cases h
  | cons a rest =>
      rw [answers] at h
      obtain ⟨hfirst, hlater⟩ := List.cons.inj h
      exact ⟨a.key, a.wait, rest, hfirst.symm, hlater⟩

/-- What attempts keep up that are answered in a certain way holds when the first ones have been
answered so, and the later answers come from there. -/
theorem exists_of_answers_eq_append (Keeps : σ → Instant → Prop) (IsSuch : Answer → Prop)
    (hstep : ∀ s now, Keeps s now → ∀ key wait,
      IsSuch ⟨key, now + wait, (attempt s key (now + wait)).1⟩ →
        Keeps (attempt s key (now + wait)).2 (now + wait))
    {s : σ} {now : Instant} (h : Keeps s now) {attempts : List Attempt}
    {earlier later : List Answer} (hanswers : answers attempt s now attempts = earlier ++ later)
    (hearlier : ∀ a ∈ earlier, IsSuch a) :
    ∃ s' now' rest, Keeps s' now' ∧ answers attempt s' now' rest = later := by
  induction earlier generalizing s now attempts with
  | nil => exact ⟨s, now, attempts, h, hanswers⟩
  | cons first earlier ih =>
      obtain ⟨key, wait, rest, rfl, hrest⟩ := exists_of_answers_eq_cons hanswers
      refine ih (hstep s now h key wait ?_) hrest fun b hb => ?_
      · exact hearlier _ List.mem_cons_self
      · exact hearlier b (List.mem_cons_of_mem _ hb)

end

/-- What is answered while something may not be used before a moment. -/
def Readiness.until (due now : Instant) : Readiness :=
  if due ≤ now then .ready else .waiting (due - now)

/-- An answer is about the same thing as an earlier one, and between them this was not granted. -/
def Follows (log : List Answer) (before next : Answer) : Prop :=
  ∃ earlier between later, log = earlier ++ before :: (between ++ next :: later) ∧
    next.key = before.key ∧ ∀ a ∈ between, a.key = before.key → a.readiness ≠ .ready

/-- What has not been granted before is granted. Once it is, it is refused until just the cooldown
has passed, and after a refusal until just the time has passed that the refusal named; a refusal
names what is left of it. -/
structure IsExact (cooldown : Duration) (log : List Answer) : Prop where
  first : ∀ earlier a later, log = earlier ++ a :: later →
    (∀ b ∈ earlier, b.key = a.key → b.readiness ≠ .ready) → a.readiness = .ready
  granted : ∀ before next, Follows log before next → before.readiness = .ready →
    next.readiness = .until (before.moment + cooldown) next.moment
  refused : ∀ before next remaining, Follows log before next →
    before.readiness = .waiting remaining →
      next.readiness = .until (before.moment + remaining) next.moment

/-! ### Cooldowns that check and mark in one step -/

namespace CommandCooldowns

variable {c : CommandCooldowns} {name : String} {cooldown : Duration} {now last : Instant}

/-- No use is marked for later than now. -/
def IsPast (c : CommandCooldowns) (now : Instant) : Prop :=
  ∀ name last, c.lastUse.get? name = some last → last ≤ now

theorem isPast_empty (now : Instant) : empty.IsPast now := by
  intro name last hlast
  rw [empty, KeyMap.get?_empty] at hlast
  cases hlast

theorem IsPast.later (h : c.IsPast now) (wait : Duration) : c.IsPast (now + wait) :=
  fun name last hlast => Nat.le_add_right_of_le (h name last hlast)

theorem IsPast.use (h : c.IsPast now) (name : String) (cooldown wait : Duration) :
    (c.use name cooldown (now + wait)).2.IsPast (now + wait) := by
  rcases c.use_cases name cooldown (now + wait) with ⟨_, _, _, huse⟩ | ⟨_, huse⟩
  · rw [huse]
    exact h.later wait
  · rw [huse]
    intro other last hlast
    rw [KeyMap.get?_insert] at hlast
    split at hlast
    · obtain rfl := Option.some.inj hlast
      exact Nat.le_refl _
    · exact h.later wait other last hlast

/-- Nothing but a use that is granted changes when something was last used. -/
theorem get?_lastUse_use {other : String}
    (h : other = name → (c.use other cooldown now).1 ≠ .ready) :
    (c.use other cooldown now).2.lastUse.get? name = c.lastUse.get? name := by
  rcases c.use_cases other cooldown now with ⟨_, _, _, huse⟩ | ⟨_, huse⟩
  · rw [huse]
  · have hne : name ≠ other := fun heq => h heq.symm (by rw [huse])
    rw [huse]
    exact KeyMap.get?_insert_of_ne _ _ hne

theorem use_of_lastUse (h : c.lastUse.get? name = some last) (hlast : last ≤ now)
    (cooldown : Duration) :
    (c.use name cooldown now).1 = .until (last + cooldown) now := by
  unfold Readiness.until
  rcases c.use_cases name cooldown now with ⟨other, hother, hearly, huse⟩ | ⟨hlate, huse⟩
  · obtain rfl := Option.some.inj (h.symm.trans hother)
    have hdue : now < last + cooldown := (Nat.sub_lt_iff_lt_add' hlast).1 hearly
    rw [huse, if_neg (Nat.not_le.2 hdue), Nat.sub_sub_right cooldown hlast, Nat.add_comm]
  · have hdue : last + cooldown ≤ now := (Nat.le_sub_iff_add_le' hlast).1 (hlate last h)
    rw [huse, if_pos hdue]

theorem use_of_get?_eq_none (h : c.lastUse.get? name = none) (cooldown : Duration)
    (now : Instant) : (c.use name cooldown now).1 = .ready := by
  rw [use, h]

theorem get?_lastUse_of_ready (h : (c.use name cooldown now).1 = .ready) :
    (c.use name cooldown now).2.lastUse.get? name = some now := by
  rcases c.use_cases name cooldown now with ⟨_, _, _, huse⟩ | ⟨_, huse⟩
  · rw [huse] at h
    cases h
  · rw [huse]
    exact KeyMap.get?_insert_self _ _ _

/-- A refusal names the time from now to the end of the cooldown, and marks nothing. -/
theorem get?_lastUse_of_waiting (hpast : c.IsPast now) {remaining : Duration}
    (h : (c.use name cooldown now).1 = .waiting remaining) :
    ∃ last, (c.use name cooldown now).2.lastUse.get? name = some last ∧ last ≤ now ∧
      last + cooldown = now + remaining := by
  rcases c.use_cases name cooldown now with ⟨last, hlast, hearly, huse⟩ | ⟨-, huse⟩
  · have hle := hpast name last hlast
    rw [huse] at h ⊢
    obtain rfl := Readiness.waiting.inj h
    refine ⟨last, hlast, hle, ?_⟩
    rw [Nat.sub_sub_right cooldown hle, Nat.add_comm last]
    exact (Nat.add_sub_of_le (Nat.le_of_lt ((Nat.sub_lt_iff_lt_add hle).1 hearly))).symm
  · rw [huse] at h
    cases h

/-- After a use, and while all else about the same thing is refused, the answer about it is given by
when it is due. -/
theorem readiness_of_lastUse (h : c.lastUse.get? name = some last) (hle : last ≤ now)
    {attempts : List Attempt} {between later : List Answer} {next : Answer}
    (hanswers : answers (use · · cooldown ·) c now attempts = between ++ next :: later)
    (hbetween : ∀ a ∈ between, a.key = name → a.readiness ≠ .ready) (hnext : next.key = name) :
    next.readiness = .until (last + cooldown) next.moment := by
  obtain ⟨c', now', rest, ⟨hlast, hle'⟩, hrest⟩ := exists_of_answers_eq_append
    (fun (c : CommandCooldowns) now => c.lastUse.get? name = some last ∧ last ≤ now)
    (fun a => a.key = name → a.readiness ≠ .ready)
    (fun c now hkeeps key wait hanswer =>
      ⟨(get?_lastUse_use hanswer).trans hkeeps.1, Nat.le_add_right_of_le hkeeps.2⟩)
    ⟨h, hle⟩ hanswers hbetween
  obtain ⟨key, wait, -, rfl, -⟩ := exists_of_answers_eq_cons hrest
  obtain rfl : key = name := hnext
  exact use_of_lastUse hlast (Nat.le_add_right_of_le hle') cooldown

/-- An answer comes from marks of which none lies in the future, and one that follows it is given by
the mark that it leaves. -/
theorem exists_of_follows (hpast : c.IsPast now) {attempts : List Attempt} {before next : Answer}
    (h : Follows (answers (use · · cooldown ·) c now attempts) before next) :
    ∃ c' : CommandCooldowns, c'.IsPast before.moment ∧
      before.readiness = (c'.use before.key cooldown before.moment).1 ∧
      ∀ last, (c'.use before.key cooldown before.moment).2.lastUse.get? before.key = some last →
        last ≤ before.moment → next.readiness = .until (last + cooldown) next.moment := by
  obtain ⟨earlier, between, later, hlog, hkey, hbetween⟩ := h
  obtain ⟨c', now', rest, hpast', hrest⟩ := exists_of_answers_eq_append IsPast (fun _ => True)
    (fun c now hpast key wait _ => hpast.use key cooldown wait) hpast hlog fun _ _ => trivial
  obtain ⟨key, wait, rest, rfl, hafter⟩ := exists_of_answers_eq_cons hrest
  exact ⟨c', hpast'.later wait, rfl, fun last hlast hle =>
    readiness_of_lastUse hlast hle hafter hbetween hkey⟩

theorem isExact_answers (cooldown : Duration) (origin : Instant) (attempts : List Attempt) :
    IsExact cooldown (answers (use · · cooldown ·) .empty origin attempts) where
  first earlier a later hlog hearlier := by
    obtain ⟨c', now', rest, hnever, hrest⟩ := exists_of_answers_eq_append
      (fun (c : CommandCooldowns) _ => c.lastUse.get? a.key = none)
      (fun b => b.key = a.key → b.readiness ≠ .ready)
      (fun c now hnever key wait hanswer => (get?_lastUse_use hanswer).trans hnever)
      (KeyMap.get?_empty a.key) hlog hearlier
    obtain ⟨key, wait, -, rfl, -⟩ := exists_of_answers_eq_cons hrest
    exact use_of_get?_eq_none hnever cooldown (now' + wait)
  granted before next hfollows hready := by
    obtain ⟨c', -, hreadiness, hnext⟩ := exists_of_follows (isPast_empty origin) hfollows
    exact hnext _ (get?_lastUse_of_ready (hreadiness.symm.trans hready)) (Nat.le_refl _)
  refused before next remaining hfollows hwaiting := by
    obtain ⟨c', hpast, hreadiness, hnext⟩ := exists_of_follows (isPast_empty origin) hfollows
    obtain ⟨last, hlast, hle, hdue⟩ :=
      get?_lastUse_of_waiting hpast (hreadiness.symm.trans hwaiting)
    rw [← hdue]
    exact hnext last hlast hle

end CommandCooldowns

/-! ### Cooldowns that check first and are charged later -/

/-- Asks whether a caller may try again, and charges them if they may. -/
def CallerCooldowns.attempt (c : CallerCooldowns) (caller : String) (now : Instant) :
    Readiness × CallerCooldowns :=
  (c.status caller now, if c.status caller now = .ready then c.charge caller now else c)

/-- The callers have had their last successes when the commands of the same names had their last
uses, and all have one cooldown. -/
structure Agree (cooldown : Duration) (commands : CommandCooldowns) (callers : CallerCooldowns) :
    Prop where
  span : callers.cooldown = cooldown
  marks : callers.lastSuccess = commands.lastUse

namespace Agree

variable {cooldown : Duration} {commands : CommandCooldowns} {callers : CallerCooldowns}

theorem readiness_use (h : Agree cooldown commands callers) (key : String) (now : Instant) :
    (commands.use key cooldown now).1 = callers.status key now := by
  unfold CallerCooldowns.status
  rw [h.span, h.marks]
  rcases commands.use_cases key cooldown now with ⟨last, hlast, hearly, huse⟩ | ⟨hlate, huse⟩
  · rw [huse, hlast]
    exact (if_neg (Nat.not_le.2 hearly)).symm
  · rw [huse]
    cases hlast : commands.lastUse.get? key with
    | none => rfl
    | some last => exact (if_pos (hlate last hlast)).symm

/-- A use asks for the status, and charges exactly if that is ready. -/
theorem use_eq (h : Agree cooldown commands callers) (key : String) (now : Instant) :
    commands.use key cooldown now =
      (callers.status key now,
        if callers.status key now = .ready then ⟨(callers.charge key now).lastSuccess⟩
        else commands) := by
  have hreadiness := h.readiness_use key now
  rcases commands.use_cases key cooldown now with ⟨_, _, _, huse⟩ | ⟨_, huse⟩
  · rw [huse] at hreadiness
    rw [huse, ← hreadiness, if_neg Readiness.noConfusion]
  · rw [huse] at hreadiness
    rw [huse, ← hreadiness, if_pos rfl, CallerCooldowns.charge, h.marks]

theorem attempt (h : Agree cooldown commands callers) (key : String) (now : Instant) :
    (commands.use key cooldown now).1 = (callers.attempt key now).1 ∧
      Agree cooldown (commands.use key cooldown now).2 (callers.attempt key now).2 := by
  rw [h.use_eq key now, CallerCooldowns.attempt]
  refine ⟨rfl, ?_⟩
  by_cases hready : callers.status key now = .ready
  · rw [if_pos hready, if_pos hready]
    exact ⟨h.span, rfl⟩
  · rw [if_neg hready, if_neg hready]
    exact h

end Agree

/-- With the same marks and the same cooldown, commands and callers answer alike at any moment, and
the use of a command comes to asking for a status and charging exactly if that is ready. New ones
therefore give the same answers to the same attempts, whatever these are for and whenever they come,
and the answers are exact. -/
theorem cooldowns_agree (cooldown : Duration) :
    (∀ (marks : KeyMap Instant) (key : String) (now : Instant),
      let commands : CommandCooldowns := ⟨marks⟩
      let callers : CallerCooldowns := ⟨cooldown, marks⟩
      commands.use key cooldown now =
        (callers.status key now,
          if callers.status key now = .ready then ⟨(callers.charge key now).lastSuccess⟩
          else commands)) ∧
    ∀ (origin : Instant) (attempts : List Attempt),
      let log := answers (CommandCooldowns.use · · cooldown ·) .empty origin attempts
      answers CallerCooldowns.attempt (.start cooldown) origin attempts = log ∧
        IsExact cooldown log := by
  refine ⟨fun marks key now => ?_, fun origin attempts => ⟨?_, ?_⟩⟩
  · have hagree : Agree cooldown ⟨marks⟩ ⟨cooldown, marks⟩ := ⟨rfl, rfl⟩
    exact hagree.use_eq key now
  · have hagree : Agree cooldown .empty (.start cooldown) := ⟨rfl, rfl⟩
    exact (answers_eq_of_simulation (fun _ _ h => h.attempt) hagree origin attempts).symm
  · exact CommandCooldowns.isExact_answers cooldown origin attempts

/-- Something is asked for too early twice, and then just in time. A use of something else between
does not count. -/
theorem cooldowns_agree_in_time :
    let attempts : List Attempt := [⟨3, "a"⟩, ⟨4, "a"⟩, ⟨0, "b"⟩, ⟨5, "a"⟩, ⟨1, "a"⟩]
    let log : List Answer :=
      [⟨"a", 3, .ready⟩, ⟨"a", 7, .waiting 6⟩, ⟨"b", 7, .ready⟩, ⟨"a", 12, .waiting 1⟩,
        ⟨"a", 13, .ready⟩]
    answers (CommandCooldowns.use · · 10 ·) .empty 0 attempts = log ∧
    answers CallerCooldowns.attempt (.start 10) 0 attempts = log ∧ IsExact 10 log := by
  intro attempts log
  have hlog : answers (CommandCooldowns.use · · 10 ·) .empty 0 attempts = log := by decide
  obtain ⟨hcallers, hexact⟩ := (cooldowns_agree 10).2 0 attempts
  rw [hlog] at hcallers hexact
  exact ⟨hlog, hcallers, hexact⟩

end CommandBot
