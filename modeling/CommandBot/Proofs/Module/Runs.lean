import CommandBot.Module.Basic

/-!
# What holds all along a run

A run may be cut off at any of its pauses, and what it has done until then stays. `Run.Always p`
says that `p` holds of what has been done at every pause and at the end, so that it holds however
the run is cut off (`Always.within`). A run that waits first is cut off at that pause, or ends as
what follows does with so much less time (`within_after`). A run that takes no longer than it may
ends by itself (`within_of_duration_le`), and any other is cut off in the pause that goes over the
limit (`exists_isCutAt`, `within_of_isCutAt`).
-/

namespace CommandBot

/-- The same ending after a wait. -/
def Ending.later {ι : Type} (e : Ending ι) (span : Duration) : Ending ι :=
  { e with elapsed := span + e.elapsed }

namespace Run

variable {ι κ : Type}

/-- What the run has done has the property at every pause and at the end. -/
def Always (p : Effects ι → Prop) (r : Run ι) : Prop :=
  (∀ pause ∈ r.pauses, p pause.effects) ∧ p r.effects

theorem always_instant {p : Effects ι → Prop} {body : ι} {channel : Channel}
    {exchanges : List Exchange} (h : p ⟨body, channel, exchanges⟩) (result : Except Fault Reply) :
    (instant body channel exchanges result).Always p :=
  ⟨fun _ hpause => absurd hpause List.not_mem_nil, h⟩

theorem Always.after {p : Effects ι → Prop} {pause : Pause ι} {r : Run ι} (h : r.Always p)
    (hpause : p pause.effects) : (r.after pause).Always p := by
  refine ⟨fun q hq => ?_, h.2⟩
  rcases List.mem_cons.1 hq with rfl | hq
  · exact hpause
  · exact h.1 q hq

theorem Always.map {p : Effects κ → Prop} {f : ι → κ} {r : Run ι}
    (h : r.Always fun e => p (e.map f)) : (r.map f).Always p := by
  refine ⟨fun q hq => ?_, h.2⟩
  obtain ⟨pause, hpause, rfl⟩ := List.mem_map.1 hq
  exact h.1 pause hpause

theorem Always.mono {p q : Effects ι → Prop} {r : Run ι} (h : r.Always p)
    (hpq : ∀ e, p e → q e) : r.Always q :=
  ⟨fun pause hpause => hpq _ (h.1 pause hpause), hpq _ h.2⟩

theorem effects_endFrom {p : Effects ι → Prop} (elapsed limit : Duration) {final : Effects ι}
    (result : Except Fault Reply) {pauses : List (Pause ι)}
    (hpauses : ∀ pause ∈ pauses, p pause.effects) (hfinal : p final) :
    p (endFrom elapsed limit final result pauses).effects := by
  induction pauses generalizing elapsed with
  | nil => exact hfinal
  | cons pause rest ih =>
      rw [endFrom]
      split
      · exact hpauses pause List.mem_cons_self
      · exact ih _ fun q hq => hpauses q (List.mem_cons_of_mem _ hq)

/-- However the run is cut off, what it has done has the property. -/
theorem Always.within {p : Effects ι → Prop} {r : Run ι} (h : r.Always p) (limit : Duration) :
    p (r.within limit).effects :=
  effects_endFrom 0 limit r.result h.1 h.2

theorem within_instant (body : ι) (channel : Channel) (exchanges : List Exchange)
    (result : Except Fault Reply) (limit : Duration) :
    (instant body channel exchanges result).within limit =
      ⟨0, ⟨body, channel, exchanges⟩, some result⟩ := rfl

theorem endFrom_add (span elapsed limit : Duration) (final : Effects ι)
    (result : Except Fault Reply) (pauses : List (Pause ι)) :
    endFrom (span + elapsed) (span + limit) final result pauses =
      (endFrom elapsed limit final result pauses).later span := by
  induction pauses generalizing elapsed with
  | nil => rfl
  | cons pause rest ih =>
      simp only [endFrom, Nat.add_assoc, Nat.add_lt_add_iff_left]
      split
      · rfl
      · exact ih _

theorem within_after (pause : Pause ι) (r : Run ι) (limit : Duration) :
    (r.after pause).within limit =
      if limit < pause.span then ⟨limit, pause.effects, none⟩
      else (r.within (limit - pause.span)).later pause.span := by
  rw [within, after, endFrom, Nat.zero_add]
  split
  · rfl
  · rename_i hspan
    have hlimit : pause.span + (limit - pause.span) = limit :=
      Nat.add_sub_of_le (Nat.not_lt.1 hspan)
    rw [within, ← endFrom_add, hlimit, Nat.add_zero]

/-! ### Where a run is cut off -/

/-- The time that some pauses take together. -/
def span : List (Pause ι) → Duration
  | [] => 0
  | pause :: rest => pause.span + span rest

/-- The time that the run takes if it is not cut off. -/
def duration (r : Run ι) : Duration := span r.pauses

/-- At the start of this pause the time is not over, and at its end it is. -/
def IsCutAt (r : Run ι) (limit : Duration) (pause : Pause ι) : Prop :=
  ∃ before after, r.pauses = before ++ pause :: after ∧ span before ≤ limit ∧
    limit < span before + pause.span

theorem span_cons (pause : Pause ι) (rest : List (Pause ι)) :
    span (pause :: rest) = pause.span + span rest := rfl

theorem endFrom_append {elapsed limit : Duration} (final : Effects ι)
    (result : Except Fault Reply) {before : List (Pause ι)} (h : elapsed + span before ≤ limit)
    (rest : List (Pause ι)) :
    endFrom elapsed limit final result (before ++ rest) =
      endFrom (elapsed + span before) limit final result rest := by
  induction before generalizing elapsed with
  | nil => rfl
  | cons pause before ih =>
      rw [span_cons, ← Nat.add_assoc] at h ⊢
      have hpause : ¬ limit < elapsed + pause.span :=
        Nat.not_lt.2 (Nat.le_trans (Nat.le_add_right _ _) h)
      rw [List.cons_append, endFrom, if_neg hpause, ih h]

theorem within_of_duration_le {r : Run ι} {limit : Duration} (h : r.duration ≤ limit) :
    r.within limit = ⟨r.duration, r.effects, some r.result⟩ := by
  have hpauses : 0 + span r.pauses ≤ limit := by rwa [Nat.zero_add]
  have hall := endFrom_append r.effects r.result hpauses []
  rw [List.append_nil, Nat.zero_add] at hall
  exact hall

theorem within_of_isCutAt {r : Run ι} {limit : Duration} {pause : Pause ι}
    (h : r.IsCutAt limit pause) : r.within limit = ⟨limit, pause.effects, none⟩ := by
  obtain ⟨before, after, hpauses, hbefore, hpause⟩ := h
  rw [within, hpauses, endFrom_append _ _ (by rwa [Nat.zero_add]), Nat.zero_add, endFrom,
    if_pos hpause]

/-- Pauses that together take longer than the limit go over it in one of them. -/
theorem exists_append_of_lt_span {limit : Duration} {pauses : List (Pause ι)}
    (h : limit < span pauses) :
    ∃ before pause after, pauses = before ++ pause :: after ∧ span before ≤ limit ∧
      limit < span before + pause.span := by
  induction pauses generalizing limit with
  | nil => exact absurd h (Nat.not_lt_zero _)
  | cons pause rest ih =>
      rw [span_cons] at h
      by_cases hpause : limit < pause.span
      · exact ⟨[], pause, rest, rfl, Nat.zero_le _, by rwa [span, Nat.zero_add]⟩
      · have hle := Nat.not_lt.1 hpause
        obtain ⟨before, other, after, rfl, hbefore, hother⟩ :=
          ih ((Nat.sub_lt_iff_lt_add' hle).2 h)
        refine ⟨pause :: before, other, after, rfl, ?_, ?_⟩
        · rw [span_cons]
          exact Nat.add_le_of_le_sub' hle hbefore
        · rw [span_cons, Nat.add_assoc]
          exact (Nat.sub_lt_iff_lt_add' hle).1 hother

theorem exists_isCutAt {r : Run ι} {limit : Duration} (h : limit < r.duration) :
    ∃ pause, r.IsCutAt limit pause := by
  obtain ⟨before, pause, after, hcut⟩ := exists_append_of_lt_span h
  exact ⟨pause, before, after, hcut⟩

end Run

end CommandBot
