import CommandBot.Proofs.Template.Turns

/-!
# How far a resolution gets

A resolution reaches a token when something has taken the place of every token before it
(`Reaches`). It fails just with what the turn of a token that it reaches fails with, and then the
arguments and the scene are what this turn leaves (`result_eq_error_iff`).
-/

namespace CommandBot.Template

section

variable {ι : Type} [Callable ι]

/-- The resolution of tokens reaches one of them, with the arguments and the scene that it finds. -/
inductive Reaches (network : Network) (request : Request) (whole : Prop) :
    List Token → List String → Scene ι → Token → List String → Scene ι → Prop where
  | here {t : Token} {ts : List Token} {args : List String} {scene : Scene ι} :
      Reaches network request whole (t :: ts) args scene t args scene
  | later {t : Token} {ts : List Token} {args : List String} {scene : Scene ι} {e : Expanded ι}
      {value : String} {next : Token} {left : List String} {found : Scene ι}
      (hturn : Turn network request whole t args scene e)
      (hvalue : e.expansion.replacement? t.literal = some value)
      (hrest : Reaches network request whole ts e.left e.scene next left found) :
      Reaches network request whole (t :: ts) args scene next left found

variable {network : Network} {request : Request} {whole : Prop} {ts : List Token}
  {args left : List String} {scene found later : Scene ι} {t : Token} {e : Expanded ι}
  {turns : List (Expanded ι)}

/-- A turn that puts nothing in the place of a token that is reached is the last. -/
theorem Reaches.exists_turns (h : Reaches network request whole ts args scene t left found)
    (hturn : Turn network request whole t left found e)
    (hends : e.expansion.replacement? t.literal = none) :
    ∃ turns, turns.getLast? = some e ∧
      Turns network request whole ts args scene turns e.left e.scene := by
  induction h with
  | here => exact ⟨[e], rfl, .ends hturn hends⟩
  | later hfirst hvalue _ ih =>
      obtain ⟨turns, hlast, hturns⟩ := ih hturn hends
      refine ⟨_ :: turns, ?_, .next hfirst hvalue hturns⟩
      rw [List.getLast?_cons, hlast, Option.getD_some]

/-- The last of the turns is that of a token that is reached, if it puts nothing in its place. -/
theorem Turns.exists_reaches (h : Turns network request whole ts args scene turns left later)
    (hlast : turns.getLast? = some e)
    (hends : ∀ literal, e.expansion.replacement? literal = none) :
    left = e.left ∧ later = e.scene ∧ ∃ t before found,
      Reaches network request whole ts args scene t before found ∧
        Turn network request whole t before found e := by
  induction h with
  | done => cases hlast
  | ends hturn _ =>
      obtain rfl := Option.some.inj hlast
      exact ⟨rfl, rfl, _, _, _, .here, hturn⟩
  | @next t ts args left scene later first turns value hturn hvalue hrest ih =>
      rw [List.getLast?_cons] at hlast
      cases hturns : turns.getLast? with
      | none =>
          rw [hturns, Option.getD_none] at hlast
          obtain rfl := Option.some.inj hlast
          rw [hends] at hvalue
          cases hvalue
      | some last =>
          rw [hturns, Option.getD_some] at hlast
          obtain rfl := Option.some.inj hlast
          obtain ⟨hleft, hlater, t', before, found, hreaches, hturn'⟩ := ih hturns
          exact ⟨hleft, hlater, t', before, found, .later hturn hvalue hreaches, hturn'⟩

omit [Callable ι] in
theorem replacement?_of_failed {fault : Fault} (h : e.expansion = .failed fault)
    (literal : String) : e.expansion.replacement? literal = none := by
  rw [h]
  rfl

/-- A resolution fails with what the turn of a token fails with that it reaches. -/
theorem result_eq_error_iff (network : Network) (request : Request) (template : String)
    (args : List String) (scene : Scene ι) (fault : Fault) :
    (resolve network request template args scene).result = .error fault ↔
      ∃ t left found e,
        Reaches network request (IsWhole template) (tokens template) args scene t left found ∧
          Turn network request (IsWhole template) t left found e ∧ e.expansion = .failed fault := by
  obtain ⟨turns, hturns, -, hresult⟩ := exists_turns_of_resolve network request template args scene
  constructor
  · intro h
    rw [h] at hresult
    cases hresult with
    | failed hlast hfault =>
        obtain ⟨-, -, t, left, found, hreaches, hturn⟩ :=
          hturns.exists_reaches hlast (replacement?_of_failed hfault)
        exact ⟨t, left, found, _, hreaches, hturn, hfault⟩
  · rintro ⟨t, left, found, e, hreaches, hturn, hfault⟩
    obtain ⟨turns', hlast, hturns'⟩ :=
      hreaches.exists_turns hturn (replacement?_of_failed hfault _)
    obtain ⟨rfl, -, -⟩ := hturns.unique (fun t ht => exists_tokenName_of_mem_tokens ht) hturns'
    exact hresult.unique (.failed hlast hfault)

/-- A resolution that fails in the turn of a token leaves the arguments and the scene that this turn
leaves. -/
theorem left_resolve_of_reaches {template : String} {fault : Fault}
    (hreaches : Reaches network request (IsWhole template) (tokens template) args scene t left
      found)
    (hturn : Turn network request (IsWhole template) t left found e)
    (hfault : e.expansion = .failed fault) :
    (resolve network request template args scene).left = e.left ∧
      (resolve network request template args scene).scene = e.scene := by
  obtain ⟨turns, hturns, -, -⟩ := exists_turns_of_resolve network request template args scene
  obtain ⟨turns', -, hturns'⟩ := hreaches.exists_turns hturn (replacement?_of_failed hfault _)
  exact (hturns.unique (fun t ht => exists_tokenName_of_mem_tokens ht) hturns').2

end

end CommandBot.Template
