import CommandBot.Proofs.Template.Tokens
import CommandBot.Proofs.Template.Turn

/-!
# The turns of the tokens

The tokens of a template have their turns from left to right, each with the arguments and in the
scene that the ones before have left (`Turns`), until one calls the response off or fails. What is
answered follows from the turns alone: if all tokens had theirs, it is the template with each token
replaced by what came of it (`Responds`). The resolver, which goes through the pieces of the
template, does just this (`resolve_eq_iff_turns`).
-/

namespace CommandBot.Template

namespace Expansion

/-- The text that takes the place of a placeholder, unless the response ends with it. -/
def replacement? (literal : String) : Expansion → Option String
  | .value text => some (String.ofList text)
  | .unknown _ => some literal
  | .veto => none
  | .failed _ => none

/-- The report of a placeholder that stands for nothing. -/
def report? : Expansion → Option Fault
  | .unknown fault => some fault
  | _ => none

end Expansion

section Turns

variable {ι : Type} [Callable ι]

/-- The turns of tokens from left to right, and the arguments and the scene that are left. After a
turn that puts nothing in the place of its token there are no more. -/
inductive Turns (network : Network) (request : Request) (whole : Prop) :
    List Token → List String → Scene ι → List (Expanded ι) → List String → Scene ι → Prop where
  | done {args : List String} {scene : Scene ι} :
      Turns network request whole [] args scene [] args scene
  | ends {t : Token} {ts : List Token} {args : List String} {scene : Scene ι} {e : Expanded ι}
      (hturn : Turn network request whole t args scene e)
      (hends : e.expansion.replacement? t.literal = none) :
      Turns network request whole (t :: ts) args scene [e] e.left e.scene
  | next {t : Token} {ts : List Token} {args left : List String} {scene later : Scene ι}
      {e : Expanded ι} {turns : List (Expanded ι)} {value : String}
      (hturn : Turn network request whole t args scene e)
      (hvalue : e.expansion.replacement? t.literal = some value)
      (hrest : Turns network request whole ts e.left e.scene turns left later) :
      Turns network request whole (t :: ts) args scene (e :: turns) left later

omit [Callable ι] in
/-- What is answered after the turns of the tokens from a byte of the text on. -/
inductive Responds (text : String) (last : Nat) (ts : List Token) (turns : List (Expanded ι)) :
    Except Fault Resolution → Prop where
  | text {values : List String} {out : String} (hall : turns.length = ts.length)
      (hvalues : List.zipWith (fun t e => e.expansion.replacement? t.literal) ts turns =
        values.map some)
      (hout : Filled text last (ts.zip values) out) :
      Responds text last ts turns
        (.ok ⟨.text out.toList, turns.filterMap (·.expansion.report?)⟩)
  | suppressed {e : Expanded ι} (hlast : turns.getLast? = some e) (hveto : e.expansion = .veto) :
      Responds text last ts turns
        (.ok ⟨.suppressed, turns.filterMap (·.expansion.report?)⟩)
  | failed {e : Expanded ι} {fault : Fault} (hlast : turns.getLast? = some e)
      (hfault : e.expansion = .failed fault) :
      Responds text last ts turns (.error fault)

end Turns

/-! ### The text of the answer -/

theorem Filled.append {text gap out : String} {start last : Nat} {replaced : List (Token × String)}
    (h : Filled text last replaced out) (hgap : Text.IsSlice text start last gap) :
    Filled text start replaced (gap ++ out) := by
  cases h with
  | rest htail => exact .rest (hgap.append htail)
  | token hnext hrest =>
      rw [← String.append_assoc, ← String.append_assoc]
      exact .token (hgap.append hnext) hrest

theorem filterMap_cons_eq_append {α β : Type} (f : α → Option β) (a : α) (rest : List α) :
    (a :: rest).filterMap f = (f a).toList ++ rest.filterMap f := by
  rw [List.filterMap_cons]
  cases f a <;> rfl

section Answer

variable {ι : Type} {text gap value : String} {start last : Nat} {t : Token} {ts : List Token}
  {e : Expanded ι} {turns : List (Expanded ι)} {result : Except Fault Resolution}

theorem Responds.append (h : Responds text last ts turns result)
    (hgap : Text.IsSlice text start last gap) :
    Responds text start ts turns
      (result.map fun r => ⟨r.rendered.prepend gap.toList, [] ++ r.unresolved⟩) := by
  cases h with
  | text hall hvalues hout =>
      have hmore := Responds.text hall hvalues (hout.append hgap)
      rw [String.toList_append] at hmore
      exact hmore
  | suppressed hlast hveto => exact .suppressed hlast hveto
  | failed hlast hfault => exact .failed hlast hfault

theorem Responds.cons (h : Responds text t.stop ts turns result)
    (hstart : String.Pos.Raw.IsValid text ⟨t.start⟩)
    (hvalue : e.expansion.replacement? t.literal = some value) :
    Responds text t.start (t :: ts) (e :: turns)
      (result.map fun r =>
        ⟨r.rendered.prepend value.toList, e.expansion.report?.toList ++ r.unresolved⟩) := by
  have hreports := filterMap_cons_eq_append (·.expansion.report?) e turns
  have hlast' : ∀ {last}, turns.getLast? = some last → (e :: turns).getLast? = some last := by
    intro last hlast
    rw [List.getLast?_cons, hlast, Option.getD_some]
  cases h with
  | @text values out hall hvalues hout =>
      have hall' : (e :: turns).length = (t :: ts).length := congrArg (· + 1) hall
      have hvalues' : List.zipWith (fun t e => e.expansion.replacement? t.literal) (t :: ts)
          (e :: turns) = (value :: values).map some := by
        rw [List.zipWith_cons_cons, hvalue, hvalues, List.map_cons]
      have hout' : Filled text t.start ((t :: ts).zip (value :: values)) ("" ++ value ++ out) :=
        .token (Text.isSlice_self hstart) hout
      have hmore := Responds.text hall' hvalues' hout'
      rw [String.empty_append, String.toList_append, hreports] at hmore
      exact hmore
  | suppressed hlast hveto =>
      have hmore : Responds text t.start (t :: ts) (e :: turns) _ :=
        .suppressed (hlast' hlast) hveto
      rw [hreports] at hmore
      exact hmore
  | failed hlast hfault => exact .failed (hlast' hlast) hfault

theorem exists_replacement_of_mem {values : List String} (hall : turns.length = ts.length)
    (hvalues : List.zipWith (fun t e => e.expansion.replacement? t.literal) ts turns =
      values.map some) (he : e ∈ turns) :
    ∃ literal value, e.expansion.replacement? literal = some value := by
  induction turns generalizing ts values with
  | nil => cases he
  | cons first turns ih =>
      cases ts with
      | nil => cases hall
      | cons t ts =>
          cases values with
          | nil => cases hvalues
          | cons value values =>
              obtain ⟨hfirst, hvalues⟩ := List.cons.inj hvalues
              rcases List.mem_cons.1 he with rfl | he
              · exact ⟨t.literal, value, hfirst⟩
              · exact ih (Nat.succ.inj hall) hvalues he

/-- Where all turns have put something in the place of their tokens, the last one is no veto and no
fault. -/
theorem last_ne_of_zipWith {values : List String} (hall : turns.length = ts.length)
    (hvalues : List.zipWith (fun t e => e.expansion.replacement? t.literal) ts turns =
      values.map some) (hlast : turns.getLast? = some e) :
    e.expansion ≠ .veto ∧ ∀ fault, e.expansion ≠ .failed fault := by
  obtain ⟨literal, value, hvalue⟩ :=
    exists_replacement_of_mem hall hvalues (List.mem_of_getLast? hlast)
  constructor
  · intro h
    rw [h] at hvalue
    cases hvalue
  · intro fault h
    rw [h] at hvalue
    cases hvalue

/-- The turns and the text settle what is answered. -/
theorem Responds.unique {other : Except Fault Resolution}
    (h : Responds text last ts turns result) (h' : Responds text last ts turns other) :
    result = other := by
  cases h with
  | text hall hvalues hout =>
      cases h' with
      | text _ hvalues' hout' =>
          obtain rfl := (List.map_inj_right fun _ _ h => Option.some.inj h).1
            (hvalues.symm.trans hvalues')
          rw [hout.unique hout']
      | suppressed hlast hveto => exact absurd hveto (last_ne_of_zipWith hall hvalues hlast).1
      | failed hlast hfault => exact absurd hfault ((last_ne_of_zipWith hall hvalues hlast).2 _)
  | suppressed hlast hveto =>
      cases h' with
      | text hall hvalues _ => exact absurd hveto (last_ne_of_zipWith hall hvalues hlast).1
      | suppressed _ _ => rfl
      | failed hlast' hfault =>
          obtain rfl := Option.some.inj (hlast.symm.trans hlast')
          rw [hfault] at hveto
          cases hveto
  | failed hlast hfault =>
      cases h' with
      | text hall hvalues _ =>
          exact absurd hfault ((last_ne_of_zipWith hall hvalues hlast).2 _)
      | suppressed hlast' hveto =>
          obtain rfl := Option.some.inj (hlast.symm.trans hlast')
          rw [hveto] at hfault
          cases hfault
      | failed hlast' hfault' =>
          obtain rfl := Option.some.inj (hlast.symm.trans hlast')
          rw [hfault'] at hfault
          rw [Expansion.failed.inj hfault]

end Answer

/-! ### The resolver takes the turns -/

section Resolver

variable {ι : Type} [Callable ι] {network : Network} {request : Request} {whole : Prop}

theorem Turn.unique {t : Token} {word : List Char} (hword : t.name = tokenName word)
    {args : List String} {scene : Scene ι} {e e' : Expanded ι}
    (h : Turn network request whole t args scene e)
    (h' : Turn network request whole t args scene e') : e = e' := by
  have hwhole : @decide whole (Classical.propDecidable whole) = true ↔ whole :=
    @decide_eq_true_iff whole (Classical.propDecidable whole)
  rw [← (turn_iff hwhole hword).1 h, ← (turn_iff hwhole hword).1 h']

/-- The turns of tokens are settled by what there is before them. -/
theorem Turns.unique {ts : List Token} (hwords : ∀ t ∈ ts, ∃ word, t.name = tokenName word)
    {args left left' : List String} {scene later later' : Scene ι}
    {turns turns' : List (Expanded ι)}
    (h : Turns network request whole ts args scene turns left later)
    (h' : Turns network request whole ts args scene turns' left' later') :
    turns = turns' ∧ left = left' ∧ later = later' := by
  induction h generalizing turns' with
  | done =>
      cases h'
      exact ⟨rfl, rfl, rfl⟩
  | ends hturn hends =>
      obtain ⟨word, hword⟩ := hwords _ List.mem_cons_self
      cases h' with
      | ends hturn' _ =>
          obtain rfl := hturn.unique hword hturn'
          exact ⟨rfl, rfl, rfl⟩
      | next hturn' hvalue' _ =>
          obtain rfl := hturn.unique hword hturn'
          rw [hends] at hvalue'
          cases hvalue'
  | next hturn hvalue hrest ih =>
      obtain ⟨word, hword⟩ := hwords _ List.mem_cons_self
      cases h' with
      | ends hturn' hends' =>
          obtain rfl := hturn.unique hword hturn'
          rw [hends'] at hvalue
          cases hvalue
      | next hturn' hvalue' hrest' =>
          obtain rfl := hturn.unique hword hturn'
          obtain ⟨rfl, rfl, rfl⟩ := ih (fun t ht => hwords t (List.mem_cons_of_mem _ ht)) hrest'
          exact ⟨rfl, rfl, rfl⟩

/-- A placeholder that something takes the place of comes before what follows. -/
theorem resolvePieces_of_replacement {alone : Bool} {word : List Char} {rest : List Piece}
    {args : List String} {scene : Scene ι} {e : Expanded ι} {value : String}
    (he : expand network request alone word args scene = e)
    (hvalue : e.expansion.replacement? (String.ofList (Piece.token word).text) = some value) :
    resolvePieces network request alone (.token word :: rest) args scene =
      (resolvePieces network request alone rest e.left e.scene).prepend value.toList
        e.expansion.report?.toList e.call.toList := by
  simp only [resolvePieces, he]
  cases hexpansion : e.expansion with
  | value text =>
      rw [hexpansion] at hvalue
      obtain rfl := Option.some.inj hvalue
      rw [String.toList_ofList]
      rfl
  | unknown fault =>
      rw [hexpansion] at hvalue
      obtain rfl := Option.some.inj hvalue
      rw [String.toList_ofList]
      rfl
  | veto =>
      rw [hexpansion] at hvalue
      cases hvalue
  | failed fault =>
      rw [hexpansion] at hvalue
      cases hvalue

/-- A placeholder that nothing takes the place of ends the response. -/
theorem exists_resolvePieces_of_end {alone : Bool} {word : List Char} (rest : List Piece)
    {args : List String} {scene : Scene ι} {e : Expanded ι} {literal : String}
    (he : expand network request alone word args scene = e)
    (hvalue : e.expansion.replacement? literal = none) (text : String) (last : Nat)
    (ts : List Token) :
    ∃ result, Responds text last ts [e] result ∧
      resolvePieces network request alone (.token word :: rest) args scene =
        ⟨result, e.left, e.call.toList, e.scene⟩ := by
  simp only [resolvePieces, he]
  cases hexpansion : e.expansion with
  | value text =>
      rw [hexpansion] at hvalue
      cases hvalue
  | unknown fault =>
      rw [hexpansion] at hvalue
      cases hvalue
  | veto =>
      have hanswer : Responds text last ts [e] _ := .suppressed rfl hexpansion
      rw [filterMap_cons_eq_append, hexpansion] at hanswer
      exact ⟨_, hanswer, rfl⟩
  | failed fault => exact ⟨_, .failed rfl hexpansion, rfl⟩

/-- Resolving pieces is taking the turns of the tokens among them and answering accordingly. -/
theorem exists_turns_of_pieces {alone : Bool} (halone : alone = true ↔ whole) {text : String}
    {before : String} {pieces : List Piece}
    (htext : text = before ++ String.ofList (pieces.flatMap Piece.text)) (args : List String)
    (scene : Scene ι) :
    ∃ turns,
      Turns network request whole (tokensFrom before.utf8ByteSize pieces) args scene turns
        (resolvePieces network request alone pieces args scene).left
        (resolvePieces network request alone pieces args scene).scene ∧
      (resolvePieces network request alone pieces args scene).calls = turns.filterMap (·.call) ∧
      Responds text before.utf8ByteSize (tokensFrom before.utf8ByteSize pieces) turns
        (resolvePieces network request alone pieces args scene).result := by
  induction pieces generalizing before args scene with
  | nil =>
      rw [List.flatMap_nil, String.ofList_nil, String.append_empty] at htext
      subst htext
      have hend : Filled text text.utf8ByteSize [] "" :=
        .rest (Text.isSlice_self String.Pos.Raw.isValid_rawEndPos)
      have hvalues : List.zipWith (fun (t : Token) (e : Expanded ι) =>
          e.expansion.replacement? t.literal) [] [] = ([] : List String).map some := rfl
      exact ⟨[], .done, rfl, .text rfl hvalues hend⟩
  | cons piece rest ih =>
      have hpiece : text = before ++ String.ofList piece.text ++
          String.ofList (rest.flatMap Piece.text) := by
        rw [htext, List.flatMap_cons, String.ofList_append, String.append_assoc]
      have hsize : (before ++ String.ofList piece.text).utf8ByteSize =
          before.utf8ByteSize + byteLength piece.text := by
        rw [String.utf8ByteSize_append, byteLength_eq]
      have hslice : Text.IsSlice text before.utf8ByteSize
          (before.utf8ByteSize + byteLength piece.text) (String.ofList piece.text) :=
        Text.isSlice_of_append hpiece rfl (by rw [byteLength_eq])
      cases piece with
      | char c =>
          obtain ⟨turns, hturns, hcalls, hresult⟩ := ih hpiece args scene
          rw [hsize] at hturns hresult
          refine ⟨turns, hturns, hcalls, ?_⟩
          have hmore := hresult.append hslice
          rw [String.toList_ofList] at hmore
          exact hmore
      | token word =>
          generalize he : expand network request alone word args scene = e
          let t : Token := ⟨tokenName word, String.ofList (Piece.token word).text,
            before.utf8ByteSize, before.utf8ByteSize + byteLength (Piece.token word).text⟩
          have hturn := (turn_iff halone (t := t) rfl).2 he
          cases hvalue : e.expansion.replacement? (String.ofList (Piece.token word).text) with
          | none =>
              obtain ⟨result, hresult, hpieces⟩ := exists_resolvePieces_of_end rest he hvalue
                text before.utf8ByteSize (tokensFrom before.utf8ByteSize (.token word :: rest))
              rw [hpieces]
              refine ⟨[e], .ends hturn hvalue, ?_, hresult⟩
              rw [filterMap_cons_eq_append, List.filterMap_nil, List.append_nil]
          | some value =>
              obtain ⟨turns, hturns, hcalls, hresult⟩ := ih hpiece e.left e.scene
              rw [hsize] at hturns hresult
              rw [resolvePieces_of_replacement he hvalue]
              refine ⟨e :: turns, .next hturn hvalue hturns, ?_,
                hresult.cons (t := t) hslice.isValid_start hvalue⟩
              rw [filterMap_cons_eq_append, ← hcalls]
              rfl

theorem exists_turns_of_resolve (network : Network) (request : Request) (template : String)
    (args : List String) (scene : Scene ι) :
    ∃ turns,
      Turns network request (IsWhole template) (tokens template) args scene turns
        (resolve network request template args scene).left
        (resolve network request template args scene).scene ∧
      (resolve network request template args scene).calls = turns.filterMap (·.call) ∧
      Responds template 0 (tokens template) turns
        (resolve network request template args scene).result := by
  have htemplate : template =
      "" ++ String.ofList ((Piece.scan template.toList).flatMap Piece.text) := by
    rw [Piece.flatMap_text_scan, String.empty_append, String.ofList_toList]
  exact exists_turns_of_pieces (isAlone_iff_isWhole template) htemplate args scene

/-- A template is resolved just when its tokens have had their turns from left to right, in what the
turns before have left, and the answer, the calls, the arguments and the scene are what these turns
leave. -/
theorem resolve_eq_iff_turns (network : Network) (request : Request) (template : String)
    (args : List String) (scene : Scene ι) (r : Resolved ι) :
    resolve network request template args scene = r ↔
      ∃ turns,
        Turns network request (IsWhole template) (tokens template) args scene turns r.left r.scene ∧
          r.calls = turns.filterMap (·.call) ∧
            Responds template 0 (tokens template) turns r.result := by
  obtain ⟨turns, hturns, hcalls, hresult⟩ :=
    exists_turns_of_resolve network request template args scene
  constructor
  · rintro rfl
    exact ⟨turns, hturns, hcalls, hresult⟩
  · rintro ⟨turns', hturns', hcalls', hresult'⟩
    obtain ⟨rfl, hleft, hscene⟩ :=
      hturns.unique (fun t ht => exists_tokenName_of_mem_tokens ht) hturns'
    have hanswer := hresult.unique hresult'
    rw [← hcalls'] at hcalls
    cases r
    subst hleft hscene hcalls hanswer
    rfl

end Resolver

end CommandBot.Template
