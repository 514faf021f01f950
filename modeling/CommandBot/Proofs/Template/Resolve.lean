import CommandBot.Proofs.KeyMap
import CommandBot.Proofs.Module.Runs
import CommandBot.Proofs.Text.Casing
import CommandBot.Template.Resolve

/-!
# What holds while a template is resolved

Nothing but module calls changes the scene of a template. `resolvePieces_induction` is the induction
over its pieces, done once: what every possible call keeps up holds of the scene in the end. It
carries along the names of the commands that the calls have removed (`lostIn`), in order.
-/

namespace CommandBot.Template

/-! ### Pieces -/

theorem lower_tokenName (word : List Char) : Text.lower (tokenName word) = tokenName word :=
  Text.lower_lower _

/-- The name characters between the ampersands of a placeholder. -/
def Piece.word? : Piece → Option (List Char)
  | .char _ => none
  | .token word => some word

theorem mem_filterMap_word?_iff (pieces : List Piece) (word : List Char) :
    word ∈ pieces.filterMap Piece.word? ↔ .token word ∈ pieces := by
  rw [List.mem_filterMap]
  constructor
  · rintro ⟨piece, hpiece, hword⟩
    cases piece with
    | char c => cases hword
    | token other => exact Option.some.inj hword ▸ hpiece
  · exact fun h => ⟨_, h, rfl⟩

/-- The names of the placeholders do not depend on where they stand. -/
theorem map_name_tokensFrom (offset : Nat) (pieces : List Piece) :
    (tokensFrom offset pieces).map (·.name) = (pieces.filterMap Piece.word?).map tokenName := by
  induction pieces generalizing offset with
  | nil => rfl
  | cons piece rest ih =>
      cases piece with
      | char c => exact ih _
      | token word => exact congrArg (tokenName word :: ·) (ih _)

theorem exists_mem_tokens {template : String} {word : List Char}
    (h : .token word ∈ Piece.scan template.toList) :
    ∃ t ∈ tokens template, t.name = tokenName word := by
  rw [← List.mem_map, tokens, map_name_tokensFrom]
  exact List.mem_map_of_mem ((mem_filterMap_word?_iff _ _).2 h)

theorem exists_tokenName_of_mem_tokens {template : String} {t : Token} (h : t ∈ tokens template) :
    ∃ word, t.name = tokenName word := by
  have hname : t.name ∈ (tokens template).map (·.name) := List.mem_map_of_mem h
  rw [tokens, map_name_tokensFrom] at hname
  obtain ⟨word, -, hword⟩ := List.mem_map.1 hname
  exact ⟨word, hword.symm⟩

/-! ### Calls -/

variable {ι : Type} [Callable ι]

/-- The placeholder either leaves the scene as it is or calls the module that stands under its
name, with some of the arguments that there are. -/
theorem scene_expand (network : Network) (request : Request) (alone : Bool) (word : List Char)
    (args : List String) (scene : Scene ι) :
    (expand network request alone word args scene).scene = scene ∨
      ∃ m taken, scene.modules.lookup (tokenName word) = .ok m ∧ (∀ a ∈ taken, a ∈ args) ∧
        (expand network request alone word args scene).scene =
          (callModule network request (tokenName word) m taken scene).2 := by
  unfold expand
  simp only
  split
  · exact .inl rfl
  · split
    · rename_i m hlookup
      unfold expandModule
      split
      · exact .inl rfl
      · exact .inr ⟨m, _, hlookup, fun a ha => List.mem_of_mem_take ha, rfl⟩
    · exact .inl rfl
    · exact .inl rfl

theorem mem_of_mem_left_expand {network : Network} {request : Request} {alone : Bool}
    {word : List Char} {args : List String} {scene : Scene ι} {a : String}
    (h : a ∈ (expand network request alone word args scene).left) : a ∈ args := by
  unfold expand at h
  simp only at h
  split at h
  · exact h
  · split at h
    · unfold expandModule at h
      split at h
      · exact h
      · exact List.mem_of_mem_drop h
    · exact h
    · exact h

/-- The call that a module sees. -/
def invocation (request : Request) (args : List String) (scene : Scene ι) : Invocation :=
  ⟨args, request.author, scene.now, scene.modules.outline, scene.channel, scene.exchanges⟩

/-- After a call the module has a new body and time may have passed; what has been done is what
always holds of the run. -/
theorem callModule_of_always {network : Network} {request : Request} {m : Module ι}
    {args : List String} {scene : Scene ι} {p : Effects ι → Prop}
    (h : (Callable.call network m.body (invocation request args scene)).Always p) (name : String) :
    ∃ e : Effects ι, p e ∧
      (callModule network request name m args scene).2.channel = e.channel ∧
      (callModule network request name m args scene).2.modules =
        scene.modules.setBody name m e.body ∧
      scene.now ≤ (callModule network request name m args scene).2.now :=
  ⟨_, h.within request.patience, rfl, rfl, Nat.le_add_right _ _⟩

/-- The commands that a scene has and a later one has not. -/
def lost (before after : Scene ι) : List String :=
  before.channel.commands.byName.keys.filter fun name =>
    !after.channel.commands.byName.contains name

/-- The commands that are removed while pieces are resolved, in order. -/
def lostIn (network : Network) (request : Request) (alone : Bool) :
    List Piece → List String → Scene ι → List String
  | [], _, _ => []
  | .char _ :: rest, args, scene => lostIn network request alone rest args scene
  | .token word :: rest, args, scene =>
      let e := expand network request alone word args scene
      lost scene e.scene ++
        match e.expansion with
        | .value _ => lostIn network request alone rest e.left e.scene
        | .unknown _ => lostIn network request alone rest e.left e.scene
        | .veto => []
        | .failed _ => []

omit [Callable ι] in
theorem lost_self (scene : Scene ι) : lost scene scene = [] := by
  refine List.filter_eq_nil_iff.2 fun name hname => ?_
  obtain ⟨e, he, rfl⟩ := List.mem_map.1 hname
  simp [KeyMap.contains, KeyMap.get?_of_mem he]

omit [Callable ι] in
theorem mem_lost_iff {before after : Scene ι} {name : String} :
    name ∈ lost before after ↔
      (∃ command, before.channel.commands.byName.get? name = some command) ∧
        after.channel.commands.byName.get? name = none := by
  simp only [lost, List.mem_filter, KeyMap.mem_keys_iff, KeyMap.contains, Bool.not_eq_true',
    Option.isSome_eq_false_iff, Option.isNone_iff_eq_none]

/-- What every call that may come up keeps holds when the pieces are resolved. `p` may speak of the
commands that have been removed so far. -/
theorem resolvePieces_induction {network : Network} {request : Request} {alone : Bool}
    {p : List String → Scene ι → Prop} {pieces : List Piece} {args : List String}
    (hcall : ∀ word, .token word ∈ pieces → ∀ m taken gone scene,
      scene.modules.lookup (tokenName word) = .ok m → (∀ a ∈ taken, a ∈ args) → p gone scene →
        p (gone ++ lost scene (callModule network request (tokenName word) m taken scene).2)
          (callModule network request (tokenName word) m taken scene).2)
    (gone : List String) {scene : Scene ι} (h : p gone scene) :
    p (gone ++ lostIn network request alone pieces args scene)
      (resolvePieces network request alone pieces args scene).scene := by
  induction pieces generalizing args gone scene with
  | nil =>
      rw [lostIn, List.append_nil]
      exact h
  | cons piece rest ih =>
      have hrest := fun word hword => hcall word (List.mem_cons_of_mem _ hword)
      cases piece with
      | char c => exact ih hrest gone h
      | token word =>
          have he : p (gone ++ lost scene (expand network request alone word args scene).scene)
              (expand network request alone word args scene).scene := by
            rcases scene_expand network request alone word args scene with
              hsame | ⟨m, taken, hlookup, htaken, hscene⟩
            · rw [hsame, lost_self, List.append_nil]
              exact h
            · rw [hscene]
              exact hcall word List.mem_cons_self m taken gone scene hlookup htaken h
          have hgo : p ((gone ++ lost scene (expand network request alone word args scene).scene) ++
              lostIn network request alone rest (expand network request alone word args scene).left
                (expand network request alone word args scene).scene)
              (resolvePieces network request alone rest
                (expand network request alone word args scene).left
                (expand network request alone word args scene).scene).scene := by
            refine ih (fun other hother m taken gone scene hlookup htaken => ?_) _ he
            exact hrest other hother m taken gone scene hlookup fun a ha =>
              mem_of_mem_left_expand (htaken a ha)
          rw [lostIn, resolvePieces, ← List.append_assoc]
          -- after a veto or a failure nothing more is called, so that nothing more is lost
          cases hexpansion : (expand network request alone word args scene).expansion with
          | value text => exact hgo
          | unknown fault => exact hgo
          | veto => simpa using he
          | failed fault => simpa using he

end CommandBot.Template
