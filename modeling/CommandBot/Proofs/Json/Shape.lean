import CommandBot.Json.Raw

/-!
# The tokens of a shape

`Raw.tokens` lists the tokens that a shape is written with, and reading them gives the shape back
(`ofTokens?_tokens`). The reader keeps a stack of what is still open, so the induction is on the
shape for all stacks and all tokens that follow (`run_tokens`), with one statement each for what
follows the first item of an array and the first member of an object.
-/

namespace CommandBot.Json

mutual

/-- The tokens of a shape in the order in which they are written. -/
def Raw.tokens : Raw → List Token
  | .null => [.null]
  | .bool b => [.bool b]
  | .number text => [.number text]
  | .string parts => [.string parts]
  | .array [] => [.beginArray, .endArray]
  | .array (item :: rest) => .beginArray :: (item.tokens ++ (Raw.itemsTokens rest ++ [.endArray]))
  | .object [] => [.beginObject, .endObject]
  | .object ((key, value) :: rest) =>
      .beginObject :: .string key :: .colon ::
        (value.tokens ++ (Raw.membersTokens rest ++ [.endObject]))

/-- The tokens of the items of an array after its first. -/
def Raw.itemsTokens : List Raw → List Token
  | [] => []
  | item :: rest => .comma :: (item.tokens ++ Raw.itemsTokens rest)

/-- The tokens of the members of an object after its first. -/
def Raw.membersTokens : List (List StringPart × Raw) → List Token
  | [] => []
  | (key, value) :: rest =>
      .comma :: .string key :: .colon :: (value.tokens ++ Raw.membersTokens rest)

end

namespace Parse

/-- A shape does not start with the end of an array, so it is read alike where one may end. -/
theorem run_itemOrEnd (frames : List Frame) (r : Raw) (rest : List Token) :
    run ⟨frames, .itemOrEnd⟩ (r.tokens ++ rest) = run ⟨frames, .value⟩ (r.tokens ++ rest) := by
  cases r with
  | null => rfl
  | bool b => rfl
  | number text => rfl
  | string parts => rfl
  | array items => cases items with
    | nil => rfl
    | cons item others => rfl
  | object members => cases members with
    | nil => rfl
    | cons member others => rfl

mutual

/-- The tokens of a shape complete it, whatever is open and whatever follows. -/
theorem run_tokens (frames : List Frame) (rest : List Token) :
    (r : Raw) → run ⟨frames, .value⟩ (r.tokens ++ rest) =
      (complete r frames).bind fun p => p.run rest
  | .null => rfl
  | .bool _ => rfl
  | .number _ => rfl
  | .string _ => rfl
  | .array [] => rfl
  | .array (item :: others) => by
      have hfirst := run_itemOrEnd (.array [] :: frames) item
        (Raw.itemsTokens others ++ ([.endArray] ++ rest))
      have hitem := run_tokens (.array [] :: frames)
        (Raw.itemsTokens others ++ ([.endArray] ++ rest)) item
      have hothers := run_itemsTokens [item] frames ([.endArray] ++ rest) others
      rw [hitem] at hfirst
      simp only [complete, Option.bind_some] at hfirst
      rw [hothers] at hfirst
      simp only [Raw.tokens, List.cons_append, List.append_assoc, run_cons, step, startValue,
        Option.bind_some]
      rw [List.cons_append] at hfirst
      rw [hfirst, run_cons]
      simp [step, close]
  | .object [] => rfl
  | .object ((key, value) :: others) => by
      have hvalue := run_tokens (.member key [] :: frames)
        (Raw.membersTokens others ++ ([.endObject] ++ rest)) value
      have hothers := run_membersTokens [(key, value)] frames ([.endObject] ++ rest) others
      simp only [complete, Option.bind_some] at hvalue
      rw [hothers] at hvalue
      simp only [Raw.tokens, List.cons_append, List.append_assoc, run_cons, step, startValue,
        startMember, Option.bind_some, reduceCtorEq, if_false, if_true]
      rw [List.cons_append] at hvalue
      rw [hvalue, run_cons]
      simp [step, close]

theorem run_itemsTokens (done : List Raw) (frames : List Frame) (rest : List Token) :
    (items : List Raw) → run ⟨.array done :: frames, .commaOrEnd⟩ (Raw.itemsTokens items ++ rest) =
      run ⟨.array (items.reverse ++ done) :: frames, .commaOrEnd⟩ rest
  | [] => rfl
  | item :: others => by
      have hitem := run_tokens (.array done :: frames) (Raw.itemsTokens others ++ rest) item
      have hothers := run_itemsTokens (item :: done) frames rest others
      simp only [complete, Option.bind_some] at hitem
      simp only [Raw.itemsTokens, List.cons_append, List.append_assoc, run_cons, step, next,
        Option.bind_some, if_true]
      rw [hitem, hothers, List.reverse_cons, List.append_assoc]
      rfl

theorem run_membersTokens (done : List (List StringPart × Raw)) (frames : List Frame)
    (rest : List Token) : (members : List (List StringPart × Raw)) →
      run ⟨.object done :: frames, .commaOrEnd⟩ (Raw.membersTokens members ++ rest) =
        run ⟨.object (members.reverse ++ done) :: frames, .commaOrEnd⟩ rest
  | [] => rfl
  | (key, value) :: others => by
      have hvalue :=
        run_tokens (.member key done :: frames) (Raw.membersTokens others ++ rest) value
      have hothers := run_membersTokens ((key, value) :: done) frames rest others
      simp only [complete, Option.bind_some] at hvalue
      simp only [Raw.membersTokens, List.cons_append, List.append_assoc, run_cons, step, next,
        startMember, Option.bind_some, if_true]
      rw [hvalue, hothers, List.reverse_cons, List.append_assoc]
      rfl

end

end Parse

theorem ofTokens?_tokens (r : Raw) : Raw.ofTokens? r.tokens = some r := by
  have hrun := Parse.run_tokens [] [] r
  rw [List.append_nil] at hrun
  rw [Raw.ofTokens?, Parse.start, hrun]
  rfl

end CommandBot.Json
