import CommandBot.Json.Printer
import CommandBot.Proofs.Json.Shape
import CommandBot.Proofs.Number.Digits

/-!
# The shape that a value is written in

`Json.shape` says how a value is written, and `ofText?_pretty` that its text is read as just that
shape. The machine that cuts a text into tokens takes numbers and words as far as they go, so a
value is followed through it for all texts that do not carry on such a run (`EndsRun`).
Floating-point numbers are left out.
-/

namespace CommandBot.Json

/-- A control character that has no short escape. -/
def isPlainControl (c : Char) : Bool :=
  c.toNat < 32 && !(c == '\n' || c == '\r' || c == '\t' || c.toNat == 8 || c.toNat == 12)

/-- The part of a string that a character is written as. -/
def partOf (c : Char) : StringPart := if isPlainControl c then .unit c.toNat else .char c

/-- The parts that a string is written with. -/
def partsOf (s : String) : List StringPart := s.toList.map partOf

/-- An integer as it is written. -/
def integerText (n : Int) : NumberText := ⟨decide (n < 0), Nat.toDigits 10 n.natAbs, none, none⟩

mutual

/-- The shape that a value is written in. -/
def shape : Json → Raw
  | .null => .null
  | .bool b => .bool b
  | .integer n => .number (integerText n)
  | .float x => .number ((NumberText.ofChars? x.text.toList).getD ⟨false, ['0'], none, none⟩)
  | .string s => .string (partsOf s)
  | .array items => .array (itemShapes items)
  | .object members => .object (memberShapes members)

/-- The shapes of a list of values. -/
def itemShapes : List Json → List Raw
  | [] => []
  | item :: rest => shape item :: itemShapes rest

/-- The shapes of members. -/
def memberShapes : List (String × Json) → List (List StringPart × Raw)
  | [] => []
  | (key, value) :: rest => (partsOf key, shape value) :: memberShapes rest

end

/-- The text does not carry on a run of characters that numbers or words are made of. -/
def EndsRun : List Char → Prop
  | [] => True
  | c :: _ => isNumberChar c = false ∧ c.isAlpha = false

theorem lexFrom_of_endRunStep {state : LexState} {rest : List Char} {t : Token}
    (hend : endRun state = some [t])
    (hstep : ∀ c after, rest = c :: after → lexStep state c = endRunStep state c) :
    lexFrom state rest = (lexFrom .between rest).map (t :: ·) := by
  cases rest with
  | nil =>
      rw [lexFrom_nil, lexFrom_nil, hend]
      rfl
  | cons c after =>
      rw [lexFrom_cons, lexFrom_cons, hstep c after rfl]
      change _ = Option.map _ ((betweenStep c).bind _)
      simp only [endRunStep, hend]
      cases betweenStep c with
      | none => rfl
      | some s => cases h : lexFrom s.2 after with
        | none => simp [h]
        | some ts => simp [h]

theorem lexFrom_word {word rest : List Char} {t : Token} (read : List Char)
    (hword : ∀ c ∈ word, c.isAlpha = true) (ht : wordToken? (read.reverse ++ word) = some t)
    (hrest : EndsRun rest) :
    lexFrom (.inWord read) (word ++ rest) = (lexFrom .between rest).map (t :: ·) := by
  induction word generalizing read with
  | nil =>
      rw [List.append_nil] at ht
      refine lexFrom_of_endRunStep (by simp [endRun, ht]) fun c after heq => ?_
      subst heq
      simp [lexStep, hrest.2]
  | cons c word ih =>
      have hc := hword c List.mem_cons_self
      rw [List.cons_append, lexFrom_cons]
      simp only [lexStep, hc, if_true, Option.bind_some, List.nil_append]
      rw [ih (c :: read) (fun d hd => hword d (List.mem_cons_of_mem _ hd)) (by simpa using ht)]
      simp

theorem lexFrom_number {digits rest : List Char} {text : NumberText} (read : List Char)
    (hdigits : ∀ c ∈ digits, isNumberChar c = true)
    (htext : NumberText.ofChars? (read.reverse ++ digits) = some text) (hrest : EndsRun rest) :
    lexFrom (.inNumber read) (digits ++ rest) =
      (lexFrom .between rest).map (.number text :: ·) := by
  induction digits generalizing read with
  | nil =>
      rw [List.append_nil] at htext
      refine lexFrom_of_endRunStep (by simp [endRun, htext]) fun c after heq => ?_
      subst heq
      simp [lexStep, hrest.1]
  | cons c digits ih =>
      have hc := hdigits c List.mem_cons_self
      rw [List.cons_append, lexFrom_cons]
      simp only [lexStep, hc, if_true, Option.bind_some, List.nil_append]
      rw [ih (c :: read) (fun d hd => hdigits d (List.mem_cons_of_mem _ hd)) (by simpa using htext)]
      simp

/-! ### Integers -/

theorem takeWhile_eq_self {p : Char → Bool} {cs : List Char} (h : ∀ c ∈ cs, p c = true) :
    cs.takeWhile p = cs ∧ cs.dropWhile p = [] := by
  induction cs with
  | nil => exact ⟨rfl, rfl⟩
  | cons c cs ih =>
      obtain ⟨htake, hdrop⟩ := ih fun d hd => h d (List.mem_cons_of_mem _ hd)
      have hc := h c List.mem_cons_self
      exact ⟨by rw [List.takeWhile_cons, if_pos hc, htake],
        by rw [List.dropWhile_cons, if_pos hc, hdrop]⟩

theorem cutAt_eq_self {p : Char → Bool} {cs : List Char} (h : ∀ c ∈ cs, p c = false) :
    cutAt p cs = (cs, none) := by
  obtain ⟨htake, hdrop⟩ := takeWhile_eq_self (p := fun c => !p c) fun c hc => by simp [h c hc]
  rw [cutAt, htake, hdrop]
  rfl

theorem digit_ne {c d : Char} (hc : c.isDigit = true) (hd : d.isDigit = false) : c ≠ d := by
  rintro rfl
  rw [hc] at hd
  cases hd

theorem ofChars?_of_digits (negative : Bool) {digits : List Char}
    (hdigits : ∀ c ∈ digits, c.isDigit = true) (hwhole : isWhole digits = true) :
    NumberText.ofChars? (if negative then '-' :: digits else digits) =
      some ⟨negative, digits, none, none⟩ := by
  have hexponent : cutAt (fun c => c == 'e' || c == 'E') digits = (digits, none) :=
    cutAt_eq_self fun c hc => by
      simp [digit_ne (hdigits c hc) (show 'e'.isDigit = false from rfl),
        digit_ne (hdigits c hc) (show 'E'.isDigit = false from rfl)]
  have hpoint : cutAt (· == '.') digits = (digits, none) :=
    cutAt_eq_self fun c hc => by
      simp [digit_ne (hdigits c hc) (show '.'.isDigit = false from rfl)]
  have hparts : NumberText.ofParts? negative digits none none =
      some ⟨negative, digits, none, none⟩ := by
    simp [NumberText.ofParts?, hwhole]
  cases negative with
  | true =>
      simp only [NumberText.ofChars?, if_true, hexponent, hpoint]
      exact hparts
  | false =>
      have hsign : ∀ rest, digits ≠ '-' :: rest := by
        rintro rest rfl
        exact absurd (hdigits '-' List.mem_cons_self) (by decide)
      unfold NumberText.ofChars?
      simp only [Bool.false_eq_true, if_false, hexponent, hpoint]
      exact hparts

theorem toList_toString_int (n : Int) : (toString n).toList =
    if decide (n < 0) then '-' :: Nat.toDigits 10 n.natAbs else Nat.toDigits 10 n.natAbs := by
  rw [Int.toString_eq_repr, Int.repr_eq_if]
  by_cases h : n < 0
  · have habs : (-n).toNat = n.natAbs := by omega
    rw [if_neg (by omega), String.toList_append, Nat.toList_repr, habs]
    simp [h]
  · have habs : n.toNat = n.natAbs := by omega
    rw [if_pos (by omega), Nat.toList_repr, habs]
    simp [h]

theorem ofChars?_toString_int (n : Int) :
    NumberText.ofChars? (toString n).toList = some (integerText n) := by
  rw [toList_toString_int]
  exact ofChars?_of_digits _ (fun c => Number.isDigit_of_mem_toDigits) (isWhole_toDigits _)

theorem isNumberChar_of_isDigit {c : Char} (h : c.isDigit = true) : isNumberChar c = true := by
  simp [isNumberChar, h]

theorem mem_toString_int {n : Int} {c : Char} (h : c ∈ (toString n).toList) :
    c.isDigit = true ∨ c = '-' := by
  rw [toList_toString_int] at h
  split at h
  · rcases List.mem_cons.1 h with h | h
    · exact .inr h
    · exact .inl (Number.isDigit_of_mem_toDigits h)
  · exact .inl (Number.isDigit_of_mem_toDigits h)

theorem betweenStep_number {c : Char} (h : c.isDigit = true ∨ c = '-') :
    betweenStep c = some ([], .inNumber [c]) := by
  rcases h with h | rfl
  · have hne := fun d hd => digit_ne (d := d) h hd
    simp [betweenStep, isSpace, startsNumber, h, hne ' ' rfl, hne '\n' rfl, hne '\t' rfl,
      hne '\r' rfl, hne '[' rfl, hne ']' rfl, hne '\x7b' rfl, hne '\x7d' rfl, hne ',' rfl,
      hne ':' rfl, hne '"' rfl]
  · rfl

theorem lexFrom_integer (n : Int) {rest : List Char} (hrest : EndsRun rest) :
    lexFrom .between ((toString n).toList ++ rest) =
      (lexFrom .between rest).map (.number (integerText n) :: ·) := by
  have hmem := fun c => mem_toString_int (n := n) (c := c)
  have hread := ofChars?_toString_int n
  cases hchars : (toString n).toList with
  | nil =>
      rw [hchars] at hread
      cases hread
  | cons c digits =>
      rw [hchars] at hmem hread
      rw [List.cons_append, lexFrom_cons]
      simp only [lexStep, betweenStep_number (hmem c List.mem_cons_self), Option.bind_some,
        List.nil_append]
      rw [lexFrom_number [c] (fun d hd => ?_) hread hrest]
      · simp
      · rcases hmem d (List.mem_cons_of_mem _ hd) with h | rfl
        · exact isNumberChar_of_isDigit h
        · rfl

/-! ### Strings -/

theorem hexValue?_digitChar : ∀ d < 16, hexValue? (Nat.digitChar d) = some d := by
  decide

/-- Inside a string a character that completes no token only moves the machine on. -/
theorem lexFrom_inString {read : List StringPart} {escape : Escape} {c : Char} (state : LexState)
    (h : stringStep read escape c = some ([], state)) (rest : List Char) :
    lexFrom (.inString read escape) (c :: rest) = lexFrom state rest := by
  rw [lexFrom_cons]
  simp only [lexStep, h, Option.bind_some, List.nil_append]
  cases lexFrom state rest with
  | none => rfl
  | some ts => rfl

theorem lexFrom_shortEscape {letter c : Char} (hescape : escaped? letter = some c)
    (hletter : letter ≠ 'u') (read : List StringPart) (rest : List Char) :
    lexFrom (.inString read .none) ('\\' :: letter :: rest) =
      lexFrom (.inString (.char c :: read) .none) rest := by
  rw [lexFrom_inString (.inString read .backslash) rfl,
    lexFrom_inString (.inString (.char c :: read) .none)]
  simp [stringStep, hletter, hescape]

theorem lexFrom_controlEscape {n : Nat} (h : n < 32) (read : List StringPart) (rest : List Char) :
    lexFrom (.inString read .none)
        ('\\' :: 'u' :: '0' :: '0' :: hexDigit (n / 16) :: hexDigit (n % 16) :: rest) =
      lexFrom (.inString (.unit n :: read) .none) rest := by
  have hhigh := hexValue?_digitChar (n / 16) (by omega)
  have hlow := hexValue?_digitChar (n % 16) (by omega)
  have hcode : 16 * (n / 16) + n % 16 = n := by omega
  rw [lexFrom_inString (.inString read .backslash) rfl,
    lexFrom_inString (.inString read (.hex 0 4)) rfl,
    lexFrom_inString (.inString read (.hex 0 3)) rfl,
    lexFrom_inString (.inString read (.hex 0 2)) rfl,
    lexFrom_inString (.inString read (.hex (n / 16) 1)),
    lexFrom_inString (.inString (.unit n :: read) .none)]
  · simp [stringStep, hexDigit, hlow, hcode]
  · simp [stringStep, hexDigit, hhigh]

/-- The escape of a character is read as the part that it is written as. -/
theorem lexFrom_escapeChar (read : List StringPart) (c : Char) (rest : List Char) :
    lexFrom (.inString read .none) (escapeChar c ++ rest) =
      lexFrom (.inString (partOf c :: read) .none) rest := by
  have hshort : ∀ letter, escaped? letter = some c → letter ≠ 'u' → isPlainControl c = false →
      lexFrom (.inString read .none) (['\\', letter] ++ rest) =
        lexFrom (.inString (partOf c :: read) .none) rest := by
    intro letter hescape hletter hplain
    rw [partOf, if_neg (by simp [hplain])]
    exact lexFrom_shortEscape hescape hletter read rest
  unfold escapeChar
  split
  · subst c
    exact hshort '"' rfl (by decide) rfl
  split
  · subst c
    exact hshort '\\' rfl (by decide) rfl
  split
  · subst c
    exact hshort 'n' rfl (by decide) rfl
  split
  · subst c
    exact hshort 'r' rfl (by decide) rfl
  split
  · subst c
    exact hshort 't' rfl (by decide) rfl
  split
  · rename_i hcode
    obtain rfl : c = Char.ofNat 8 := by rw [← hcode, Char.ofNat_toNat]
    exact hshort 'b' rfl (by decide) rfl
  split
  · rename_i hcode
    obtain rfl : c = Char.ofNat 12 := by rw [← hcode, Char.ofNat_toNat]
    exact hshort 'f' rfl (by decide) rfl
  rename_i hquote hslash hn hr ht hb hf
  split
  · rename_i hcontrol
    have hplain : isPlainControl c = true := by
      simp [isPlainControl, hcontrol, hn, hr, ht, hb, hf]
    rw [partOf, if_pos hplain]
    exact lexFrom_controlEscape hcontrol read rest
  · rename_i hcontrol
    have hplain : isPlainControl c = false := by simp [isPlainControl, hcontrol]
    rw [partOf, if_neg (by simp [hplain]), List.singleton_append]
    refine lexFrom_inString _ ?_ rest
    simp [stringStep, hquote, hslash, hcontrol]

theorem lexFrom_escaped (read : List StringPart) (cs rest : List Char) :
    lexFrom (.inString read .none) (cs.flatMap escapeChar ++ '"' :: rest) =
      (lexFrom .between rest).map (.string (read.reverse ++ cs.map partOf) :: ·) := by
  induction cs generalizing read with
  | nil =>
      rw [List.flatMap_nil, List.nil_append, lexFrom_cons]
      simp only [lexStep, stringStep, if_true, Option.bind_some, List.map_nil, List.append_nil]
      cases lexFrom .between rest with
      | none => rfl
      | some ts => rfl
  | cons c cs ih =>
      rw [List.flatMap_cons, List.append_assoc, lexFrom_escapeChar, ih (partOf c :: read),
        List.reverse_cons, List.append_assoc]
      rfl

theorem lexFrom_stringText (s : String) (rest : List Char) :
    lexFrom .between (stringText s ++ rest) =
      (lexFrom .between rest).map (.string (partsOf s) :: ·) := by
  have hbody := lexFrom_escaped [] s.toList rest
  have htext : stringText s ++ rest =
      '"' :: (s.toList.flatMap escapeChar ++ '"' :: rest) := by
    simp [stringText]
  rw [htext, lexFrom_cons]
  have hstart : lexStep .between '"' = some ([], .inString [] .none) := rfl
  simp only [hstart, Option.bind_some, List.nil_append]
  rw [hbody]
  cases lexFrom .between rest with
  | none => rfl
  | some ts => rfl

/-! ### Values -/

theorem lexFrom_space {c : Char} (h : isSpace c = true) (rest : List Char) :
    lexFrom .between (c :: rest) = lexFrom .between rest := by
  have hstep : betweenStep c = some ([], .between) := by rw [betweenStep, if_pos h]
  rw [lexFrom_cons]
  simp only [lexStep, hstep, Option.bind_some, List.nil_append]
  cases lexFrom .between rest with
  | none => rfl
  | some ts => rfl

theorem lexFrom_lineBreak (level : Nat) (rest : List Char) :
    lexFrom .between (lineBreak level ++ rest) = lexFrom .between rest := by
  have hblanks : ∀ n, lexFrom .between (List.replicate n ' ' ++ rest) = lexFrom .between rest := by
    intro n
    induction n with
    | zero => rfl
    | succ n ih =>
        rw [List.replicate_succ, List.cons_append, lexFrom_space rfl]
        exact ih
  rw [lineBreak, List.cons_append, lexFrom_space rfl]
  exact hblanks _

theorem lexFrom_mark {c : Char} {t : Token} (h : betweenStep c = some ([t], .between))
    (rest : List Char) :
    lexFrom .between (c :: rest) = (lexFrom .between rest).map (t :: ·) := by
  rw [lexFrom_cons]
  simp only [lexStep, h, Option.bind_some, List.singleton_append]
  cases lexFrom .between rest with
  | none => rfl
  | some ts => rfl

theorem endsRun_lineBreak (level : Nat) (rest : List Char) : EndsRun (lineBreak level ++ rest) :=
  ⟨rfl, rfl⟩

theorem endsRun_prettyItems (level : Nat) (items : List Json) {rest : List Char}
    (hrest : EndsRun rest) : EndsRun (prettyItems level items ++ rest) := by
  cases items with
  | nil => exact hrest
  | cons item others => exact ⟨rfl, rfl⟩

theorem endsRun_prettyMembers (level : Nat) (members : List (String × Json)) {rest : List Char}
    (hrest : EndsRun rest) : EndsRun (prettyMembers level members ++ rest) := by
  cases members with
  | nil => exact hrest
  | cons member others => exact ⟨rfl, rfl⟩

theorem lexFrom_firstLetter (c : Char) (word : List Char) {rest : List Char} {t : Token}
    (hc : betweenStep c = some ([], .inWord [c])) (hword : word.all Char.isAlpha = true)
    (ht : wordToken? (c :: word) = some t) (hrest : EndsRun rest) :
    lexFrom .between (c :: word ++ rest) = (lexFrom .between rest).map (t :: ·) := by
  rw [List.cons_append, lexFrom_cons]
  simp only [lexStep, hc, Option.bind_some, List.nil_append]
  rw [lexFrom_word [c] (List.all_eq_true.1 hword) ht hrest]
  simp

theorem lexFrom_key (key : String) (rest : List Char) :
    lexFrom .between (stringText key ++ ":".toList ++ " ".toList ++ rest) =
      (lexFrom .between rest).map fun ts => .string (partsOf key) :: .colon :: ts := by
  have hcolon : lexFrom .between (':' :: ' ' :: rest) =
      (lexFrom .between rest).map (.colon :: ·) := by
    rw [lexFrom_mark (t := .colon) rfl, lexFrom_space rfl]
  have htext : stringText key ++ ":".toList ++ " ".toList ++ rest =
      stringText key ++ ':' :: ' ' :: rest := by
    simp
  rw [htext, lexFrom_stringText, hcolon, Option.map_map]
  rfl

mutual

/-- The text of a value is cut into the tokens of its shape. -/
theorem lexFrom_prettyFrom (level : Nat) {rest : List Char} (hrest : EndsRun rest) :
    (value : Json) → value.IsFloatFree →
      lexFrom .between (prettyFrom level value ++ rest) =
        (lexFrom .between rest).map ((shape value).tokens ++ ·)
  | .null, _ => lexFrom_firstLetter 'n' ['u', 'l', 'l'] rfl rfl rfl hrest
  | .bool true, _ =>
      lexFrom_firstLetter 't' ['r', 'u', 'e'] rfl rfl rfl hrest
  | .bool false, _ =>
      lexFrom_firstLetter 'f' ['a', 'l', 's', 'e'] rfl rfl rfl hrest
  | .integer n, _ => lexFrom_integer n hrest
  | .float _, hfree => hfree.elim
  | .string s, _ => lexFrom_stringText s rest
  | .array [], _ => by
      change lexFrom .between ('[' :: ']' :: rest) = _
      rw [lexFrom_mark (t := .beginArray) rfl, lexFrom_mark (t := .endArray) rfl, Option.map_map]
      rfl
  | .array (item :: others), hfree => by
      have hend : EndsRun (lineBreak level ++ ([']'] ++ rest)) := endsRun_lineBreak level _
      have hitem := lexFrom_prettyFrom (level + 1)
        (endsRun_prettyItems (level + 1) others hend) item hfree.1
      have hothers := lexFrom_prettyItems (level + 1) hend others hfree.2
      have hclose : lexFrom .between (']' :: rest) =
          (lexFrom .between rest).map (.endArray :: ·) := lexFrom_mark rfl rest
      rw [hothers, lexFrom_lineBreak, List.singleton_append, hclose] at hitem
      simp only [prettyFrom, List.cons_append, List.append_assoc]
      rw [lexFrom_mark (t := .beginArray) rfl, lexFrom_lineBreak, List.nil_append, hitem]
      simp only [Option.map_map]
      congr 1
      funext ts
      simp [shape, itemShapes, Raw.tokens]
  | .object [], _ => by
      change lexFrom .between ('\x7b' :: '\x7d' :: rest) = _
      rw [lexFrom_mark (t := .beginObject) rfl, lexFrom_mark (t := .endObject) rfl, Option.map_map]
      rfl
  | .object ((key, value) :: others), hfree => by
      have hend : EndsRun (lineBreak level ++ (['\x7d'] ++ rest)) := endsRun_lineBreak level _
      have hvalue := lexFrom_prettyFrom (level + 1)
        (endsRun_prettyMembers (level + 1) others hend) value hfree.1
      have hothers := lexFrom_prettyMembers (level + 1) hend others hfree.2
      have hclose : lexFrom .between ('\x7d' :: rest) =
          (lexFrom .between rest).map (.endObject :: ·) := lexFrom_mark rfl rest
      have hkey := lexFrom_key key (prettyFrom (level + 1) value ++
        (prettyMembers (level + 1) others ++ (lineBreak level ++ (['\x7d'] ++ rest))))
      rw [hothers, lexFrom_lineBreak, List.singleton_append, hclose] at hvalue
      rw [List.singleton_append, hvalue] at hkey
      simp only [List.append_assoc] at hkey
      simp only [prettyFrom, List.cons_append, List.append_assoc, List.nil_append]
      rw [lexFrom_mark (t := .beginObject) rfl, lexFrom_lineBreak, hkey]
      simp only [Option.map_map]
      congr 1
      funext ts
      simp [shape, memberShapes, Raw.tokens]

theorem lexFrom_prettyItems (level : Nat) {rest : List Char} (hrest : EndsRun rest) :
    (items : List Json) → AllFloatFree items →
      lexFrom .between (prettyItems level items ++ rest) =
        (lexFrom .between rest).map (Raw.itemsTokens (itemShapes items) ++ ·)
  | [], _ => by simp [prettyItems, itemShapes, Raw.itemsTokens]
  | item :: others, hfree => by
      have hitem := lexFrom_prettyFrom level (endsRun_prettyItems level others hrest) item hfree.1
      have hothers := lexFrom_prettyItems level hrest others hfree.2
      rw [hothers] at hitem
      simp only [prettyItems, List.cons_append, List.append_assoc]
      rw [lexFrom_mark (t := .comma) rfl, lexFrom_lineBreak, hitem]
      simp only [Option.map_map]
      congr 1
      funext ts
      simp [itemShapes, Raw.itemsTokens]

theorem lexFrom_prettyMembers (level : Nat) {rest : List Char} (hrest : EndsRun rest) :
    (members : List (String × Json)) → MembersFloatFree members →
      lexFrom .between (prettyMembers level members ++ rest) =
        (lexFrom .between rest).map (Raw.membersTokens (memberShapes members) ++ ·)
  | [], _ => by simp [prettyMembers, memberShapes, Raw.membersTokens]
  | (key, value) :: others, hfree => by
      have hvalue :=
        lexFrom_prettyFrom level (endsRun_prettyMembers level others hrest) value hfree.1
      have hothers := lexFrom_prettyMembers level hrest others hfree.2
      have hkey := lexFrom_key key
        (prettyFrom level value ++ (prettyMembers level others ++ rest))
      rw [hothers] at hvalue
      rw [hvalue] at hkey
      simp only [List.append_assoc] at hkey
      simp only [prettyMembers, List.cons_append, List.append_assoc]
      rw [lexFrom_mark (t := .comma) rfl, lexFrom_lineBreak, hkey]
      simp only [Option.map_map]
      congr 1
      funext ts
      simp [memberShapes, Raw.membersTokens]

end

/-- The text of a value is read as the shape that the value is written in. -/
theorem ofText?_pretty {value : Json} (hfree : value.IsFloatFree) :
    Raw.ofText? value.pretty = some (shape value) := by
  have hend : EndsRun [] := trivial
  have hlex := lexFrom_prettyFrom 0 hend value hfree
  have htokens : lex (prettyFrom 0 value) = some (shape value).tokens := by
    rw [List.append_nil, lexFrom_nil] at hlex
    rw [lex, hlex]
    simp [endRun]
  rw [Raw.ofText?, pretty, String.toList_ofList, htokens, Option.bind_some]
  exact ofTokens?_tokens _

end CommandBot.Json
