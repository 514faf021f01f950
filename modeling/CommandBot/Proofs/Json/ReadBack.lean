import CommandBot.Proofs.Json.Fields

/-!
# Which values are read back

A value that is read from a text has ascending keys and integers of 64 bits, and no object in it
looks like one that stands for a written value and holds nothing else (`isRead_of_value?`). Such a
value is read from the shape that it is written in either as itself or not at all, and as itself
just when it is not nested too deep and none of its objects starts with the key of a written value
(`value?_shape_eq_some_iff`).
-/

namespace CommandBot.Json

/-! ### Arrays and objects as lists that are read one by one -/

section Lists

variable (embedded : String → Option Json) (room : Nat)

/-- Reads a member. -/
def readMember? (e : List StringPart × Raw) : Option (String × Json) :=
  (stringOf? e.1).bind fun key => (e.2.toJson? embedded room).map fun value => (key, value)

theorem toItems?_eq_mapM (items : List Raw) :
    Raw.toItems? embedded room items = items.mapM (Raw.toJson? embedded room) := by
  induction items with
  | nil => rfl
  | cons item rest ih => rw [Raw.toItems?, ih, List.mapM_cons]; rfl

theorem toMembers?_entries (before : KeyMap Json) (members : List (List StringPart × Raw)) :
    Raw.toMembers? embedded room before.entries members =
      (members.mapM (readMember? embedded room)).map fun pairs =>
        (before.insertAll pairs).entries := by
  induction members generalizing before with
  | nil => rfl
  | cons e rest ih =>
      rw [Raw.toMembers?, List.mapM_cons, readMember?]
      cases stringOf? e.1 with
      | none => rfl
      | some key =>
          cases e.2.toJson? embedded room with
          | none => simp
          | some value =>
              have hrest := ih (before.insert key value)
              simp only [Option.bind_eq_bind, Option.bind_some, Option.map_some]
              refine Eq.trans hrest ?_
              cases rest.mapM (readMember? embedded room) with
              | none => rfl
              | some pairs => rfl

theorem toMembers?_nil (members : List (List StringPart × Raw)) :
    Raw.toMembers? embedded room [] members =
      (members.mapM (readMember? embedded room)).map fun pairs => (KeyMap.ofList pairs).entries :=
  toMembers?_entries embedded room .empty members

end Lists

/-! ### What reading an array or an object comes to -/

section Cases

variable {embedded : String → Option Json} {room : Nat} {value : Json}

theorem toJson?_array_eq_some_iff {items : List Raw} :
    (Raw.array items).toJson? embedded room = some value ↔
      ∃ inner values, room = inner + 1 ∧ value = .array values ∧
        items.mapM (Raw.toJson? embedded inner) = some values := by
  cases room with
  | zero => simp [Raw.toJson?]
  | succ inner =>
      rw [Raw.toJson?, if_neg (Nat.succ_ne_zero _), Nat.add_sub_cancel, toItems?_eq_mapM,
        Option.map_eq_some_iff]
      constructor
      · rintro ⟨values, hvalues, rfl⟩
        exact ⟨inner, values, rfl, rfl, hvalues⟩
      · rintro ⟨_, values, hroom, rfl, hvalues⟩
        obtain rfl := Nat.succ.inj hroom
        exact ⟨values, hvalues, rfl⟩

theorem toJson?_object {members : List (List StringPart × Raw)} {pairs : List (String × Json)}
    (hplain : embedding? members = none)
    (h : members.mapM (readMember? embedded room) = some pairs) :
    (Raw.object members).toJson? embedded (room + 1) =
      some (.object (KeyMap.ofList pairs).entries) := by
  rw [Raw.toJson?, if_neg (Nat.succ_ne_zero _), Nat.add_sub_cancel, hplain]
  simp only [toMembers?_nil, h, Option.map_some]

/-- An object that is read holds nothing but the text of a value, or it is read member by member. -/
theorem object_of_toJson? {members : List (List StringPart × Raw)}
    (h : (Raw.object members).toJson? embedded room = some value) :
    ∃ inner, room = inner + 1 ∧
      ((∃ key parts text, members = [(key, .string parts)] ∧ stringOf? key = some embeddingKey ∧
          stringOf? parts = some text ∧ embedded text = some value) ∨
        (embedding? members = none ∧ ∃ pairs, value = .object (KeyMap.ofList pairs).entries ∧
          members.mapM (readMember? embedded inner) = some pairs)) := by
  cases room with
  | zero => cases h
  | succ inner =>
      refine ⟨inner, rfl, ?_⟩
      rw [Raw.toJson?, if_neg (Nat.succ_ne_zero _), Nat.add_sub_cancel] at h
      split at h
      · rename_i parts hmark
        split at h
        · rename_i hlength
          obtain ⟨⟨key, item⟩, rfl⟩ := List.length_eq_one_iff.1 hlength
          rw [embedding?] at hmark
          split at hmark
          · rename_i hkey
            obtain rfl := Option.some.inj hmark
            obtain ⟨text, htext, hvalue⟩ := Option.bind_eq_some_iff.1 h
            exact .inl ⟨key, parts, text, rfl, hkey, htext, hvalue⟩
          · cases hmark
        · cases h
      · cases h
      · rename_i hplain
        rw [toMembers?_nil] at h
        obtain ⟨entries, hentries, rfl⟩ := Option.map_eq_some_iff.1 h
        obtain ⟨pairs, hpairs, rfl⟩ := Option.map_eq_some_iff.1 hentries
        exact .inr ⟨hplain, pairs, rfl, hpairs⟩

/-- A number that is read is an integer of 64 bits or a floating-point number. -/
theorem number_of_value? {text : NumberText} (h : text.value? = some value) :
    (∃ n, value = .integer n ∧ integerInRange n = true) ∨ ∃ x, value = .float x := by
  have hfloat : text.float?.map Json.float = some value → ∃ x, value = .float x := by
    intro hmap
    obtain ⟨x, -, rfl⟩ := Option.map_eq_some_iff.1 hmap
    exact ⟨x, rfl⟩
  have hle : (Number.twoPow 63 : Int) ≤ Number.twoPow 64 := by decide
  have hpos : (0 : Int) < Number.twoPow 63 := by decide
  unfold NumberText.value? at h
  split at h
  · dsimp only at h
    split at h
    · rename_i hlt
      obtain rfl := Option.some.inj h
      refine .inl ⟨_, rfl, ?_⟩
      simp only [Bool.and_eq_true, decide_eq_true_eq] at hlt
      simp only [integerInRange, Bool.and_eq_true, decide_eq_true_eq]
      omega
    · split at h
      · rename_i hle
        obtain rfl := Option.some.inj h
        refine .inl ⟨_, rfl, ?_⟩
        simp only [Bool.and_eq_true, decide_eq_true_eq] at hle
        simp only [integerInRange, Bool.and_eq_true, decide_eq_true_eq]
        omega
      · exact .inr (hfloat h)
  · exact .inr (hfloat h)

end Cases

/-! ### What a value that is read looks like -/

/-- An integer of 64 bits, or no integer. -/
def IntegerFits : Json → Prop
  | .integer n => integerInRange n = true
  | _ => True

/-- An object that starts with the key of a written value. -/
def StartsEmbedding : Json → Prop
  | .object ((key, _) :: _) => key = embeddingKey
  | _ => False

/-- An object that holds the key of a written value and nothing else. -/
def IsEmbedding : Json → Prop
  | .object [(key, _)] => key = embeddingKey
  | _ => False

/-- A value as it is kept: its keys ascend, and its integers have 64 bits. -/
structure IsProper (value : Json) : Prop where
  canonical : value.IsCanonical
  integers : value.Everywhere IntegerFits

/-- No object in the value starts with the key of a written value. -/
def IsUnmarked (value : Json) : Prop := value.Everywhere fun part => ¬ part.StartsEmbedding

/-- No object in the value holds the key of a written value and nothing else. -/
def IsUnembedded (value : Json) : Prop := value.Everywhere fun part => ¬ part.IsEmbedding

/-- A value that a text can have. -/
structure IsRead (value : Json) : Prop extends IsProper value where
  unembedded : value.IsUnembedded

theorem isProper_array_iff {items : List Json} :
    (array items).IsProper ↔ ∀ item ∈ items, item.IsProper :=
  ⟨fun h item hitem => ⟨isCanonical_array_iff.1 h.canonical item hitem,
      (everywhere_array_iff.1 h.integers).2 item hitem⟩,
    fun h => ⟨isCanonical_array_iff.2 fun item hitem => (h item hitem).canonical,
      everywhere_array_iff.2 ⟨trivial, fun item hitem => (h item hitem).integers⟩⟩⟩

theorem isProper_object_iff {members : List (String × Json)} :
    (object members).IsProper ↔ Ascending members ∧ ∀ e ∈ members, e.2.IsProper :=
  ⟨fun h => ⟨(isCanonical_object_iff.1 h.canonical).1, fun e he =>
      ⟨(isCanonical_object_iff.1 h.canonical).2 e he, (everywhere_object_iff.1 h.integers).2 e he⟩⟩,
    fun h => ⟨isCanonical_object_iff.2 ⟨h.1, fun e he => (h.2 e he).canonical⟩,
      everywhere_object_iff.2 ⟨trivial, fun e he => (h.2 e he).integers⟩⟩⟩

theorem isRead_array {items : List Json} (h : ∀ item ∈ items, item.IsRead) :
    (array items).IsRead where
  toIsProper := isProper_array_iff.2 fun item hitem => (h item hitem).toIsProper
  unembedded := everywhere_array_iff.2 ⟨not_false, fun item hitem => (h item hitem).unembedded⟩

theorem isRead_object {members : List (String × Json)} (hascending : Ascending members)
    (hplain : ¬ (object members).IsEmbedding) (h : ∀ e ∈ members, e.2.IsRead) :
    (object members).IsRead where
  toIsProper := isProper_object_iff.2 ⟨hascending, fun e he => (h e he).toIsProper⟩
  unembedded := everywhere_object_iff.2 ⟨hplain, fun e he => (h e he).unembedded⟩

theorem isRead_of_number {text : NumberText} {value : Json} (h : text.value? = some value) :
    value.IsRead := by
  rcases number_of_value? h with ⟨n, rfl, hn⟩ | ⟨x, rfl⟩
  · exact ⟨⟨trivial, hn⟩, not_false⟩
  · exact ⟨⟨trivial, trivial⟩, not_false⟩

section Reading

variable {embedded : String → Option Json}

theorem key_of_readMember? {room : Nat} {e : List StringPart × Raw} {pair : String × Json}
    (h : readMember? embedded room e = some pair) :
    stringOf? e.1 = some pair.1 ∧ e.2.toJson? embedded room = some pair.2 := by
  obtain ⟨key, hkey, h⟩ := Option.bind_eq_some_iff.1 h
  obtain ⟨value, hvalue, rfl⟩ := Option.map_eq_some_iff.1 h
  exact ⟨hkey, hvalue⟩

/-- What an object holds that is read member by member is never the key of a written value alone,
since its first key is another and stays. -/
theorem not_isEmbedding_of_embedding?_eq_none {room : Nat}
    {members : List (List StringPart × Raw)} {pairs : List (String × Json)}
    (hplain : embedding? members = none)
    (h : members.mapM (readMember? embedded room) = some pairs) :
    ¬ (object (KeyMap.ofList pairs).entries).IsEmbedding := by
  cases mapM_eq_some_iff.1 h with
  | nil => exact not_false
  | @cons e pair members pairs hfirst hrest =>
      obtain ⟨hkey, -⟩ := key_of_readMember? hfirst
      have hne : pair.1 ≠ embeddingKey := by
        intro heq
        rw [embedding?, hkey, heq, if_pos rfl] at hplain
        cases hplain
      have hstays : (KeyMap.ofList (pair :: pairs)).contains pair.1 = true :=
        KeyMap.contains_ofList_of_mem List.mem_cons_self
      obtain ⟨value, hvalue⟩ := (KeyMap.contains_iff _ _).1 hstays
      have hmem := KeyMap.mem_of_get? hvalue
      intro halone
      match hentries : (KeyMap.ofList (pair :: pairs)).entries, halone with
      | [(key, _)], halone =>
          rw [hentries] at hmem
          obtain rfl := congrArg Prod.fst (List.mem_singleton.1 hmem)
          exact hne halone

theorem isRead_of_toJson? (hembedded : ∀ text v, embedded text = some v → v.IsRead) {raw : Raw}
    {room : Nat} {value : Json} (h : raw.toJson? embedded room = some value) : value.IsRead := by
  induction raw using Raw.induction generalizing room value with
  | null => obtain rfl := Option.some.inj h; exact ⟨⟨trivial, trivial⟩, not_false⟩
  | bool b => obtain rfl := Option.some.inj h; exact ⟨⟨trivial, trivial⟩, not_false⟩
  | number text => exact isRead_of_number h
  | string parts =>
      obtain ⟨s, -, rfl⟩ := Option.map_eq_some_iff.1 h
      exact ⟨⟨trivial, trivial⟩, not_false⟩
  | array items ih =>
      obtain ⟨inner, values, -, rfl, hvalues⟩ := toJson?_array_eq_some_iff.1 h
      refine isRead_array fun v hv => ?_
      obtain ⟨item, hitem, hread⟩ := exists_of_mem_mapM hvalues hv
      exact ih item hitem hread
  | object members ih =>
      obtain ⟨inner, -, ⟨-, -, text, -, -, -, hvalue⟩ | ⟨hplain, pairs, rfl, hpairs⟩⟩ :=
        object_of_toJson? h
      · exact hembedded text value hvalue
      · refine isRead_object (KeyMap.ofList pairs).ascending
          (not_isEmbedding_of_embedding?_eq_none hplain hpairs) fun e he => ?_
        have hmem := KeyMap.mem_of_get?_ofList (KeyMap.get?_of_mem he)
        obtain ⟨member, hmember, hread⟩ := exists_of_mem_mapM hpairs hmem
        exact ih member hmember (key_of_readMember? hread).2

end Reading

theorem isRead_of_readLayers? (layers : Nat) {text : String} {value : Json}
    (h : readLayers? layers text = some value) : value.IsRead := by
  induction layers generalizing text value with
  | zero => cases h
  | succ layers ih =>
      obtain ⟨raw, -, hvalue⟩ := Option.bind_eq_some_iff.1 h
      exact isRead_of_toJson? (fun _ _ => ih) hvalue

theorem isRead_of_value? {room : Nat} {raw : Raw} {value : Json}
    (h : raw.value? room = some value) : value.IsRead :=
  isRead_of_toJson? (fun text _ => isRead_of_readLayers? (text.length + 1)) h

/-! ### Texts without the key of a written value -/

/-- No object in the shape has the key of a written value. -/
def Raw.IsUnreserved (raw : Raw) : Prop :=
  ∀ members, (Raw.object members).Part raw → ∀ e ∈ members, stringOf? e.1 ≠ some embeddingKey

theorem Raw.IsUnreserved.part {raw part : Raw} (h : raw.IsUnreserved) (hpart : part.Part raw) :
    part.IsUnreserved :=
  fun members hmembers => h members (hmembers.trans hpart)

theorem not_startsEmbedding {members : List (String × Json)}
    (h : ∀ e ∈ members, e.1 ≠ embeddingKey) : ¬ (object members).StartsEmbedding := by
  cases members with
  | nil => exact not_false
  | cons e rest => exact h e List.mem_cons_self

theorem isUnmarked_of_toJson? {embedded : String → Option Json} {raw : Raw}
    (hraw : raw.IsUnreserved) {room : Nat} {value : Json}
    (h : raw.toJson? embedded room = some value) : value.IsUnmarked ∧ value.depth ≤ room := by
  induction raw using Raw.induction generalizing room value with
  | null => obtain rfl := Option.some.inj h; exact ⟨not_false, Nat.zero_le _⟩
  | bool b => obtain rfl := Option.some.inj h; exact ⟨not_false, Nat.zero_le _⟩
  | number text =>
      rcases number_of_value? h with ⟨n, rfl, -⟩ | ⟨x, rfl⟩
      · exact ⟨not_false, Nat.zero_le _⟩
      · exact ⟨not_false, Nat.zero_le _⟩
  | string parts =>
      obtain ⟨s, -, rfl⟩ := Option.map_eq_some_iff.1 h
      exact ⟨not_false, Nat.zero_le _⟩
  | array items ih =>
      obtain ⟨inner, values, rfl, rfl, hvalues⟩ := toJson?_array_eq_some_iff.1 h
      have hitems : ∀ v ∈ values, v.IsUnmarked ∧ v.depth ≤ inner := fun v hv => by
        obtain ⟨item, hitem, hread⟩ := exists_of_mem_mapM hvalues hv
        exact ih item hitem (hraw.part (.item hitem (.self _))) hread
      exact ⟨everywhere_array_iff.2 ⟨not_false, fun v hv => (hitems v hv).1⟩,
        depth_array_le_iff.2 fun v hv => (hitems v hv).2⟩
  | object members ih =>
      have hkeys := hraw members (.self _)
      obtain ⟨inner, rfl, ⟨key, parts, -, rfl, hkey, -⟩ | ⟨-, pairs, rfl, hpairs⟩⟩ :=
        object_of_toJson? h
      · exact absurd hkey (hkeys _ List.mem_cons_self)
      · have hmembers : ∀ e ∈ (KeyMap.ofList pairs).entries,
            e.1 ≠ embeddingKey ∧ e.2.IsUnmarked ∧ e.2.depth ≤ inner := fun e he => by
          have hmem := KeyMap.mem_of_get?_ofList (KeyMap.get?_of_mem he)
          obtain ⟨member, hmember, hread⟩ := exists_of_mem_mapM hpairs hmem
          obtain ⟨hkey, hvalue⟩ := key_of_readMember? hread
          exact ⟨fun heq => hkeys member hmember (hkey.trans (congrArg some heq)),
            ih member hmember (hraw.part (.member hmember (.self _))) hvalue⟩
        exact ⟨everywhere_object_iff.2 ⟨not_startsEmbedding fun e he => (hmembers e he).1,
            fun e he => (hmembers e he).2.1⟩,
          depth_object_le_iff.2 fun e he => (hmembers e he).2.2⟩

/-! ### Reading the shape that a value is written in -/

theorem itemShapes_eq_map (items : List Json) : itemShapes items = items.map shape := by
  induction items with
  | nil => rfl
  | cons item rest ih => rw [itemShapes, ih, List.map_cons]

theorem memberShapes_eq_map (members : List (String × Json)) :
    memberShapes members = members.map fun e => (partsOf e.1, shape e.2) := by
  induction members with
  | nil => rfl
  | cons e rest ih => rw [memberShapes, ih, List.map_cons]

theorem embedding?_memberShapes (key : String) (value : Json) (rest : List (String × Json)) :
    embedding? (memberShapes ((key, value) :: rest)) =
      if key = embeddingKey then some (shape value) else none := by
  simp only [memberShapes, embedding?, stringOf?_partsOf, Option.some.injEq]

theorem embedding?_memberShapes_eq_none_iff {members : List (String × Json)} :
    embedding? (memberShapes members) = none ↔ ¬ (object members).StartsEmbedding := by
  cases members with
  | nil => exact iff_of_true rfl not_false
  | cons e rest =>
      have hfirst := embedding?_memberShapes e.1 e.2 rest
      constructor
      · intro h heq
        rw [if_pos (show e.1 = embeddingKey from heq), h] at hfirst
        cases hfirst
      · intro h
        exact hfirst.trans (if_neg h)

section Shapes

variable {embedded : String → Option Json}

theorem readMember?_shape (room : Nat) (e : String × Json) :
    readMember? embedded room (partsOf e.1, shape e.2) =
      ((shape e.2).toJson? embedded room).map fun value => (e.1, value) := by
  rw [readMember?, stringOf?_partsOf, Option.bind_some]

/-- A value that is not nested too deep and in which nothing starts like a written value is read
from its shape. -/
theorem toJson?_shape {value : Json} (hfree : value.IsFloatFree) (hproper : value.IsProper)
    (hunmarked : value.IsUnmarked) {room : Nat} (hdepth : value.depth ≤ room) :
    (shape value).toJson? embedded room = some value := by
  induction value using Json.induction generalizing room with
  | null => rfl
  | bool b => rfl
  | integer n => exact value?_integerText hproper.integers
  | float x => exact hfree.elim
  | string s => rw [shape, Raw.toJson?, stringOf?_partsOf]; rfl
  | array items ih =>
      obtain ⟨hproper, hunmarked⟩ :=
        And.intro (isProper_array_iff.1 hproper) (everywhere_array_iff.1 hunmarked).2
      have hfree := isFloatFree_array_iff.1 hfree
      obtain ⟨inner, rfl⟩ : ∃ inner, room = inner + 1 := ⟨room - 1, by rw [depth] at hdepth; omega⟩
      have hdepth := depth_array_le_iff.1 hdepth
      refine toJson?_array_eq_some_iff.2 ⟨inner, items, rfl, rfl, mapM_eq_some_iff.2 ?_⟩
      rw [itemShapes_eq_map, List.forall₂_map_left_iff, List.forall₂_same]
      exact fun item hitem => ih item hitem (hfree item hitem) (hproper item hitem)
        (hunmarked item hitem) (hdepth item hitem)
  | object members ih =>
      obtain ⟨hascending, hproper⟩ := isProper_object_iff.1 hproper
      obtain ⟨hplain, hunmarked⟩ := everywhere_object_iff.1 hunmarked
      have hfree := isFloatFree_object_iff.1 hfree
      obtain ⟨inner, rfl⟩ : ∃ inner, room = inner + 1 := ⟨room - 1, by rw [depth] at hdepth; omega⟩
      have hdepth := depth_object_le_iff.1 hdepth
      have hmembers : (memberShapes members).mapM (readMember? embedded inner) = some members := by
        refine mapM_eq_some_iff.2 ?_
        rw [memberShapes_eq_map, List.forall₂_map_left_iff, List.forall₂_same]
        intro e he
        rw [readMember?_shape,
          ih e he (hfree e he) (hproper e he) (hunmarked e he) (hdepth e he)]
        rfl
      rw [shape, toJson?_object (embedding?_memberShapes_eq_none_iff.2 hplain) hmembers,
        KeyMap.entries_ofList_of_ascending hascending]

/-- Members with ascending keys are read from their shapes one for one. -/
theorem forall₂_of_readMembers_shape {room : Nat} {members pairs : List (String × Json)}
    (hascending : Ascending members)
    (h : (memberShapes members).mapM (readMember? embedded room) = some pairs) :
    (KeyMap.ofList pairs).entries = pairs ∧
      List.Forall₂ (fun e pair => pair.1 = e.1 ∧ (shape e.2).toJson? embedded room = some pair.2)
        members pairs := by
  rw [memberShapes_eq_map, mapM_eq_some_iff, List.forall₂_map_left_iff] at h
  simp only [readMember?_shape] at h
  have hkeys := map_fst_of_forall₂ (f := fun value => (shape value).toJson? embedded room) h
  refine ⟨KeyMap.entries_ofList_of_ascending (ascending_of_map_fst_eq hascending hkeys),
    h.imp fun e pair hpair => ?_⟩
  obtain ⟨value, hvalue, rfl⟩ := Option.map_eq_some_iff.1 hpair
  exact ⟨rfl, hvalue⟩

/-- An object whose shape is read as a written value looks like one. -/
theorem isEmbedding_of_memberShapes_eq {members : List (String × Json)} {key : List StringPart}
    {item : Raw} (h : memberShapes members = [(key, item)])
    (hkey : stringOf? key = some embeddingKey) : (object members).IsEmbedding := by
  match members, h with
  | [(name, value)], h =>
      obtain ⟨hname, -⟩ := Prod.mk.inj (List.cons.inj h).1
      rw [← hname, stringOf?_partsOf] at hkey
      exact Option.some.inj hkey
  | _ :: _ :: _, h => cases (List.cons.inj h).2

/-- What is read from the shape of a value is the value itself, unless the value holds something
that looks like a written value; and it is read only if nothing in it starts like a written value
and it is not nested too deep. -/
theorem eq_of_toJson?_shape (hembedded : ∀ text v, embedded text = some v → ¬ v.IsEmbedding)
    {value read : Json} (hfree : value.IsFloatFree) (hproper : value.IsProper) {room : Nat}
    (h : (shape value).toJson? embedded room = some read)
    (hsame : read = value ∨ value.IsUnembedded) :
    read = value ∧ value.IsUnmarked ∧ value.depth ≤ room := by
  induction value using Json.induction generalizing room read with
  | null => exact ⟨(Option.some.inj h).symm, not_false, Nat.zero_le _⟩
  | bool b => exact ⟨(Option.some.inj h).symm, not_false, Nat.zero_le _⟩
  | integer n =>
      exact ⟨Option.some.inj (h.symm.trans (value?_integerText hproper.integers)), not_false,
        Nat.zero_le _⟩
  | float x => exact hfree.elim
  | string s =>
      rw [shape, Raw.toJson?, stringOf?_partsOf] at h
      exact ⟨(Option.some.inj h).symm, not_false, Nat.zero_le _⟩
  | array items ih =>
      have hproper := isProper_array_iff.1 hproper
      have hfree := isFloatFree_array_iff.1 hfree
      obtain ⟨inner, values, rfl, rfl, hvalues⟩ := toJson?_array_eq_some_iff.1 h
      rw [itemShapes_eq_map, mapM_eq_some_iff, List.forall₂_map_left_iff] at hvalues
      have hitems : values = items := by
        rcases hsame with hsame | hsame
        · exact Json.array.inj hsame
        · exact eq_of_forall₂ hvalues fun item hitem v hv =>
            (ih item hitem (hfree item hitem) (hproper item hitem) hv
              (.inr ((everywhere_array_iff.1 hsame).2 item hitem))).1
      subst hitems
      have hparts : ∀ item ∈ values, item.IsUnmarked ∧ item.depth ≤ inner := fun item hitem =>
        (ih item hitem (hfree item hitem) (hproper item hitem)
          (List.forall₂_same.1 hvalues item hitem) (.inl rfl)).2
      exact ⟨rfl, everywhere_array_iff.2 ⟨not_false, fun item hitem => (hparts item hitem).1⟩,
        depth_array_le_iff.2 fun item hitem => (hparts item hitem).2⟩
  | object members ih =>
      obtain ⟨hascending, hproper⟩ := isProper_object_iff.1 hproper
      have hfree := isFloatFree_object_iff.1 hfree
      obtain ⟨inner, rfl,
          ⟨key, parts, text, hshape, hkey, -, htext⟩ | ⟨hplain, pairs, rfl, hpairs⟩⟩ :=
        object_of_toJson? h
      · have hlooks := isEmbedding_of_memberShapes_eq hshape hkey
        rcases hsame with rfl | hsame
        · exact absurd hlooks (hembedded text _ htext)
        · exact absurd hlooks (everywhere_object_iff.1 hsame).1
      obtain ⟨hentries, hforall⟩ := forall₂_of_readMembers_shape hascending hpairs
      rw [hentries] at hsame ⊢
      have hmembers : pairs = members := by
        rcases hsame with hsame | hsame
        · exact Json.object.inj hsame
        · refine eq_of_forall₂ hforall fun e he pair ⟨hname, hvalue⟩ => Prod.ext hname ?_
          exact (ih e he (hfree e he) (hproper e he) hvalue
            (.inr ((everywhere_object_iff.1 hsame).2 e he))).1
      subst hmembers
      have hparts : ∀ e ∈ pairs, e.2.IsUnmarked ∧ e.2.depth ≤ inner := fun e he =>
        (ih e he (hfree e he) (hproper e he) (List.forall₂_same.1 hforall e he).2 (.inl rfl)).2
      exact ⟨rfl, everywhere_object_iff.2 ⟨embedding?_memberShapes_eq_none_iff.1 hplain,
          fun e he => (hparts e he).1⟩,
        depth_object_le_iff.2 fun e he => (hparts e he).2⟩

end Shapes

theorem not_isEmbedding_of_read? {text : String} {value : Json} (h : read? text = some value) :
    ¬ value.IsEmbedding :=
  (isRead_of_readLayers? _ h).unembedded.self

/-- A value is read from its shape just when nothing in it starts like a written value and it is not
nested too deep. -/
theorem value?_shape_eq_some_iff {value : Json} (hfree : value.IsFloatFree)
    (hproper : value.IsProper) {room : Nat} :
    (shape value).value? room = some value ↔ value.IsUnmarked ∧ value.depth ≤ room :=
  ⟨fun h => (eq_of_toJson?_shape (fun _ _ => not_isEmbedding_of_read?) hfree hproper h
      (.inl rfl)).2,
    fun h => toJson?_shape hfree hproper h.1 h.2⟩

/-- A value that was read from a text is read from its shape as itself or not at all. -/
theorem eq_of_value?_shape {value read : Json} (hfree : value.IsFloatFree) (hread : value.IsRead)
    {room : Nat} (h : (shape value).value? room = some read) : read = value :=
  (eq_of_toJson?_shape (fun _ _ => not_isEmbedding_of_read?) hfree hread.toIsProper h
    (.inr hread.unembedded)).1

end CommandBot.Json
