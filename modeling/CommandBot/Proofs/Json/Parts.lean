import CommandBot.Json.Reader

/-!
# Values and shapes by their parts

What is proved of a value or a shape by induction is proved of an array from its items and of an
object from its members (`Json.induction`, `Raw.induction`). `Json.Everywhere` says that something
holds of a value and of all that lies inside it, and `Raw.Part` what lies inside a shape.
-/

namespace CommandBot.Json

@[elab_as_elim]
theorem induction {p : Json → Prop} (null : p .null) (bool : ∀ b, p (.bool b))
    (integer : ∀ n, p (.integer n)) (float : ∀ x, p (.float x)) (string : ∀ s, p (.string s))
    (array : ∀ items, (∀ item ∈ items, p item) → p (.array items))
    (object : ∀ members, (∀ e ∈ members, p e.2) → p (.object members)) (value : Json) : p value :=
  @Json.rec p (fun items => ∀ item ∈ items, p item) (fun members => ∀ e ∈ members, p e.2)
    (fun e => p e.2) null bool integer float string array object
    (fun _ h => absurd h List.not_mem_nil)
    (fun _ _ hfirst hrest => List.forall_mem_cons.2 ⟨hfirst, hrest⟩)
    (fun _ h => absurd h List.not_mem_nil)
    (fun _ _ hfirst hrest => List.forall_mem_cons.2 ⟨hfirst, hrest⟩)
    (fun _ _ hvalue => hvalue) value

@[elab_as_elim]
theorem Raw.induction {p : Raw → Prop} (null : p .null) (bool : ∀ b, p (.bool b))
    (number : ∀ text, p (.number text)) (string : ∀ parts, p (.string parts))
    (array : ∀ items, (∀ item ∈ items, p item) → p (.array items))
    (object : ∀ members, (∀ e ∈ members, p e.2) → p (.object members)) (raw : Raw) : p raw :=
  @Raw.rec p (fun items => ∀ item ∈ items, p item) (fun members => ∀ e ∈ members, p e.2)
    (fun e => p e.2) null bool number string array object
    (fun _ h => absurd h List.not_mem_nil)
    (fun _ _ hfirst hrest => List.forall_mem_cons.2 ⟨hfirst, hrest⟩)
    (fun _ h => absurd h List.not_mem_nil)
    (fun _ _ hfirst hrest => List.forall_mem_cons.2 ⟨hfirst, hrest⟩)
    (fun _ _ hvalue => hvalue) raw

/-! ### Properties of all parts of a value -/

mutual

/-- The property holds of the value and of every value inside it. -/
def Everywhere (p : Json → Prop) : Json → Prop
  | .array items => p (.array items) ∧ EveryItem p items
  | .object members => p (.object members) ∧ EveryMember p members
  | value => p value

/-- The property holds everywhere in the values of the list. -/
def EveryItem (p : Json → Prop) : List Json → Prop
  | [] => True
  | item :: rest => Everywhere p item ∧ EveryItem p rest

/-- The property holds everywhere in the values of the members. -/
def EveryMember (p : Json → Prop) : List (String × Json) → Prop
  | [] => True
  | (_, value) :: rest => Everywhere p value ∧ EveryMember p rest

end

theorem everyItem_iff {p : Json → Prop} {items : List Json} :
    EveryItem p items ↔ ∀ item ∈ items, item.Everywhere p := by
  induction items with
  | nil => simp [EveryItem]
  | cons item rest ih => rw [EveryItem, ih, List.forall_mem_cons]

theorem everyMember_iff {p : Json → Prop} {members : List (String × Json)} :
    EveryMember p members ↔ ∀ e ∈ members, e.2.Everywhere p := by
  induction members with
  | nil => simp [EveryMember]
  | cons e rest ih => rw [EveryMember, ih, List.forall_mem_cons]

theorem everywhere_array_iff {p : Json → Prop} {items : List Json} :
    (array items).Everywhere p ↔ p (.array items) ∧ ∀ item ∈ items, item.Everywhere p := by
  rw [Everywhere, everyItem_iff]

theorem everywhere_object_iff {p : Json → Prop} {members : List (String × Json)} :
    (object members).Everywhere p ↔
      p (.object members) ∧ ∀ e ∈ members, e.2.Everywhere p := by
  rw [Everywhere, everyMember_iff]

theorem Everywhere.self {p : Json → Prop} {value : Json} (h : value.Everywhere p) : p value := by
  cases value with
  | array items => exact h.1
  | object members => exact h.1
  | _ => exact h

theorem allCanonical_iff {items : List Json} :
    AllCanonical items ↔ ∀ item ∈ items, item.IsCanonical := by
  induction items with
  | nil => simp [AllCanonical]
  | cons item rest ih => rw [AllCanonical, ih, List.forall_mem_cons]

theorem membersCanonical_iff {members : List (String × Json)} :
    MembersCanonical members ↔ ∀ e ∈ members, e.2.IsCanonical := by
  induction members with
  | nil => simp [MembersCanonical]
  | cons e rest ih => rw [MembersCanonical, ih, List.forall_mem_cons]

theorem isCanonical_array_iff {items : List Json} :
    (array items).IsCanonical ↔ ∀ item ∈ items, item.IsCanonical := by
  rw [IsCanonical, allCanonical_iff]

theorem isCanonical_object_iff {members : List (String × Json)} :
    (object members).IsCanonical ↔ Ascending members ∧ ∀ e ∈ members, e.2.IsCanonical := by
  rw [IsCanonical, membersCanonical_iff]

theorem allFloatFree_iff {items : List Json} :
    AllFloatFree items ↔ ∀ item ∈ items, item.IsFloatFree := by
  induction items with
  | nil => simp [AllFloatFree]
  | cons item rest ih => rw [AllFloatFree, ih, List.forall_mem_cons]

theorem membersFloatFree_iff {members : List (String × Json)} :
    MembersFloatFree members ↔ ∀ e ∈ members, e.2.IsFloatFree := by
  induction members with
  | nil => simp [MembersFloatFree]
  | cons e rest ih => rw [MembersFloatFree, ih, List.forall_mem_cons]

theorem isFloatFree_array_iff {items : List Json} :
    (array items).IsFloatFree ↔ ∀ item ∈ items, item.IsFloatFree := by
  rw [IsFloatFree, allFloatFree_iff]

theorem isFloatFree_object_iff {members : List (String × Json)} :
    (object members).IsFloatFree ↔ ∀ e ∈ members, e.2.IsFloatFree := by
  rw [IsFloatFree, membersFloatFree_iff]

theorem depth_array_le_iff {items : List Json} {n : Nat} :
    (array items).depth ≤ n + 1 ↔ ∀ item ∈ items, item.depth ≤ n := by
  rw [depth, Nat.add_le_add_iff_right]
  induction items with
  | nil => simp [itemsDepth]
  | cons item rest ih => rw [itemsDepth, Nat.max_le, ih, List.forall_mem_cons]

theorem depth_object_le_iff {members : List (String × Json)} {n : Nat} :
    (object members).depth ≤ n + 1 ↔ ∀ e ∈ members, e.2.depth ≤ n := by
  rw [depth, Nat.add_le_add_iff_right]
  induction members with
  | nil => simp [membersDepth]
  | cons e rest ih => rw [membersDepth, Nat.max_le, ih, List.forall_mem_cons]

/-! ### Parts of a shape -/

/-- The first shape is the second or lies inside it. -/
inductive Raw.Part : Raw → Raw → Prop
  | self (raw : Raw) : Part raw raw
  | item {part item : Raw} {items : List Raw} (hitem : item ∈ items) (h : Part part item) :
      Part part (.array items)
  | member {part : Raw} {members : List (List StringPart × Raw)}
      {e : List StringPart × Raw} (he : e ∈ members) (h : Part part e.2) :
      Part part (.object members)

theorem Raw.Part.trans {inner part raw : Raw} (h : inner.Part part) (h' : part.Part raw) :
    inner.Part raw := by
  induction h' with
  | self => exact h
  | item hitem _ ih => exact .item hitem ih
  | member he _ ih => exact .member he ih

end CommandBot.Json
