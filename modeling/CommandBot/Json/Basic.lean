import CommandBot.KeyMap
import CommandBot.Number.Binary64

/-!
# JSON values

`Json` is the type of option values and of stored configs. An integer is kept apart from a
floating-point number, since the two are written differently. The members of an object are a list;
a value that was read from a text has them in ascending order of the keys, each key once, at every
depth (`Json.IsCanonical`).
-/

namespace CommandBot

/-- A JSON value. -/
inductive Json where
  | null
  | bool (b : Bool)
  | integer (n : Int)
  | float (x : Binary64)
  | string (s : String)
  | array (items : List Json)
  | object (members : List (String × Json))
  deriving Repr, BEq, Inhabited

namespace Json

/-- Options of a module by name. -/
abbrev Options := KeyMap Json

mutual

/-- Every object in the value has ascending keys. -/
def IsCanonical : Json → Prop
  | .array items => AllCanonical items
  | .object members => Ascending members ∧ MembersCanonical members
  | _ => True

/-- Every value of the list is canonical. -/
def AllCanonical : List Json → Prop
  | [] => True
  | item :: rest => IsCanonical item ∧ AllCanonical rest

/-- Every member of the list has a canonical value. -/
def MembersCanonical : List (String × Json) → Prop
  | [] => True
  | (_, value) :: rest => IsCanonical value ∧ MembersCanonical rest

end

mutual

def IsFloatFree : Json → Prop
  | .float _ => False
  | .array items => AllFloatFree items
  | .object members => MembersFloatFree members
  | _ => True

/-- No value of the list holds a floating-point number. -/
def AllFloatFree : List Json → Prop
  | [] => True
  | item :: rest => IsFloatFree item ∧ AllFloatFree rest

/-- No member of the list holds a floating-point number. -/
def MembersFloatFree : List (String × Json) → Prop
  | [] => True
  | (_, value) :: rest => IsFloatFree value ∧ MembersFloatFree rest

end

mutual

/-- How deep arrays and objects are nested in the value. -/
def depth : Json → Nat
  | .array items => itemsDepth items + 1
  | .object members => membersDepth members + 1
  | _ => 0

def itemsDepth : List Json → Nat
  | [] => 0
  | item :: rest => max (depth item) (itemsDepth rest)

def membersDepth : List (String × Json) → Nat
  | [] => 0
  | (_, value) :: rest => max (depth value) (membersDepth rest)

end

/-- The integers that a JSON text keeps as such: those of 64 bits, with or without sign. -/
def integerInRange (n : Int) : Bool := -(Number.twoPow 63 : Int) ≤ n && n < Number.twoPow 64

end Json

end CommandBot
