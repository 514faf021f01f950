import CommandBot.Text.CaseRuns
import CommandBot.Text.Class

/-!
# Lowercase and uppercase

`lower` and `upperChar` are the full case mappings of Unicode. One character may become several
(`İ` becomes `i` and a dot above, `ß` becomes `SS`), and the capital sigma is the one letter whose
lowercase depends on its place: at the end of a word it is `ς`, elsewhere `σ`. The uppercase of a
character does not depend on its place.
-/

namespace CommandBot.Text

/-- The image of `c` under the first run that covers it, or `c` itself. -/
def shiftCase (runs : List CaseRun) (c : Char) : Char :=
  match runs.find? (·.covers c.toNat) with
  | some run => Char.ofNat (run.send c.toNat)
  | none => c

/-- The lowercase of one character, its neighbours aside. -/
def lowerChar (c : Char) : List Char :=
  if c.toNat = 0x130 then ['i', Char.ofNat 0x307] else [shiftCase lowerRuns c]

def upperChar (c : Char) : List Char :=
  match upperExpansions.lookup c.toNat with
  | some codes => codes.map Char.ofNat
  | none => [shiftCase upperRuns c]

/-- Whether the next character that counts for casing is a cased letter. -/
def startsCased (cs : List Char) : Bool :=
  match cs.dropWhile isCaseIgnorable with
  | c :: _ => isCased c
  | [] => false

/-- A sigma ends its word when a cased letter stands before it and none after it. The text before
it is given in reverse. -/
def endsWord (before after : List Char) : Bool := startsCased before && !startsCased after

/-- The lowercase of a text that follows `before`, which is given in reverse. -/
def lowerFrom (before : List Char) : List Char → List Char
  | [] => []
  | c :: rest =>
      (if c = 'Σ' then [if endsWord before rest then 'ς' else 'σ'] else lowerChar c)
        ++ lowerFrom (c :: before) rest

def lower (s : String) : String := String.ofList (lowerFrom [] s.toList)

@[simp] theorem lowerFrom_nil (before : List Char) : lowerFrom before [] = [] := rfl

theorem lowerFrom_cons (before : List Char) (c : Char) (rest : List Char) :
    lowerFrom before (c :: rest) =
      (if c = 'Σ' then [if endsWord before rest then 'ς' else 'σ'] else lowerChar c)
        ++ lowerFrom (c :: before) rest := rfl

@[simp] theorem toList_lower (s : String) : (lower s).toList = lowerFrom [] s.toList := by
  simp [lower]

@[simp] theorem lower_empty : lower "" = "" := by
  simp [lower]

end CommandBot.Text
