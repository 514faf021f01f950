import CommandBot.Text.Class

/-!
# Words of a text

`words` cuts a text at its white space and keeps what lies between; `trim`, `trimStart` and
`trimEnd` remove the white space at the ends.
-/

namespace CommandBot.Text

/-- The text without the white space at its start. -/
def trimStart (cs : List Char) : List Char := cs.dropWhile isBlank

/-- The text without the white space at its end. -/
def trimEnd (cs : List Char) : List Char := (cs.reverse.dropWhile isBlank).reverse

/-- The text without the white space at its ends. -/
def trim (cs : List Char) : List Char := trimEnd (trimStart cs)

/-- The maximal runs of characters that are not white space, in order. -/
def words : List Char → List (List Char)
  | [] => []
  | c :: rest =>
      if isBlank c then words rest
      else
        match rest, words rest with
        | d :: _, w :: ws => if isBlank d then [c] :: w :: ws else (c :: w) :: ws
        | _, ws => [c] :: ws

/-- The rest of the text after `lead`, if it starts with it. -/
def dropLead? : (lead text : List Char) → Option (List Char)
  | [], text => some text
  | _ :: _, [] => none
  | l :: lead, c :: text => if l = c then dropLead? lead text else none

@[simp] theorem words_nil : words [] = [] := rfl

theorem words_cons_of_blank {c : Char} (hc : isBlank c = true) (rest : List Char) :
    words (c :: rest) = words rest := by
  simp [words, hc]

theorem dropLead?_eq_some_iff (lead text rest : List Char) :
    dropLead? lead text = some rest ↔ text = lead ++ rest := by
  induction lead generalizing text with
  | nil => simp [dropLead?]
  | cons l lead ih =>
      cases text with
      | nil => simp [dropLead?]
      | cons c text =>
          by_cases h : l = c
          · simp [dropLead?, h, ih]
          · simp [dropLead?, h, Ne.symm h]

end CommandBot.Text
