import CommandBot.Text.Casing

/-!
# Placeholders of a template

A template is a text with placeholders `&name&`. `Piece.scan` cuts it, from left to right, into
placeholders and the single characters between them; put back together the pieces give the
template. `tokens` lists the placeholders with the bytes at which they stand.
-/

namespace CommandBot.Template

/-- A placeholder of a template, or a character outside of them. -/
inductive Piece where
  | char (c : Char)
  | token (word : List Char)
  deriving DecidableEq, Repr

namespace Piece

def text : Piece → List Char
  | .char c => [c]
  | .token word => '&' :: word ++ ['&']

/-- Cuts a text into pieces. After an ampersand that may open a placeholder, `opened` holds the
name characters that have followed it. -/
def scanFrom : (opened : Option (List Char)) → List Char → List Piece
  | none, [] => []
  | some word, [] => .char '&' :: word.map .char
  | none, c :: rest =>
      if c = '&' then scanFrom (some []) rest else .char c :: scanFrom none rest
  | some word, c :: rest =>
      if c = '&' then
        if word = [] then .char '&' :: scanFrom (some []) rest
        else .token word :: scanFrom none rest
      else if Text.isNameChar c then scanFrom (some (word ++ [c])) rest
      else .char '&' :: word.map .char ++ .char c :: scanFrom none rest

/-- Cuts a template into its placeholders and the characters between them. -/
def scan (template : List Char) : List Piece := scanFrom none template

@[simp] theorem scan_nil : scan [] = [] := rfl

/-- The text that an open placeholder stands for so far. -/
def openText : Option (List Char) → List Char
  | none => []
  | some word => '&' :: word

theorem flatMap_text_map_char (word : List Char) : (word.map Piece.char).flatMap text = word := by
  induction word with
  | nil => rfl
  | cons c word ih => simp [text, ih]

theorem flatMap_text_scanFrom (opened : Option (List Char)) (template : List Char) :
    (scanFrom opened template).flatMap text = openText opened ++ template := by
  induction template generalizing opened with
  | nil => cases opened <;> simp [scanFrom, openText, text, flatMap_text_map_char]
  | cons c rest ih =>
      cases opened with
      | none =>
          simp only [scanFrom]
          split
          · rename_i h
            simp [ih, openText, h]
          · simp [ih, openText, text]
      | some word =>
          simp only [scanFrom]
          split
          · rename_i h
            split
            · rename_i hw
              simp [ih, openText, text, h, hw]
            · simp [ih, openText, text, h]
          · split
            · simp [ih, openText]
            · simp [ih, openText, text, flatMap_text_map_char]

/-- The pieces put back together give the template. -/
theorem flatMap_text_scan (template : List Char) :
    (scan template).flatMap text = template :=
  flatMap_text_scanFrom none template

end Piece

/-- A placeholder, with the bytes of the template at which it starts and ends. -/
structure Token where
  /-- The name in lowercase. -/
  name : String
  /-- The placeholder as it stands in the template. -/
  literal : String
  start : Nat
  stop : Nat
  deriving DecidableEq, Repr

/-- The number of bytes of a text. -/
def byteLength (cs : List Char) : Nat := cs.foldr (fun c n => c.utf8Size + n) 0

def tokenName (word : List Char) : String := Text.lower (String.ofList word)

/-- The placeholders among pieces that start at the given byte. -/
def tokensFrom (offset : Nat) : List Piece → List Token
  | [] => []
  | .char c :: rest => tokensFrom (offset + c.utf8Size) rest
  | .token word :: rest =>
      let literal := (Piece.token word).text
      let stop := offset + byteLength literal
      ⟨tokenName word, String.ofList literal, offset, stop⟩ :: tokensFrom stop rest

/-- The placeholders of a template in order. -/
def tokens (template : String) : List Token := tokensFrom 0 (Piece.scan template.toList)

end CommandBot.Template
