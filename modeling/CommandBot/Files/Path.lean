/-!
# Paths

A path is a text of names with slashes between them. `Path.join` puts one after another,
`Path.parent?` is the directory that a path lies in, and `Path.beside` is a path in the same
directory whose name has another extension.
-/

namespace CommandBot.Path

def segments : List Char → List (List Char)
  | [] => [[]]
  | c :: rest =>
      if c = '/' then [] :: segments rest
      else
        match segments rest with
        | first :: others => (c :: first) :: others
        | [] => [[c]]

theorem segments_ne_nil (path : List Char) : segments path ≠ [] := by
  cases path with
  | nil => simp [segments]
  | cons c rest =>
      simp only [segments]
      split
      · simp
      · split <;> simp

/-- The segments with slashes between them are the path. -/
theorem intercalate_segments (path : List Char) : ['/'].intercalate (segments path) = path := by
  induction path with
  | nil => rfl
  | cons c rest ih =>
      simp only [segments]
      split
      · rename_i h
        cases hs : segments rest with
        | nil => exact absurd hs (segments_ne_nil rest)
        | cons first others =>
            rw [hs] at ih
            simp [List.intercalate, List.intersperse, h, ← ih]
      · cases hs : segments rest with
        | nil => exact absurd hs (segments_ne_nil rest)
        | cons first others =>
            rw [hs] at ih
            cases others with
            | nil => simpa [List.intercalate, List.intersperse] using ih
            | cons next others => simpa [List.intercalate, List.intersperse] using ih

/-- A path without the slashes at its end. -/
def dropSlashes (path : List Char) : List Char := (path.reverse.dropWhile (· == '/')).reverse

/-- Whether the path starts at the root. -/
def isAbsolute (path : List Char) : Bool := path.head? == some '/'

/-- A path after a base; an absolute one stands alone. -/
def join (base path : String) : String :=
  if isAbsolute path.toList then path
  else if base.isEmpty || base.toList.getLast? == some '/' then base ++ path
  else base ++ "/" ++ path

/-- A segment that a path is the same without, unless it is the first. -/
def isVoid (segment : List Char) : Bool := segment.isEmpty || segment == ['.']

/-- The segments in reverse without those that the path is the same without at its end. -/
def dropVoid : List (List Char) → List (List Char)
  | [] => []
  | [first] => [first]
  | last :: before => if isVoid last then dropVoid before else last :: before

/-- The text of segments that are given in reverse. -/
def textOf (reversed : List (List Char)) : List Char :=
  ['/'].intercalate reversed.reverse

/-- The name of what a path leads to, with the segments before it in reverse. -/
def name? (path : List Char) : Option (List Char × List (List Char)) :=
  match dropVoid (segments path).reverse with
  | last :: before =>
      if isVoid last || last == ['.', '.'] then none else some (last, before)
  | [] => none

/-- The part of a name before its last dot, unless the name starts with that dot or has none. -/
def stem (name : List Char) : List Char :=
  match name.reverse.dropWhile (· != '.') with
  | [] => name
  | [_] => name
  | _ :: before => before.reverse

/-- The part of a name after its last dot, if it has an extension. -/
def ownExtension (name : List Char) : List Char :=
  if (stem name).length = name.length then [] else name.drop ((stem name).length + 1)

/-- The path in the same directory whose name has this extension. A path without a name stays as
it is. -/
def withExtension (path : List Char) (extension : String) : List Char :=
  match name? path with
  | none => path
  | some (name, before) => textOf ((stem name ++ '.' :: extension.toList) :: before)

/-- The path in the same directory whose name has this extension instead of its own. As many
characters as its own has are cut off first, and what is left may have no name: `..x` without its
`x` is the directory above. -/
def beside (path extension : String) : String :=
  match name? path.toList with
  | none => path
  | some (name, _) =>
      let bare := path.toList.take (path.length - (ownExtension name).length)
      String.ofList (withExtension bare extension)

/-- Whether segments, given in reverse, are those of the root. -/
def isRoot (reversed : List (List Char)) : Bool := reversed.all (·.isEmpty)

/-- The directory that a path lies in. The root lies in none, and neither does the empty path. -/
def parent? (path : String) : Option String :=
  if path.isEmpty then none
  else
    match dropVoid (segments path.toList).reverse with
    | [] => none
    | [last] => if last.isEmpty then none else some ""
    | _ :: before =>
        let before := dropVoid before
        some (if isRoot before then "/" else String.ofList (textOf before))

end CommandBot.Path
