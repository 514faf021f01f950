import CommandBot.Files.Path

/-!
# File trees

A `FileTree` holds directories and files by their places. A path is followed name by name from the
working directory or the root; every name on the way has to be that of a directory, and only the
last may be that of a file or of nothing. No name has more than 255 bytes, no path more than 4095,
and no path holds a null.

There are no links, neither symbolic nor hard: a file stands at one place only, and a name leads to
nothing but what stands at it. Where a system of files has links, a tree describes it only as long
as none of them lies on the way of a path that is used.
-/

namespace CommandBot

/-- What may stand at a place. A link, symbolic or hard, may not. -/
inductive FileNode where
  | directory
  | file (content : ByteArray)

/-- A place: the names that lead to it from the root. -/
abbrev Place := List String

/-- Directories and files by their places, each place at most once. The root is always there. There
are no links: a file stands at one place only. -/
structure FileTree where
  nodes : List (Place × FileNode)
  workingDirectory : Place

/-- Why a path leads nowhere. -/
inductive PathError where
  | missing
  | notDirectory
  | occupied
  | tooLong
  | unusable
  deriving DecidableEq, Repr

namespace FileTree

/-- What stands at a place. -/
def node? (t : FileTree) (place : Place) : Option FileNode :=
  if place = [] then some .directory else t.nodes.lookup place

def erase (t : FileTree) (place : Place) : FileTree :=
  { t with nodes := t.nodes.filter fun e => e.1 ≠ place }

/-- Puts something at a place. -/
def put (t : FileTree) (place : Place) (node : FileNode) : FileTree :=
  { t with nodes := (place, node) :: (t.erase place).nodes }

/-- Makes directories of a place and all places on the way to it. -/
def putDirectories (t : FileTree) (before : Place) : Place → FileTree
  | [] => t
  | name :: rest =>
      (t.put (before ++ [name]) .directory).putDirectories (before ++ [name]) rest

/-- The tree that holds nothing but the working directory. -/
def empty (workingDirectory : Place) : FileTree :=
  putDirectories ⟨[], workingDirectory⟩ [] workingDirectory

/-- The most bytes that a name has. -/
def maxNameBytes : Nat := 255

/-- The most bytes that a path has. -/
def maxPathBytes : Nat := 4095

def follow (t : FileTree) (place : Place) : List (List Char) → Except PathError Place
  | [] => .ok place
  | segment :: rest =>
      match t.node? place with
      | none => .error .missing
      | some (.file _) => .error .notDirectory
      | some .directory =>
          if Path.isVoid segment then t.follow place rest
          else if segment = ['.', '.'] then t.follow place.dropLast rest
          else if maxNameBytes < (String.ofList segment).utf8ByteSize then .error .tooLong
          else t.follow (place ++ [String.ofList segment]) rest

/-- The place that a path leads to. The empty path leads nowhere. -/
def locate (t : FileTree) (path : String) : Except PathError Place :=
  if path.toList.any (·.toNat == 0) then .error .unusable
  else if path.isEmpty then .error .missing
  else if maxPathBytes < path.utf8ByteSize then .error .tooLong
  else if Path.isAbsolute path.toList then t.follow [] (Path.segments path.toList)
  else t.follow t.workingDirectory (Path.segments path.toList)

/-- What a path leads to. -/
def at? (t : FileTree) (path : String) : Option FileNode :=
  (t.locate path).toOption.bind t.node?

def exists? (t : FileTree) (path : String) : Bool := (t.at? path).isSome

/-- Whether a path leads to a directory. -/
def isDirectory (t : FileTree) (path : String) : Bool :=
  match t.at? path with
  | some .directory => true
  | _ => false

/-- The content of the file that a path leads to. -/
def read? (t : FileTree) (path : String) : Option ByteArray :=
  match t.at? path with
  | some (.file content) => some content
  | _ => none

/-- Makes a directory. Slashes at the end of its path make no difference, unless there is nothing
else. -/
def makeDirectory (t : FileTree) (path : String) : Except PathError FileTree :=
  let bare := Path.dropSlashes path.toList
  match t.locate (if bare.isEmpty then path else String.ofList bare) with
  | .error e => .error e
  | .ok place =>
      match t.node? place with
      | some _ => .error .occupied
      | none => .ok (t.put place .directory)

/-- Makes a directory and those on the way to it, from the last to the first that is missing and
back. What has been made stays when a later one cannot be made. -/
def makeDirectories (t : FileTree) (path : String) : (fuel : Nat) → Bool × FileTree
  | 0 => (false, t)
  | fuel + 1 =>
      if path.isEmpty then (true, t)
      else
        match t.makeDirectory path with
        | .ok t => (true, t)
        | .error .missing =>
            match Path.parent? path with
            | none => (false, t)
            | some parent =>
                match t.makeDirectories parent fuel with
                | (false, t) => (false, t)
                | (true, t) =>
                    match t.makeDirectory path with
                    | .ok t => (true, t)
                    | .error _ => (t.isDirectory path, t)
        | .error _ => (t.isDirectory path, t)

/-- Makes a directory and those on the way to it. -/
def createDirectories (t : FileTree) (path : String) : Bool × FileTree :=
  t.makeDirectories path (path.length + 1)

/-- Writes a file, over one at the same place. -/
def write? (t : FileTree) (path : String) (content : ByteArray) : Option FileTree :=
  match t.locate path with
  | .error _ => none
  | .ok place =>
      match t.node? place with
      | some .directory => none
      | _ => some (t.put place (.file content))

/-- Moves a file to another place, over a file that is there. -/
def rename? (t : FileTree) (source target : String) : Option FileTree :=
  match t.locate source, t.locate target with
  | .ok old, .ok new =>
      match t.node? old, t.node? new with
      | some (.file _), some .directory => none
      | some (.file content), _ =>
          some ((t.erase old).put new (.file content))
      | _, _ => none
  | _, _ => none

/-- Removes the file that a path leads to, if there is one. -/
def remove (t : FileTree) (path : String) : FileTree :=
  match t.locate path with
  | .ok place =>
      match t.node? place with
      | some (.file _) => t.erase place
      | _ => t
  | .error _ => t

/-- The path of a place from the root, without the slash in front. -/
def pathOf (place : Place) : String := "/".intercalate place

/-- All files, by the paths of their places. -/
def files (t : FileTree) : List (String × ByteArray) :=
  t.nodes.filterMap fun e =>
    match e.2 with
    | .file content => some (pathOf e.1, content)
    | .directory => none

/-- All directories, by the paths of their places. -/
def directories (t : FileTree) : List String :=
  t.nodes.filterMap fun e =>
    match e.2 with
    | .directory => some (pathOf e.1)
    | .file _ => none

theorem node?_put_self {t : FileTree} {place : Place} (h : place ≠ []) (node : FileNode) :
    (t.put place node).node? place = some node := by
  simp [node?, put, h]

theorem lookup_filter_ne {α β : Type} [BEq α] [LawfulBEq α] (entries : List (α × β)) {a b : α}
    [DecidableEq α] (h : b ≠ a) :
    (entries.filter fun e => e.1 ≠ a).lookup b = entries.lookup b := by
  induction entries with
  | nil => rfl
  | cons e rest ih =>
      obtain ⟨c, value⟩ := e
      by_cases hc : c = a
      · have hb : (b == c) = false := by simpa [hc] using h
        rw [List.filter_cons_of_neg (by simpa using hc), ih, List.lookup_cons, hb]
      · rw [List.filter_cons_of_pos (by simpa using hc), List.lookup_cons, List.lookup_cons, ih]

theorem node?_erase_of_ne (t : FileTree) {place other : Place} (h : other ≠ place) :
    (t.erase place).node? other = t.node? other := by
  simp only [node?, erase]
  rw [lookup_filter_ne t.nodes h]

theorem node?_put_of_ne (t : FileTree) {place other : Place} (h : other ≠ place)
    (node : FileNode) : (t.put place node).node? other = t.node? other := by
  have hb : (other == place) = false := by simpa using h
  rw [← node?_erase_of_ne t h]
  simp [node?, put, List.lookup_cons, hb]

end FileTree

end CommandBot
