import CommandBot.Text.Words

/-!
# Beatmap links

A link names either one beatmap or a set of them by the digits at its end. The digits may be those
of any decimal system.
-/

namespace CommandBot.Request

/-- What a link points to. -/
inductive MapLink where
  | beatmap (id : String)
  | set (id : String)
  deriving DecidableEq, Repr

/-- The start of links to sets, and of those to beatmaps within a set. -/
def setsAddress : String := "https://osu.ppy.sh/beatmapsets/"

/-- The short start of links to beatmaps. -/
def shortAddress : String := "https://osu.ppy.sh/b/"

/-- The long start of links to beatmaps. -/
def longAddress : String := "https://osu.ppy.sh/beatmaps/"

/-- One or more digits as an id. -/
def id? (text : List Char) : Option String :=
  if !text.isEmpty && text.all Text.isDigit then some (String.ofList text) else none

/-- A character that may stand between the address of the sets and the id of a beatmap. -/
def isSetChar (c : Char) : Bool := Text.isWordChar c || c == '#'

/-- What a link says after the address of the sets. -/
def afterSets? (text : List Char) : Option MapLink :=
  let middle := text.takeWhile (· != '/')
  match text.dropWhile (· != '/') with
  | [] => (id? text).map .set
  | _ :: last =>
      if !middle.isEmpty && middle.all isSetChar then (id? last).map .beatmap else none

def parseLink (link : String) : Option MapLink :=
  let after (address : String) := Text.dropLead? address.toList link.toList
  match after setsAddress with
  | some rest => afterSets? rest
  | none =>
      match after shortAddress <|> after longAddress with
      | some rest => (id? rest).map .beatmap
      | none => none

end CommandBot.Request
