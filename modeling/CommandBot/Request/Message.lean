import CommandBot.Author
import CommandBot.Number.Decimal
import CommandBot.Number.Integer
import CommandBot.Request.Beatmap
import CommandBot.Template.Token
import CommandBot.Time

/-!
# The message of a request

The message is put together from a format in which placeholders stand for properties of the
beatmap, the modifiers and the requester. A placeholder that stands for none of them stays as it
is, and what is put in is never looked at again.
-/

namespace CommandBot.Request

/-- The standing of a beatmap with the service. -/
def approvalText (approved : String) : String :=
  match Number.readSigned? 32 approved with
  | some (-2) => "Graveyard"
  | some (-1) => "WIP"
  | some 0 => "Pending"
  | some 1 => "Ranked"
  | some 2 => "Approved"
  | some 3 => "Qualified"
  | some 4 => "Loved"
  | _ => "Unknown"

/-- The game mode of a beatmap. -/
def modeText (mode : String) : String :=
  if mode = "0" then "Standard"
  else if mode = "1" then "Taiko"
  else if mode = "2" then "CTB"
  else if mode = "3" then "Mania"
  else "Unknown"

/-- A text without the copies of `c` at its end. -/
def dropTrailing (c : Char) (text : List Char) : List Char :=
  (text.reverse.dropWhile (· == c)).reverse

/-- A number with two places, without the zeros at its end and without a point that is left
over. -/
def trimPlaces (text : List Char) : List Char := dropTrailing '.' (dropTrailing '0' text)

/-- A number with at most two places; what cannot be read counts as zero. -/
def shortNumber (text : String) : String :=
  String.ofList (trimPlaces ((Binary64.read? text).getD .zero).fixedTwo.toList)

/-- A number of seconds as minutes and seconds; what cannot be read counts as zero. -/
def lengthOf (text : String) : String :=
  Duration.lengthText ((Number.readUnsigned? 64 text).getD 0)

/-- What a placeholder stands for. -/
def fieldValue? (key : String) (map : Beatmap) (mods : String) (author : Author) : Option String :=
  if key = "map" then
    some ("[https://osu.ppy.sh/b/" ++ map.id ++ " " ++ map.artist ++ " - " ++ map.title ++ " ["
      ++ map.version ++ "]]")
  else if key = "mapid" then some map.id
  else if key = "mapsetid" then some map.setId
  else if key = "mapstatus" then some (approvalText map.approved)
  else if key = "creator" then
    some ("[https://osu.ppy.sh/users/" ++ map.creatorId ++ " " ++ map.creator ++ "]")
  else if key = "creatorid" then some map.creatorId
  else if key = "creatorname" then some map.creator
  else if key = "length" then some (lengthOf map.totalLength)
  else if key = "bpm" then some (shortNumber map.bpm)
  else if key = "stars" then some (shortNumber map.rating)
  else if key = "cs" then some map.circleSize
  else if key = "od" then some map.overallDifficulty
  else if key = "ar" then some map.approachRate
  else if key = "hp" then some map.drainRate
  else if key = "gamemode" then some (modeText map.mode)
  else if key = "song" then some (map.artist ++ " - " ++ map.title)
  else if key = "songartist" then some map.artist
  else if key = "songartistunicode" then some (map.artistUnicode.getD map.artist)
  else if key = "songtitle" then some map.title
  else if key = "songtitleunicode" then some (map.titleUnicode.getD map.title)
  else if key = "songsource" then some map.source
  else if key = "requester" then some author.name
  else if key = "requesterstatus" then some author.status
  else if key = "mods" then some mods
  else none

/-- What is written for one piece of the format. -/
def pieceText (map : Beatmap) (mods : String) (author : Author) (piece : Template.Piece) :
    List Char :=
  match piece with
  | .char c => [c]
  | .token word =>
      match fieldValue? (Template.tokenName word) map mods author with
      | some value => value.toList
      | none => piece.text

def formatMessage (format : String) (map : Beatmap) (mods : String) (author : Author) : String :=
  String.ofList ((Template.Piece.scan format.toList).flatMap (pieceText map mods author))

end CommandBot.Request
