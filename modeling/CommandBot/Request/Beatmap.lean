import CommandBot.Json.Reader

/-!
# Beatmaps

A beatmap is one difficulty of a song as the service describes it. The service sends every property
as a text, and one that it leaves out is empty.
-/

namespace CommandBot.Request

/-- A beatmap as the service describes it. -/
structure Beatmap where
  id : String
  setId : String
  approved : String
  creator : String
  creatorId : String
  totalLength : String
  bpm : String
  rating : String
  circleSize : String
  overallDifficulty : String
  approachRate : String
  drainRate : String
  mode : String
  artist : String
  artistUnicode : Option String
  title : String
  titleUnicode : Option String
  source : String
  version : String
  deriving DecidableEq, Repr, Inhabited

namespace Beatmap

/-- The names of the properties, in the order of the record. -/
def propertyNames : List String :=
  ["beatmap_id", "beatmapset_id", "approved", "creator", "creator_id", "total_length", "bpm",
    "difficultyrating", "diff_size", "diff_overall", "diff_approach", "diff_drain", "mode",
    "artist", "artist_unicode", "title", "title_unicode", "source", "version"]

/-- A property, empty if it is missing. -/
def property? (field : Option Json.Raw) : Option String :=
  Json.Raw.optional? "" Json.Raw.string? field

/-- A property that may also be null. -/
def nullable? : Option Json.Raw → Option (Option String)
  | none => some none
  | some .null => some none
  | some raw => raw.string?.map some

def ofRaw? (raw : Json.Raw) : Option Beatmap := do
  match ← raw.fields? propertyNames with
  | [id, setId, approved, creator, creatorId, totalLength, bpm, rating, circleSize,
      overallDifficulty, approachRate, drainRate, mode, artist, artistUnicode, title,
      titleUnicode, source, version] =>
      some
        { id := ← property? id
          setId := ← property? setId
          approved := ← property? approved
          creator := ← property? creator
          creatorId := ← property? creatorId
          totalLength := ← property? totalLength
          bpm := ← property? bpm
          rating := ← property? rating
          circleSize := ← property? circleSize
          overallDifficulty := ← property? overallDifficulty
          approachRate := ← property? approachRate
          drainRate := ← property? drainRate
          mode := ← property? mode
          artist := ← property? artist
          artistUnicode := ← nullable? artistUnicode
          title := ← property? title
          titleUnicode := ← nullable? titleUnicode
          source := ← property? source
          version := ← property? version }
  | _ => none

/-- The star rating; one that cannot be read counts as zero. -/
def stars (map : Beatmap) : Binary64 := (Binary64.read? map.rating).getD .zero

end Beatmap

/-- The beatmap with the highest rating, the first of them if there are several. -/
def hardest? (maps : List Beatmap) : Option Beatmap :=
  (maps.mergeSort fun a b => b.stars.rank ≤ a.stars.rank).head?

end CommandBot.Request
