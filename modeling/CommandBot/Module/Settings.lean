import CommandBot.Json.Printer
import CommandBot.Text.Quoted

/-!
# Reading settings

The settings of a module are read from its options. Each setting has a type, and an option of
another type is reported with what it is and what was expected.
-/

namespace CommandBot.Settings

/-- What an option is, for a report. -/
def describe : Json → String
  | .null => "null"
  | .bool true => "boolean " ++ Text.ticked "true"
  | .bool false => "boolean " ++ Text.ticked "false"
  | .integer n => "integer " ++ Text.ticked (toString n)
  | .float x => "floating point " ++ Text.ticked x.text
  | .string s => "string " ++ Text.quoted s
  | .array _ => "sequence"
  | .object _ => "map"

/-- An option of the wrong type. -/
def wrongType (value : Json) (expected : String) : String :=
  "invalid type: " ++ describe value ++ ", expected " ++ expected

/-- An option of the right type that is out of range. -/
def wrongValue (value : Json) (expected : String) : String :=
  "invalid value: " ++ describe value ++ ", expected " ++ expected

def readString : Json → Except String String
  | .string s => .ok s
  | value => .error (wrongType value "a string")

def readBool : Json → Except String Bool
  | .bool b => .ok b
  | value => .error (wrongType value "a boolean")

/-- An integer within a range that has a name. -/
def readInteger (fits : Int → Bool) (expected : String) : Json → Except String Int
  | .integer n => if fits n then .ok n else .error (wrongValue (.integer n) expected)
  | value => .error (wrongType value expected)

/-- A setting under its key. An option that is not there has no type. -/
def setting {α : Type} (options : Json.Options) (key : String) (read : Json → Except String α) :
    Except String α :=
  match options.get? key with
  | some value => read value
  | none => .error ("missing field " ++ Text.ticked key)

end CommandBot.Settings
