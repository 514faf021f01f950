import CommandBot.Network
import CommandBot.Request.Beatmap
import CommandBot.Request.Link
import CommandBot.Text.Form

/-!
# The services behind a request

Users and beatmaps are looked up by web requests that are answered with lists in JSON. A message is
delivered over a connection of five lines, each ended by a carriage return and a line feed.
-/

namespace CommandBot.Request

/-- How the web service is reached. -/
structure Service where
  base : String
  key : String
  deriving DecidableEq, Repr

namespace Service

/-- A text without the slashes at its end. -/
def trimSlashes (text : String) : String :=
  String.ofList (text.toList.reverse.dropWhile (· == '/')).reverse

/-- The address of a look-up. -/
def url (s : Service) (path name value : String) : String :=
  s.base ++ "/" ++ path ++ "?" ++ Text.formPairs [(name, value), ("k", s.key)]

/-- The address of the look-up of a user. -/
def userUrl (s : Service) (id : String) : String := s.url "get_user" "u" id

/-- The address of the look-up of beatmaps. -/
def mapsUrl (s : Service) : MapLink → String
  | .beatmap id => s.url "get_beatmaps" "b" id
  | .set id => s.url "get_beatmaps" "s" id

end Service

/-- Reads the list that answers a look-up. An answer with an error status is a failure, and so is
one that is no list of what is looked up. -/
def readAnswer {α : Type} (read? : Json.Raw → Option α) :
    Except String WebAnswer → Except String (List α)
  | .error words => .error words
  | .ok answer =>
      if 400 ≤ answer.status then .error s!"status {answer.status}"
      else
        match (Json.Raw.ofText? answer.body).bind Json.Raw.items? with
        | some items =>
            match items.mapM read? with
            | some values => .ok values
            | none => .error "unexpected answer"
        | none => .error "unexpected answer"

def userName? (raw : Json.Raw) : Option String := do
  match ← raw.fields? ["username"] with
  | [name] => Json.Raw.required? Json.Raw.string? name
  | _ => none

/-- A name as it is used in the delivery of messages, where blanks are written `_`. -/
def deliveryName (name : String) : String :=
  String.ofList (name.toList.map fun c => if c = ' ' then '_' else c)

/-- Who delivers a message, and to whom. -/
structure Identity where
  password : String
  sender : String
  recipient : String
  deriving DecidableEq, Repr

/-- The end of a line of a delivery. -/
def lineEnd : String := "\r\n"

def deliveryLines (who : Identity) (message : String) : List String :=
  ["PASS " ++ who.password, "NICK " ++ who.sender,
    "USER " ++ who.sender ++ " 0 * :" ++ who.sender,
    "PRIVMSG " ++ who.recipient ++ " :" ++ message, "QUIT"]

def deliveryText (who : Identity) (message : String) : String :=
  String.join ((deliveryLines who message).map (· ++ lineEnd))

end CommandBot.Request
