import CommandBot.Channel.Config
import CommandBot.Files.Tree

/-!
# The store of a channel

A channel's config is kept in a file. Saving writes a second file beside it, which then takes its
place, so that the file holds either the old or the new config whatever happens. The steps of a
save are a list (`Store.saveSteps`), and a `Disruption` says at which of them the disk gives up.
-/

namespace CommandBot

/-- A step of a save. -/
inductive SaveStep where
  | createDirectory (path : String)
  | write (path : String) (content : ByteArray)
  | replace (source target : String)

/-- How a disk gives up: after so many steps of a save, and in a write after so many bytes. -/
structure Disruption where
  step : Nat
  bytes : Nat
  deriving DecidableEq, Repr

/-- Why a config is not loaded or saved. -/
inductive StoreError where
  | create (path : String)
  | write (path : String)
  | replace (path : String)
  | read (path : String)
  | parse (path : String)
  deriving DecidableEq, Repr

namespace StoreError

def message : StoreError → String
  | create path => s!"Failed to create {path}"
  | write path => s!"Failed to write {path}"
  | replace path => s!"Failed to replace {path}"
  | read path => s!"Failed to read {path}"
  | parse path => s!"Failed to parse {path}"

end StoreError

namespace SaveStep

/-- What it means that the step fails. -/
def error : SaveStep → StoreError
  | createDirectory path => .create path
  | write path _ => .write path
  | replace _ target => .replace target

def perform (t : FileTree) : SaveStep → Except StoreError Unit × FileTree
  | createDirectory path =>
      match t.createDirectories path with
      | (true, t) => (.ok (), t)
      | (false, t) => (.error (.create path), t)
  | write path content =>
      match t.write? path content with
      | some t => (.ok (), t)
      | none => (.error (.write path), t)
  | replace source target =>
      match t.rename? source target with
      | some t => (.ok (), t)
      | none => (.error (.replace target), t)

/-- Gives up in the step: of a write some bytes may have been written, of another step nothing is
done. -/
def breakOff (t : FileTree) (bytes : Nat) : SaveStep → FileTree
  | write path content => (t.write? path (content.extract 0 bytes)).getD t
  | _ => t

/-- Takes steps in order up to the first that fails. -/
def performAll (t : FileTree) (disruption : Option Disruption) :
    List SaveStep → Except StoreError Unit × FileTree
  | [] => (.ok (), t)
  | step :: rest =>
      match disruption with
      | some ⟨0, bytes⟩ => (.error step.error, step.breakOff t bytes)
      | some ⟨n + 1, bytes⟩ =>
          match step.perform t with
          | (.ok (), t) => performAll t (some ⟨n, bytes⟩) rest
          | (.error e, t) => (.error e, t)
      | none =>
          match step.perform t with
          | (.ok (), t) => performAll t none rest
          | (.error e, t) => (.error e, t)

end SaveStep

/-- Where a channel's config is kept. -/
structure Store where
  path : String
  deriving DecidableEq, Repr

namespace Store

/-- Where the config is written before it takes its place. -/
def temporaryPath (s : Store) : String := Path.beside s.path "json.tmp"

def saveSteps (s : Store) (config : Channel.Config) : List SaveStep :=
  (Path.parent? s.path).toList.map .createDirectory ++
    [.write s.temporaryPath config.text.toUTF8, .replace s.temporaryPath s.path]

/-- Saves a config. -/
def save (s : Store) (config : Channel.Config) (disruption : Option Disruption) (t : FileTree) :
    Except StoreError Unit × FileTree :=
  SaveStep.performAll t disruption (s.saveSteps config)

/-- Reads the config that is stored. -/
def readStored (s : Store) (t : FileTree) : Except StoreError Channel.Config :=
  match (t.read? s.path).bind String.fromUTF8? with
  | none => .error (.read s.path)
  | some text =>
      match Channel.Config.read? text with
      | none => .error (.parse s.path)
      | some config => .ok config

/-- Loads the config. If there is none, that of a new channel is saved first. -/
def load (s : Store) (disruption : Option Disruption) (t : FileTree) :
    Except StoreError Channel.Config × FileTree :=
  if t.exists? s.path then (s.readStored t, t)
  else
    match s.save .initial disruption t with
    | (.ok (), t) => (.ok .initial, t)
    | (.error e, t) => (.error e, t)

end Store

end CommandBot
