import CommandBot.Commands
import CommandBot.Json.Printer
import CommandBot.Json.Reader

/-!
# Channel configs

A `Config` is what is stored of a channel: its sigil, its commands, the modules that it asks for
and the options that it sets for them. It is stored as JSON. `Config.text` writes it, and
`Config.read?` reads what has been written by hand as well: fields that may be missing have
defaults, unknown ones do not count, and records may be given as arrays.
-/

namespace CommandBot.Channel

/-- What is stored of a channel. -/
structure Config where
  sigil : String
  commands : KeyMap StoredCommand
  modules : List String
  options : KeyMap Json.Options
  deriving Repr, Inhabited

namespace Config

def initial : Config :=
  { sigil := "r!"
    commands := .ofList [
      ("help", { cooldown := 10, response := "@&caller& > &help&" }),
      ("uptime", { cooldown := 10, response := "@&caller& > &uptime&" }),
      ("cmdadd", { modOnly := true, response := "@&caller& > &cmdadd&" }),
      ("cmddel", { modOnly := true, response := "@&caller& > &cmddel&" }),
      ("prefix", { modOnly := true, response := "@&caller& > &prefix&" })]
    modules := []
    options := .empty }

def commandJson (c : StoredCommand) : Json :=
  .object [("cooldown", .integer c.cooldown), ("requires_mod", .bool c.modOnly),
    ("hidden", .bool c.hidden), ("response", .string c.response)]

/-- The options as they are written; without any, nothing is. -/
def optionsMembers (options : KeyMap Json.Options) : List (String × Json) :=
  if options.entries.isEmpty then []
  else [("module_config", .object (options.map fun o => Json.object o.entries).entries)]

def toJson (c : Config) : Json :=
  .object ([("meta", .object [("prefix", .string c.sigil)]),
    ("commands", .object (c.commands.map commandJson).entries),
    ("modules", .array (c.modules.map .string))] ++ optionsMembers c.options)

def text (c : Config) : String := c.toJson.pretty

/-- Reads the part of a config that holds the sigil. -/
def sigil? (raw : Json.Raw) : Option String := do
  match ← raw.fields? ["prefix"] with
  | [sigil] => Json.Raw.required? Json.Raw.string? sigil
  | _ => none

def cooldown? (raw : Json.Raw) : Option Int := raw.integer?.filter (Number.fitsSigned 64)

def command? (raw : Json.Raw) : Option StoredCommand := do
  match ← raw.fields? ["cooldown", "requires_mod", "hidden", "response"] with
  | [cooldown, modOnly, hidden, response] =>
      some
        { cooldown := ← Json.Raw.optional? 0 cooldown? cooldown
          modOnly := ← Json.Raw.optional? false Json.Raw.bool? modOnly
          hidden := ← Json.Raw.optional? false Json.Raw.bool? hidden
          response := ← Json.Raw.required? Json.Raw.string? response }
  | _ => none

def modules? (raw : Json.Raw) : Option (List String) :=
  raw.items?.bind fun items => items.mapM Json.Raw.string?

/-- The depth that is left for an option: it stands in its module, in all options and in the
config. -/
def optionRoom : Nat := Json.maxDepth - 3

def moduleOptions? (raw : Json.Raw) : Option Json.Options :=
  raw.mapOf? (Json.Raw.value? optionRoom)

/-- Reads a config from its shape. -/
def ofRaw? (raw : Json.Raw) : Option Config := do
  match ← raw.fields? ["meta", "commands", "modules", "module_config"] with
  | [sigil, commands, modules, options] =>
      some
        { sigil := ← Json.Raw.required? sigil? sigil
          commands := ← Json.Raw.optional? .empty (Json.Raw.mapOf? command?) commands
          modules := ← Json.Raw.optional? [] modules? modules
          options := ← Json.Raw.optional? .empty (Json.Raw.mapOf? moduleOptions?) options }
  | _ => none

def read? (text : String) : Option Config := (Json.Raw.ofText? text).bind ofRaw?

end Config

end CommandBot.Channel
