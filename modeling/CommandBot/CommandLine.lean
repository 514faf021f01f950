import CommandBot.Telemetry

/-!
# The command line

The arguments are options in any order. Each may be given once. An option with a value takes it
after an equals sign or as the next argument, which then has to look like a value. The first
argument that asks for help or the version ends the reading, and so does the first that is wrong.
-/

namespace CommandBot

/-- What the command line asks for. -/
structure Options where
  /-- The config of the bot. -/
  config : String := "data/config.yaml"
  /-- Lines come from the terminal, whatever the config says. -/
  console : Bool := false
  /-- The channel that the terminal drives. -/
  channel : Option String := none
  /-- The name of the author of what is typed. -/
  user : String := "console"
  /-- Whether that author is a moderator. -/
  moderator : Bool := false
  deriving DecidableEq, Repr

namespace CommandLine

/-- An option that can be given. -/
inductive Flag where
  | config
  | console
  | channel
  | user
  | moderator
  deriving DecidableEq, Repr

namespace Flag

def ofName? : String → Option Flag
  | "config" => some .config
  | "console" => some .console
  | "channel" => some .channel
  | "as-user" => some .user
  | "moderator" => some .moderator
  | _ => none

def takesValue : Flag → Bool
  | .config | .channel | .user => true
  | .console | .moderator => false

/-- The options with this one set, unless its value is not allowed. A path is not empty. -/
def set? (flag : Flag) (value : String) (options : Options) : Option Options :=
  match flag with
  | .config => if value.isEmpty then none else some { options with config := value }
  | .console => some { options with console := true }
  | .channel => some { options with channel := some value }
  | .user => some { options with user := value }
  | .moderator => some { options with moderator := true }

end Flag

/-- What becomes of a command line. -/
inductive Request where
  | run (options : Options)
  | help
  | version
  | misuse
  deriving DecidableEq, Repr

/-- An argument by its form. -/
inductive Argument where
  /-- A long name, and what stands after an equals sign. -/
  | long (name : String) (value : Option String)
  /-- A letter after a single dash; other letters may follow it. -/
  | short (letter : Char)
  /-- Two dashes alone, after which there are no options any more. -/
  | separator
  | value
  deriving DecidableEq, Repr

/-- Parts a text at its first equals sign. -/
def splitValue (text : List Char) : String × Option String :=
  match text.dropWhile (· != '=') with
  | [] => (String.ofList text, none)
  | _ :: value => (String.ofList (text.takeWhile (· != '=')), some (String.ofList value))

/-- The form of an argument. A single dash alone is a value. -/
def Argument.ofText (text : String) : Argument :=
  match text.toList with
  | ['-', '-'] => .separator
  | '-' :: '-' :: rest => .long (splitValue rest).1 (splitValue rest).2
  | '-' :: letter :: _ => .short letter
  | _ => .value

/-- The options so far, and those that have been given. -/
structure Progress where
  options : Options := {}
  given : List Flag := []
  deriving DecidableEq, Repr

/-- Sets an option that has not been given before. -/
def Progress.give? (p : Progress) (flag : Flag) (value : String) : Option Progress :=
  if flag ∈ p.given then none
  else (flag.set? value p.options).map fun options => ⟨options, flag :: p.given⟩

/-- What an argument, with its value, says. -/
inductive Item where
  | set (flag : Flag) (value : String)
  | help
  | version
  | wrong
  deriving DecidableEq, Repr

/-- What an option says to which a value is attached. -/
def attached (name value : String) : Item :=
  match Flag.ofName? name with
  | some flag => if flag.takesValue then .set flag value else .wrong
  | none => .wrong

/-- What the arguments say, in order. Nothing may follow the separator, as every argument is an
option. -/
def items : List String → List Item
  | [] => []
  | text :: rest =>
      match Argument.ofText text with
      | .long "help" none | .short 'h' => .help :: items rest
      | .long "version" none | .short 'V' => .version :: items rest
      | .long name (some value) => attached name value :: items rest
      | .long name none =>
          match Flag.ofName? name, rest with
          | none, _ => [.wrong]
          | some flag, rest =>
              if flag.takesValue then
                match rest with
                | value :: rest =>
                    if Argument.ofText value = .value then .set flag value :: items rest
                    else [.wrong]
                | [] => [.wrong]
              else .set flag "" :: items rest
      | .separator => if rest.isEmpty then [] else [.wrong]
      | .short _ | .value => [.wrong]

/-- Follows what the arguments say up to the first that ends the reading. -/
def settle (p : Progress) : List Item → Request
  | [] => .run p.options
  | .set flag value :: rest =>
      match p.give? flag value with
      | some p => settle p rest
      | none => .misuse
  | .help :: _ => .help
  | .version :: _ => .version
  | .wrong :: _ => .misuse

def request (arguments : List String) : Request := settle {} (items arguments)

def helpText : String :=
  "Chat command bot\n\n" ++
  "Usage: rasbot [OPTIONS]\n\n" ++
  "Options:\n" ++
  "      --config <CONFIG>    App config file [default: data/config.yaml]\n" ++
  "      --console            Read chat lines from stdin instead of connecting to Matrix\n" ++
  "      --channel <CHANNEL>  Channel driven by the console (defaults to the first configured one)\n" ++
  "      --as-user <AS_USER>  Console author name [default: console]\n" ++
  "      --moderator          Console author is a moderator\n" ++
  "  -h, --help               Print help\n" ++
  "  -V, --version            Print version\n"

def versionText : String := s!"rasbot {version}\n"

end CommandLine

end CommandBot
