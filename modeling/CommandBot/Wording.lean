import CommandBot.Commands

/-!
# Wording

The texts that the bot says in the chat of its own accord.
-/

namespace CommandBot.Wording

def moduleUnavailable : String := "That feature is currently unavailable."

def moduleFailed : String := "Something went wrong, try again later."

def missingArguments : String := "Not enough arguments."

/-- The reply to a call with too few arguments. -/
def usage (help : String) : String := s!"{missingArguments} {help}"

def noCommandInfo : String := "No command information given."

def commandIncomplete : String := "Command is missing required information."

def negativeCooldown : String := "Command must have a non-negative cooldown."

def invalidName : String := s!"Command name must fit the regular expression {namePattern}."

def commandAdded (name : String) : String := s!"Command {name} added successfully."

def commandRemoved (name : String) : String := s!"Command {name} removed successfully."

def commandMissing (name : String) : String := s!"Command {name} does not exist."

def nameToRemove : String := "Provide the name of the command to remove."

def currentSigil (sigil : String) : String := s!"The current prefix is {sigil}"

def sigilChanged (sigil : String) : String := s!"Prefix changed to {sigil}"

/-- The names of the commands, those for moderators apart. -/
def availableCommands (listing : Listing) : String :=
  let forAll := ", ".intercalate listing.forAll
  let modOnly := ", ".intercalate listing.modOnly
  s!"Available commands are: {forAll} (mod-only: {modOnly})"

/-- The modules that a command mentions. -/
def commandUsesModules (name : String) (modules : List String) : String :=
  let used := ", ".intercalate modules
  s!"Module '{name}' not found, but the matching command uses module(s): {used}"

def commandWithoutModules (name : String) : String :=
  s!"Command {name} does not mention any modules."

def namedModuleUnavailable (name : String) : String := s!"Module {name} is currently unavailable."

def noMatch : String := "No matching command or module."

def noMap : String := "Provide a map to request."

def badLink : String := "Could not resolve beatmap link format."

def noMapInfo : String := "Could not retrieve beatmap information."

def requestSent : String := "Request sent!"

def submodeEnabled : String := "Submode enabled"

def submodeDisabled : String := "Submode disabled"

end CommandBot.Wording
