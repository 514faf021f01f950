import CommandBot.Main
import CommandBot.Module.Canned
import CommandBot.Proofs.Commands
import CommandBot.Proofs.Commands.History
import CommandBot.Proofs.Commands.Entries
import CommandBot.Proofs.Files.Save
import CommandBot.Proofs.Number.Digits
import CommandBot.Proofs.Json.Shape
import CommandBot.Proofs.Json.Written
import CommandBot.Proofs.Json.Fields
import CommandBot.Proofs.Channel.ConfigText
import CommandBot.Proofs.Module.Builtin
import CommandBot.Proofs.Template.Resolve
import CommandBot.Proofs.Text.Words
import CommandBot.Proofs.Dispatch
import CommandBot.Proofs.Module.Loading
import CommandBot.Proofs.Session.Turns
import CommandBot.Proofs.Session.Guarded
import CommandBot.Proofs.Session.LastUse
import CommandBot.Proofs.Session.Sigil
import CommandBot.Proofs.Session.Marks
import CommandBot.Proofs.Session.Sound
import CommandBot.Proofs.Worker.Saves
import CommandBot.Proofs.Session.Restart
import CommandBot.Proofs.Session.Start
import CommandBot.Proofs.Worker.Fold
import CommandBot.Proofs.Request.Delivery
import CommandBot.Proofs.Channel.Reload
import CommandBot.Proofs.Session.Submode
import CommandBot.Proofs.Session.Recased
import CommandBot.Proofs.Request.Spacing
import CommandBot.Proofs.Session.Commute
import CommandBot.Proofs.Session.Roles
import CommandBot.Proofs.Console.Pipeline
import CommandBot.Proofs.Console.Feed
import CommandBot.Proofs.Template.Tokens
import CommandBot.Proofs.Template.Arguments
import CommandBot.Proofs.Session.Written
import CommandBot.Proofs.Session.Admission
import CommandBot.Proofs.CommandAdd.Names
import CommandBot.Proofs.Request.Exits
import CommandBot.Proofs.Commands.Order
import CommandBot.Proofs.Module.Pointwise
import CommandBot.Proofs.Module.Help
import CommandBot.Proofs.Session.Layout
import CommandBot.Proofs.Cooldown
import CommandBot.Proofs.Request.Link
import CommandBot.Proofs.Request.Mods
import CommandBot.Proofs.Request.Format
import CommandBot.Proofs.CommandAdd.Numbers
import CommandBot.Proofs.Request.Hardest
import CommandBot.Proofs.Template.Reached
import CommandBot.Proofs.Module.Named
import CommandBot.Proofs.Session.Usage
import CommandBot.Proofs.Files.Interrupted
import CommandBot.Proofs.Time
import CommandBot.Proofs.Number.Decimal
import CommandBot.Proofs.Request.Places
