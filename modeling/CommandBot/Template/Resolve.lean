import CommandBot.Module.Basic
import CommandBot.Template.Token
import CommandBot.Text.Words

/-!
# Resolving a template

The placeholders of a template are replaced from left to right. A name stands for a value that the
bot knows itself, else for a module, which is called and takes its arguments from the front of
those of the line, and else for nothing: then the placeholder stays as it is and is reported. What
is put in is never looked at again.

A veto of a module calls the whole response off, and a fault ends it. What the modules before have
done stays in either case.
-/

namespace CommandBot

/-- What the lines of a channel are handled in: its state and modules, the moment, and what has
gone out to the network. -/
structure Scene (ι : Type) where
  channel : Channel
  modules : Modules ι
  now : Instant
  exchanges : List Exchange

namespace Template

/-- Who asks, and how long a module may take. -/
structure Request where
  author : Author
  patience : Duration

/-- A call of a module that has taken place. -/
structure Call where
  name : String
  args : List String
  deriving DecidableEq, Repr

/-- What becomes of one placeholder. -/
inductive Expansion where
  | value (text : List Char)
  | unknown (fault : Fault)
  | veto
  | failed (fault : Fault)
  deriving DecidableEq, Repr

/-- One placeholder after its turn: what becomes of it, the arguments that are left, the call if
there was one, and the scene. -/
structure Expanded (ι : Type) where
  expansion : Expansion
  left : List String
  call : Option Call
  scene : Scene ι

/-- The value of a name that the bot knows itself. -/
def builtin? {ι : Type} (name : String) (author : Author) (scene : Scene ι) : Option String :=
  if name = "caller" then some author.name
  else if name = "callerid" then some author.id
  else if name = "channel" then some scene.channel.name
  else if name = "uptime" then some (Duration.uptimeText (scene.now - scene.channel.startedAt))
  else none

/-- How many of the available arguments a module takes. It takes all if the template is nothing
but its placeholder. -/
def takes (arity : Arity) (alone : Bool) (available : Nat) : Nat :=
  match arity.limit with
  | some limit => if alone then available else min limit available
  | none => available

/-- The reason for which a module counts as unavailable that took too long. -/
def timedOut (patience : Duration) : String :=
  s!"timed out after {patience.inSeconds}s"

variable {ι : Type} [Callable ι]

/-- Calls the module that stands under a name with the given arguments. -/
def callModule (network : Network) (request : Request) (name : String) (m : Module ι)
    (args : List String) (scene : Scene ι) : Except Fault Reply × Scene ι :=
  let invocation : Invocation :=
    ⟨args, request.author, scene.now, scene.modules.outline, scene.channel, scene.exchanges⟩
  let ending := (Callable.call network m.body invocation).within request.patience
  let scene : Scene ι :=
    ⟨ending.effects.channel, scene.modules.setBody name m ending.effects.body,
      scene.now + ending.elapsed, ending.effects.exchanges⟩
  (ending.result.getD (.error (.moduleUnavailable m.name (timedOut request.patience))), scene)

/-- Lets a module have its turn. -/
def expandModule (network : Network) (request : Request) (alone : Bool) (name : String)
    (m : Module ι) (args : List String) (scene : Scene ι) : Expanded ι :=
  if args.length < m.arity.required then
    ⟨.failed (.insufficientArguments m.name m.arity.required args.length), args, none, scene⟩
  else
    let count := takes m.arity alone args.length
    let taken := args.take count
    let (result, scene) := callModule network request name m taken scene
    let expansion := match result with
      | .ok (.text text) => .value text.toList
      | .ok .veto => .veto
      | .error fault => .failed fault
    ⟨expansion, args.drop count, some ⟨m.name, taken⟩, scene⟩

/-- Gives one placeholder its turn. -/
def expand (network : Network) (request : Request) (alone : Bool) (word : List Char)
    (args : List String) (scene : Scene ι) : Expanded ι :=
  let name := tokenName word
  match builtin? name request.author scene with
  | some value => ⟨.value value.toList, args, none, scene⟩
  | none =>
      match scene.modules.lookup name with
      | .ok m => expandModule network request alone name m args scene
      | .error (.moduleNotFound _) => ⟨.unknown (.unknownPlaceholder name), args, none, scene⟩
      | .error fault => ⟨.failed fault, args, none, scene⟩

/-- A response, or nothing if a module called it off. -/
inductive Rendered where
  | text (chars : List Char)
  | suppressed
  deriving DecidableEq, Repr

/-- A response and the placeholders in it that stand for nothing. -/
structure Resolution where
  rendered : Rendered
  unresolved : List Fault
  deriving DecidableEq, Repr

def Rendered.prepend (chars : List Char) : Rendered → Rendered
  | .text rest => .text (chars ++ rest)
  | .suppressed => .suppressed

/-- A template after its turn: the response or the fault that ended it, the arguments that are
left, the calls in order, and the scene. -/
structure Resolved (ι : Type) where
  result : Except Fault Resolution
  left : List String
  calls : List Call
  scene : Scene ι

/-- Puts what comes of one piece before the rest. -/
def Resolved.prepend (chars : List Char) (faults : List Fault) (calls : List Call)
    (r : Resolved ι) : Resolved ι :=
  { r with
    result := r.result.map fun res => ⟨res.rendered.prepend chars, faults ++ res.unresolved⟩
    calls := calls ++ r.calls }

/-- Resolves pieces in order. -/
def resolvePieces (network : Network) (request : Request) (alone : Bool) :
    List Piece → (args : List String) → Scene ι → Resolved ι
  | [], args, scene => ⟨.ok ⟨.text [], []⟩, args, [], scene⟩
  | .char c :: rest, args, scene =>
      (resolvePieces network request alone rest args scene).prepend [c] [] []
  | .token word :: rest, args, scene =>
      let e := expand network request alone word args scene
      match e.expansion with
      | .value text =>
          (resolvePieces network request alone rest e.left e.scene).prepend text [] e.call.toList
      | .unknown fault =>
          (resolvePieces network request alone rest e.left e.scene).prepend
            (Piece.token word).text [fault] e.call.toList
      | .veto => ⟨.ok ⟨.suppressed, []⟩, e.left, e.call.toList, e.scene⟩
      | .failed fault => ⟨.error fault, e.left, e.call.toList, e.scene⟩

/-- Whether a template is nothing but one placeholder, white space at its ends aside. -/
def isAlone (template : List Char) : Bool :=
  match Piece.scan (Text.trim template) with
  | [.token _] => true
  | _ => false

/-- Resolves a template with the arguments of a line. -/
def resolve (network : Network) (request : Request) (template : String) (args : List String)
    (scene : Scene ι) : Resolved ι :=
  resolvePieces network request (isAlone template.toList) (Piece.scan template.toList) args scene

end Template

end CommandBot
