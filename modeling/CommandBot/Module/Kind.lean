import CommandBot.Module.Basic

/-!
# Kinds of modules

A kind says what a module does, which options it knows with their defaults, and how it is built
from them. A channel loads every core kind of the catalogue and the kinds that its config asks for.
A module that cannot be built is unavailable, and so is a name that no kind has.
-/

namespace CommandBot

/-- A kind of module. Building it may reach out to the network, and says in words why it fails. -/
structure Kind (ι : Type) where
  name : String
  help : String
  arity : Arity
  /-- Core kinds are loaded in every channel. -/
  core : Bool
  defaults : Json.Options
  build : Network → List Exchange → Json.Options → Except String ι × List Exchange

namespace Kind

variable {ι κ : Type}

/-- The options in effect: those that are set, over the defaults. -/
def effective (defaults : Json.Options) (overrides : Option Json.Options) : Json.Options :=
  match overrides with
  | some overrides => defaults.insertAll overrides.entries
  | none => defaults

/-- The same kind with another type of bodies. -/
def map (f : ι → κ) (k : Kind ι) : Kind κ :=
  { k with
    build := fun network before options =>
      let (built, after) := k.build network before options
      (built.map f, after) }

/-- The place that a module of the kind gets, and what has gone out to the network by then. -/
def load (k : Kind ι) (network : Network) (before : List Exchange)
    (overrides : Option Json.Options) : Slot ι × List Exchange :=
  match k.build network before (effective k.defaults overrides) with
  | (.ok body, after) => (.loaded ⟨k.name, k.help, k.arity, body⟩, after)
  | (.error reason, after) => (.unavailable reason, after)

end Kind

/-- The kinds that can be loaded. -/
abbrev Catalogue (ι : Type) := List (Kind ι)

namespace Catalogue

variable {ι : Type}

/-- The reason for which a name is unavailable that no kind has. -/
def noSuchKind : String := "no such module type"

/-- Modules that have been loaded, and what has gone out to the network. -/
structure Loading (ι : Type) where
  modules : Modules ι
  exchanges : List Exchange

def loadKind (network : Network) (options : KeyMap Json.Options) (l : Loading ι) (k : Kind ι) :
    Loading ι :=
  let (slot, after) := k.load network l.exchanges (options.get? k.name)
  ⟨⟨l.modules.slots.insert (Text.lower k.name) slot⟩, after⟩

/-- Loads what a config asks for under a name, unless the name has its place already. -/
def loadRequested (catalogue : Catalogue ι) (network : Network) (options : KeyMap Json.Options)
    (l : Loading ι) (requested : String) : Loading ι :=
  let name := Text.lower requested
  if (l.modules.slots.contains name) then l
  else
    match catalogue.find? (·.name == name) with
    | some k => loadKind network options l k
    | none => { l with modules := l.modules.markUnavailable name noSuchKind }

/-- Loads the modules of a channel: the core kinds in order, then what is asked for. -/
def load (catalogue : Catalogue ι) (network : Network) (before : List Exchange)
    (requested : List String) (options : KeyMap Json.Options) : Loading ι :=
  let core := (catalogue.filter (·.core)).foldl (loadKind network options) ⟨.empty, before⟩
  requested.foldl (loadRequested catalogue network options) core

end Catalogue

end CommandBot
