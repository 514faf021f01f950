import CommandBot.Proofs.Module.Places
import CommandBot.Proofs.Session.Turns

/-!
# Core modules

A session has only core modules (`Builtin.IsCore`) if its config asks for no others
(`isCore_of_start`). A call of a core module takes no time, sends nothing and leaves the modules as
they are (`callModule_of_instant`), and of its author it sees no more than the name
(`call_of_author`). Two of the core modules only speak: what they say follows from their arguments,
the name of the author, the modules and the commands (`Builtin.says?`).
-/

namespace CommandBot

namespace Builtin

/-- The names of the modules that are loaded in every channel. -/
def coreNames : List String := (catalogue.filter (·.core)).map (·.name)

/-- A module that is loaded in every channel, under its own name. -/
structure IsCore (key : String) (body : Builtin) : Prop where
  home : body.home = key
  core : key ∈ coreNames

theorem IsCore.ne_request {key : String} {body : Builtin} (h : IsCore key body)
    (state : Request.State) : body ≠ .request state := by
  rintro rfl
  have hname : (Builtin.request state).home ∉ coreNames := by
    change "request" ∉ coreNames
    decide +kernel
  exact hname (h.home ▸ h.core)

/-- A core module does all at once, and neither sends anything nor changes itself. -/
theorem IsCore.exists_instant {key : String} {body : Builtin} (h : IsCore key body)
    (network : Network) (call : Invocation) :
    ∃ channel result,
      Callable.call network body call = .instant body channel call.exchanges result := by
  cases body with
  | help => exact ⟨_, _, rfl⟩
  | commandAdd settings =>
      change ∃ channel result, runCommandAdd settings call = _
      unfold runCommandAdd
      split
      · exact ⟨_, _, rfl⟩
      · exact ⟨_, _, rfl⟩
  | commandRemove => exact ⟨_, _, rfl⟩
  | sigil => exact ⟨_, _, rfl⟩
  | target => exact ⟨_, _, rfl⟩
  | request state => exact absurd rfl (h.ne_request state)

/-- A core module sees no more of its author than the name. -/
theorem IsCore.call_of_author {key : String} {body : Builtin} (h : IsCore key body)
    (network : Network) (call : Invocation) {author : Author}
    (hname : author.name = call.author.name) :
    Callable.call network body { call with author := author } =
      Callable.call network body call := by
  cases body with
  | help => rfl
  | commandAdd settings => rfl
  | commandRemove => rfl
  | sigil => rfl
  | target =>
      have hanswer : Target.answer { call with author := author } = Target.answer call := by
        unfold Target.answer
        rw [hname]
      change say .target _ (Target.answer { call with author := author }, call.channel) = _
      rw [hanswer]
      rfl
  | request state => exact absurd rfl (h.ne_request state)

/-- What is said by a module that does no more than speak. -/
def says? : Builtin → Invocation → Option String
  | .help, call => some (Help.answer call)
  | .target, call => some (Target.answer call)
  | _, _ => none

theorem call_of_says? {body : Builtin} {call : Invocation} {text : String}
    (h : says? body call = some text) (network : Network) :
    Callable.call network body call = .reply body call call.channel text := by
  cases body with
  | help =>
      obtain rfl := Option.some.inj h
      rfl
  | target =>
      obtain rfl := Option.some.inj h
      rfl
  | _ => cases h

end Builtin

namespace Template

variable {ι : Type} [Callable ι]

/-- A call that does all at once, and neither sends anything nor changes the module, changes nothing
but the channel. -/
theorem callModule_of_instant {network : Network} {request : Request} {name : String}
    {m : Module ι} {args : List String} {scene : Scene ι}
    (hlookup : scene.modules.lookup name = .ok m)
    {channel : Channel} {result : Except Fault Reply}
    (h : Callable.call network m.body (invocation request args scene) =
      .instant m.body channel scene.exchanges result) :
    callModule network request name m args scene = (result, { scene with channel := channel }) := by
  have hmodules : scene.modules.setBody name m m.body = scene.modules := by
    rw [Modules.setBody, KeyMap.insert_of_get? (Modules.get?_of_lookup hlookup)]
  have hcall : callModule network request name m args scene =
      (result, ⟨channel, scene.modules.setBody name m m.body, scene.now, scene.exchanges⟩) := by
    rw [invocation] at h
    rw [callModule, h]
    rfl
  rw [hcall, hmodules]

theorem modules_callModule {network : Network} {request : Request} {name : String}
    {m : Module Builtin} {args : List String} {scene : Scene Builtin}
    (hcore : scene.modules.Every Builtin.IsCore) (hlookup : scene.modules.lookup name = .ok m) :
    (callModule network request name m args scene).2.modules = scene.modules := by
  obtain ⟨channel, result, hcall⟩ :=
    (hcore.of_lookup hlookup).exists_instant network (invocation request args scene)
  rw [callModule_of_instant hlookup hcall]

end Template

/-- A session whose config asks for no other modules has only the core modules. -/
theorem Session.isCore_of_start {network : Network} {now : Instant} {before : List Exchange}
    {name : String} {config : Channel.Config} {s : Session Builtin}
    (h : start Builtin.catalogue network now before name config = .ok s)
    (hrequested : ∀ asked ∈ config.modules, Text.lower asked ≠ "request") :
    s.scene.modules.Every Builtin.IsCore := by
  have hkinds : ∀ k ∈ Builtin.catalogue, k.core = true ∨ k.name = "request" := by
    have hpairs : ∀ e ∈ Builtin.catalogue.map fun k => (k.core, k.name),
        e.1 = true ∨ e.2 = "request" := by decide +kernel
    exact fun k hk => hpairs _ (List.mem_map_of_mem hk)
  intro key m hget
  refine ⟨(resident_of_start h key m hget).home, ?_⟩
  obtain ⟨-, -, -, -, hmodules, -⟩ := start_eq_ok h
  rw [hmodules] at hget
  rcases Catalogue.isBuilt_load Builtin.isProper_catalogue _ _ _ _ _ _ hget with
    ⟨k, hk, rfl, -⟩ | ⟨-, hslot⟩
  · have hcore : k.core = true := by
      rcases Catalogue.isWanted_of_get?_load Builtin.isProper_catalogue hk hget with
        hcore | hasked
      · exact hcore
      · obtain ⟨asked, hmem, hname⟩ := List.mem_map.1 hasked
        exact (hkinds k hk).resolve_right (hname ▸ hrequested asked hmem)
    exact List.mem_map_of_mem (List.mem_filter.2 ⟨hk, hcore⟩)
  · cases hslot

end CommandBot
