import CommandBot.Proofs.Module.Loading
import CommandBot.Proofs.Session.Turns
import CommandBot.Proofs.Text.Casing

/-!
# Modules under their own names

However the modules of a channel have been placed (`Modules.build`), each stands under its own name
in lowercase (`Modules.IsNamed`), so that it is found under the name that it carries
(`IsNamed.lookup_name`). Calls change the bodies of modules and nothing else of them, which keeps it
so through all turns of a session.
-/

namespace CommandBot

variable {ι : Type}

namespace Modules

/-- A step in the making of the modules of a channel. -/
inductive Placing (ι : Type) where
  | loaded (m : Module ι)
  | unavailable (name reason : String)

/-- Gives a module, or the mark of one, the place of its name. -/
def place (ms : Modules ι) : Placing ι → Modules ι
  | .loaded m => ms.insert m
  | .unavailable name reason => ms.markUnavailable name reason

/-- The modules that are placed in order. -/
def build (placings : List (Placing ι)) : Modules ι := placings.foldl place .empty

/-- Every module that is loaded stands under its own name in lowercase. -/
def IsNamed (ms : Modules ι) : Prop :=
  ∀ key m, ms.slots.get? key = some (.loaded m) → Text.lower m.name = key

theorem isNamed_empty : (empty : Modules ι).IsNamed := by
  intro key m h
  rw [empty, KeyMap.get?_empty] at h
  cases h

theorem IsNamed.insert {ms : Modules ι} (h : ms.IsNamed) (m : Module ι) :
    (ms.insert m).IsNamed := by
  intro key found hget
  rw [Modules.insert, KeyMap.get?_insert] at hget
  split at hget
  · rename_i hkey
    rw [hkey, ← Slot.loaded.inj (Option.some.inj hget)]
  · exact h key found hget

theorem IsNamed.markUnavailable {ms : Modules ι} (h : ms.IsNamed) (name reason : String) :
    (ms.markUnavailable name reason).IsNamed := by
  intro key found hget
  rw [Modules.markUnavailable, KeyMap.get?_insert] at hget
  split at hget
  · cases hget
  · exact h key found hget

theorem IsNamed.setBody {ms : Modules ι} (h : ms.IsNamed) {name : String} {m : Module ι}
    (hlookup : ms.lookup name = .ok m) (body : ι) : (ms.setBody name m body).IsNamed := by
  intro key found hget
  rw [Modules.get?_setBody] at hget
  split at hget
  · rename_i hkey
    rw [hkey, ← Slot.loaded.inj (Option.some.inj hget)]
    exact h _ m (get?_of_lookup hlookup)
  · exact h key found hget

theorem isNamed_build (placings : List (Placing ι)) : (build placings).IsNamed := by
  refine List.foldlRecOn placings place isNamed_empty fun ms hms placing _ => ?_
  cases placing with
  | loaded m => exact hms.insert m
  | unavailable name reason => exact hms.markUnavailable name reason

/-- A module is found under the name that it carries. -/
theorem IsNamed.lookup_name {ms : Modules ι} (h : ms.IsNamed) {key : String} {m : Module ι}
    (hget : ms.slots.get? key = some (.loaded m)) : ms.lookup m.name = .ok m := by
  simp only [lookup, h key m hget, hget]

end Modules

variable [Callable ι]

theorem Dispatch.isNamed_dispatch (network : Network) (request : Template.Request) (line : String)
    {scene : Scene ι} (h : scene.modules.IsNamed) :
    (dispatch network request line scene).2.modules.IsNamed := by
  refine dispatch_induction (p := fun current => current.modules.IsNamed) h (fun _ hscene => hscene)
    fun _ _ _ _ _ _ m _ current hlookup _ hcurrent => ?_
  exact hcurrent.setBody hlookup _

theorem Session.isNamed_play (network : Network) (patience : Duration) {s : Session ι}
    (h : s.scene.modules.IsNamed) (turns : List Turn) :
    (s.play network patience turns).scene.modules.IsNamed := by
  refine play_induction (p := fun t => t.scene.modules.IsNamed) (fun turn _ t ht => ?_) h
  cases turn with
  | line author text => exact Dispatch.isNamed_dispatch network ⟨author, patience⟩ text ht
  | wait span => exact ht

end CommandBot
