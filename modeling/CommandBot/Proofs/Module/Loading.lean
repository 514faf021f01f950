import CommandBot.Module.Builtin
import CommandBot.Proofs.Commands
import CommandBot.Proofs.KeyMap
import CommandBot.Proofs.Module.Settings

/-!
# Where loaded modules stand

`Modules.Every p` says that `p` holds of every loaded module's place and body. It holds of what a
catalogue loads if it holds of all that its kinds build (`every_load`). The modules of the bot stand
under names of their own (`Builtin.home`), and `cmdadd` has a default cooldown that can be stored
(`Builtin.IsResident`).
-/

namespace CommandBot

variable {ι : Type}

theorem exists_of_bind_eq_ok {ε α β : Type} {x : Except ε α} {f : α → Except ε β} {b : β}
    (h : x >>= f = .ok b) : ∃ a, x = .ok a ∧ f a = .ok b := by
  cases x with
  | error e => cases h
  | ok a => exact ⟨a, rfl, h⟩

theorem exists_of_toOption_map_eq_some {ε α β : Type} {x : Except ε α} {f : α → β} {b : β}
    (h : x.toOption.map f = some b) : ∃ a, x = .ok a ∧ f a = b := by
  cases x with
  | error e => cases h
  | ok a => exact ⟨a, rfl, Option.some.inj h⟩

namespace Modules

/-- The property holds of the name and the body of every module that is loaded. -/
def Every (p : String → ι → Prop) (ms : Modules ι) : Prop :=
  ∀ key m, ms.slots.get? key = some (.loaded m) → p key m.body

theorem get?_of_lookup {ms : Modules ι} {name : String} {m : Module ι}
    (h : ms.lookup name = .ok m) : ms.slots.get? (Text.lower name) = some (.loaded m) := by
  unfold lookup at h
  simp only at h
  split at h
  · rename_i found hfound
    rw [hfound, Except.ok.inj h]
  · cases h
  · cases h

theorem Every.of_lookup {p : String → ι → Prop} {ms : Modules ι} (h : ms.Every p) {name : String}
    {m : Module ι} (hlookup : ms.lookup name = .ok m) : p (Text.lower name) m.body :=
  h _ m (get?_of_lookup hlookup)

theorem Every.setBody {p : String → ι → Prop} {ms : Modules ι} (h : ms.Every p) {name : String}
    {body : ι} (hbody : p (Text.lower name) body) (m : Module ι) :
    (ms.setBody name m body).Every p := by
  intro key found hget
  rw [Modules.get?_setBody] at hget
  split at hget
  · rename_i hkey
    obtain rfl := Slot.loaded.inj (Option.some.inj hget)
    rw [hkey]
    exact hbody
  · exact h key found hget

end Modules

namespace Catalogue

/-- The property holds of all that a kind builds, under the name of the kind. -/
def Builds (p : String → ι → Prop) (k : Kind ι) : Prop :=
  ∀ network before options body after,
    k.build network before options = (.ok body, after) → p (Text.lower k.name) body

theorem builds_map {κ : Type} {p : String → κ → Prop} {f : ι → κ} {k : Kind ι}
    (h : Builds (fun key body => p key (f body)) k) : Builds p (k.map f) := by
  intro network before options body after hbuild
  obtain ⟨hbody, -⟩ := Prod.mk.inj hbuild
  cases hbuilt : (k.build network before options).1 with
  | error words =>
      rw [hbuilt] at hbody
      cases hbody
  | ok built =>
      rw [hbuilt] at hbody
      obtain rfl := Except.ok.inj hbody
      exact h network before options built _ (Prod.ext hbuilt rfl)

theorem every_loadKind {p : String → ι → Prop} {k : Kind ι} (hk : Builds p k) (network : Network)
    (options : KeyMap Json.Options) {l : Loading ι} (h : l.modules.Every p) :
    (loadKind network options l k).modules.Every p := by
  intro key m hget
  simp only [loadKind, KeyMap.get?_insert] at hget
  split at hget
  · rename_i hkey
    rw [hkey]
    have hload := Option.some.inj hget
    unfold Kind.load at hload
    split at hload
    · rename_i body after hbuild
      obtain rfl := Slot.loaded.inj hload
      exact hk _ _ _ _ _ hbuild
    · cases hload
  · exact h key m hget

theorem every_loadRequested {p : String → ι → Prop} {catalogue : Catalogue ι}
    (hk : ∀ k ∈ catalogue, Builds p k) (network : Network) (options : KeyMap Json.Options)
    {l : Loading ι} (h : l.modules.Every p) (requested : String) :
    (loadRequested catalogue network options l requested).modules.Every p := by
  unfold loadRequested
  simp only
  split
  · exact h
  · split
    · rename_i k hfind
      exact every_loadKind (hk k (List.mem_of_find?_eq_some hfind)) network options h
    · intro key m hget
      simp only [Modules.markUnavailable, KeyMap.get?_insert] at hget
      split at hget
      · cases hget
      · exact h key m hget

theorem every_foldl {α : Type} {p : String → ι → Prop} {f : Loading ι → α → Loading ι}
    {steps : List α}
    (hstep : ∀ a ∈ steps, ∀ l : Loading ι, l.modules.Every p → (f l a).modules.Every p)
    {l : Loading ι} (h : l.modules.Every p) : (steps.foldl f l).modules.Every p := by
  induction steps generalizing l with
  | nil => exact h
  | cons a rest ih =>
      exact ih (fun b hb => hstep b (List.mem_cons_of_mem _ hb)) (hstep a List.mem_cons_self l h)

/-- What holds of all that the kinds of a catalogue build holds of the modules that it loads. -/
theorem every_load {p : String → ι → Prop} {catalogue : Catalogue ι}
    (hk : ∀ k ∈ catalogue, Builds p k) (network : Network) (before : List Exchange)
    (requested : List String) (options : KeyMap Json.Options) :
    (catalogue.load network before requested options).modules.Every p := by
  have hempty : Modules.empty.Every p := fun key m hget => by
    rw [Modules.empty, KeyMap.get?_empty] at hget
    cases hget
  have hcore : ((catalogue.filter (·.core)).foldl (loadKind network options)
      ⟨.empty, before⟩).modules.Every p :=
    every_foldl (fun k hmem l hl =>
      every_loadKind (hk k (List.mem_filter.1 hmem).1) network options hl) hempty
  exact every_foldl
    (fun requested _ l hl => every_loadRequested hk network options hl requested) hcore

end Catalogue

namespace Builtin

/-- The name under which a module of the bot is loaded. -/
def home : Builtin → String
  | .help => "help"
  | .commandAdd _ => "cmdadd"
  | .commandRemove => "cmddel"
  | .sigil => "prefix"
  | .target => "target"
  | .request _ => "request"

/-- The module stands under its own name, and its default cooldown, if it has one, can be stored. -/
structure IsResident (key : String) (body : Builtin) : Prop where
  home : body.home = key
  fits : ∀ settings, body = .commandAdd settings →
    Number.fitsSigned 64 settings.defaultCooldown = true

theorem fits_of_readSettings {options : Json.Options} {settings : CommandAdd.Settings}
    (h : CommandAdd.readSettings options = .ok settings) :
    Number.fitsSigned 64 settings.defaultCooldown = true := by
  unfold CommandAdd.readSettings at h
  obtain ⟨cooldown, hcooldown, h⟩ := exists_of_bind_eq_ok h
  obtain ⟨hiddenFlag, -, h⟩ := exists_of_bind_eq_ok h
  obtain ⟨modOnlyFlag, -, h⟩ := exists_of_bind_eq_ok h
  obtain rfl := Except.ok.inj h
  exact (Settings.setting_readInteger_iff.1 hcooldown).2

theorem lower_home (body : Builtin) : Text.lower body.home = body.home := by
  cases body with
  | help => exact (by decide +kernel : Text.lower "help" = "help")
  | commandAdd settings => exact (by decide +kernel : Text.lower "cmdadd" = "cmdadd")
  | commandRemove => exact (by decide +kernel : Text.lower "cmddel" = "cmddel")
  | sigil => exact (by decide +kernel : Text.lower "prefix" = "prefix")
  | target => exact (by decide +kernel : Text.lower "target" = "target")
  | request state => exact (by decide +kernel : Text.lower "request" = "request")

theorem builds_commandAdd :
    Catalogue.Builds (fun key settings => IsResident key (.commandAdd settings))
      CommandAdd.kind := by
  intro network before options settings after hbuild
  refine ⟨(lower_home (.commandAdd settings)).symm, fun other hother => ?_⟩
  obtain rfl := Builtin.commandAdd.inj hother
  have hread := (Prod.mk.inj hbuild).1
  cases hsettings : CommandAdd.readSettings options with
  | error words =>
      rw [hsettings] at hread
      cases hread
  | ok read =>
      rw [hsettings] at hread
      obtain rfl := Except.ok.inj hread
      exact fits_of_readSettings hsettings

theorem builds_isResident : ∀ k ∈ catalogue, Catalogue.Builds IsResident k := by
  have hplain : ∀ body : Builtin, (∀ settings, body ≠ .commandAdd settings) →
      IsResident (Text.lower body.home) body := fun body hbody =>
    ⟨(lower_home body).symm, fun settings hsettings => absurd hsettings (hbody settings)⟩
  intro k hk
  simp only [catalogue, List.mem_cons, List.not_mem_nil, or_false] at hk
  rcases hk with rfl | rfl | rfl | rfl | rfl | rfl
  · exact Catalogue.builds_map fun _ _ _ _ _ _ => hplain .help (fun _ h => nomatch h)
  · exact Catalogue.builds_map builds_commandAdd
  · exact Catalogue.builds_map fun _ _ _ _ _ _ => hplain .commandRemove (fun _ h => nomatch h)
  · exact Catalogue.builds_map fun _ _ _ _ _ _ => hplain .sigil (fun _ h => nomatch h)
  · exact Catalogue.builds_map fun _ _ _ _ _ _ => hplain .target (fun _ h => nomatch h)
  · exact Catalogue.builds_map fun _ _ _ state _ _ => hplain (.request state) (fun _ h => nomatch h)

end Builtin

end CommandBot
