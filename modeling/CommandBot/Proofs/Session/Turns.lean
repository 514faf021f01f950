import CommandBot.Proofs.Dispatch
import CommandBot.Proofs.Module.Loading
import CommandBot.Session

/-!
# Turns of a session

A session goes on by lines, which may take time themselves, and by waits between them. `play` takes
turns in order, and what every turn keeps up holds after all of them (`play_induction`).
-/

namespace CommandBot.Session

/-- A line that is sent in the channel, or a while in which nothing is. -/
inductive Turn where
  | line (author : Author) (text : String)
  | wait (span : Duration)
  deriving DecidableEq, Repr

variable {ι : Type}

theorem start_eq_ok {catalogue : Catalogue ι} {network : Network} {now : Instant}
    {before : List Exchange} {name : String} {config : Channel.Config} {s : Session ι}
    (h : start catalogue network now before name config = .ok s) :
    Text.isBlankText config.sigil = false ∧
      ∃ commands, Commands.ofEntries config.commands.entries = .ok commands ∧
        s.scene.channel =
          { Channel.start name config.sigil commands now with options := config.options } ∧
        s.scene.modules = (catalogue.load network before config.modules config.options).modules ∧
        s.requested = config.modules := by
  unfold start at h
  split at h
  · cases h
  · rename_i hsigil
    split at h
    · cases h
    · rename_i commands hcommands
      obtain rfl := Except.ok.inj h
      exact ⟨by simpa using hsigil, commands, hcommands, rfl, rfl, rfl⟩

theorem resident_of_start {network : Network} {now : Instant} {before : List Exchange}
    {name : String} {config : Channel.Config} {s : Session Builtin}
    (h : start Builtin.catalogue network now before name config = .ok s) :
    s.scene.modules.Every Builtin.IsResident := by
  obtain ⟨-, -, -, -, hmodules, -⟩ := start_eq_ok h
  rw [hmodules]
  exact Catalogue.every_load Builtin.builds_isResident _ _ _ _

variable [Callable ι]

/-- Takes a turn. -/
def take (network : Network) (patience : Duration) (s : Session ι) : Turn → Session ι
  | .line author text => (s.handle network patience author text).2
  | .wait span => s.advance span

/-- Takes turns in order. -/
def play (network : Network) (patience : Duration) (s : Session ι) (turns : List Turn) :
    Session ι :=
  turns.foldl (take network patience) s

theorem play_cons (network : Network) (patience : Duration) (s : Session ι) (turn : Turn)
    (rest : List Turn) :
    s.play network patience (turn :: rest) =
      (s.take network patience turn).play network patience rest := rfl

/-- What every turn keeps up holds after all of them. -/
theorem play_induction {network : Network} {patience : Duration} {p : Session ι → Prop}
    {turns : List Turn}
    (hturn : ∀ turn ∈ turns, ∀ s : Session ι, p s → p (s.take network patience turn))
    {s : Session ι} (h : p s) : p (s.play network patience turns) := by
  induction turns generalizing s with
  | nil => exact h
  | cons turn rest ih =>
      exact ih (fun t ht => hturn t (List.mem_cons_of_mem _ ht)) (hturn turn List.mem_cons_self s h)

theorem outcome_handle (network : Network) (patience : Duration) (author : Author) (text : String)
    (s : Session ι) :
    (s.handle network patience author text).1 =
      (Dispatch.dispatch network ⟨author, patience⟩ text s.scene).1 := rfl

theorem session_handle (network : Network) (patience : Duration) (author : Author) (text : String)
    (s : Session ι) :
    (s.handle network patience author text).2 =
      { s with scene := (Dispatch.dispatch network ⟨author, patience⟩ text s.scene).2 } := rfl

end CommandBot.Session
