import CommandBot.Module.Canned
import CommandBot.Proofs.Module.Builtin
import CommandBot.Proofs.Session.Turns

/-!
# The last use of a command over a whole run

The admissions of a command's lines and its removals are listed in the order in which they happen
(`Session.events`), and `lastAdmission` is the latest admission of a name that no removal follows.
The session remembers just that (`Tracks`): a line marks the command that it is admitted for, a
removal forgets what has been marked, and no other call touches the marks (`KeepsUses`). What the
cooldown of a command does to its lines is then said in terms of the admissions alone
(`cooldown_over_run`).
-/

namespace CommandBot

/-- A line was admitted for a command, or a command was removed. -/
inductive UseEvent where
  | admitted (name : String) (moment : Instant)
  | removed (name : String)
  deriving DecidableEq, Repr

namespace UseEvent

/-- The moment of an admission. -/
def moment? : UseEvent → Option Instant
  | .admitted _ moment => some moment
  | .removed _ => none

/-- The latest admission of a name, after one more event. -/
def follow (name : String) (last : Option Instant) : UseEvent → Option Instant
  | .admitted other moment => if other = name then some moment else last
  | .removed other => if other = name then none else last

/-- The latest admission of a name that no removal of the name follows. -/
def lastAdmission (name : String) (events : List UseEvent) : Option Instant :=
  events.foldl (follow name) none

/-- No admission stands after a later one. -/
def Chronological (events : List UseEvent) : Prop :=
  events.Pairwise fun a b => ∀ t t', a.moment? = some t → b.moment? = some t' → t ≤ t'

theorem lastAdmission_append (name : String) (before after : List UseEvent) :
    lastAdmission name (before ++ after) = after.foldl (follow name) (lastAdmission name before) :=
  List.foldl_append

theorem foldl_follow_removed (name : String) (last : Option Instant) (names : List String) :
    (names.map removed).foldl (follow name) last = if name ∈ names then none else last := by
  induction names generalizing last with
  | nil => rfl
  | cons other rest ih =>
      rw [List.map_cons, List.foldl_cons, ih, follow]
      by_cases hrest : name ∈ rest
      · simp [hrest]
      · by_cases hother : other = name
        · simp [hother]
        · simp [hrest, hother, Ne.symm hother]

/-- After an admission that no removal follows there is a latest one, which is no earlier. -/
theorem le_foldl_follow {name : String} {t : Instant} {last : Instant} (hlast : t ≤ last)
    {events : List UseEvent} (hlater : ∀ e ∈ events, ∀ t', e.moment? = some t' → t ≤ t')
    (hkept : .removed name ∉ events) :
    ∃ t', events.foldl (follow name) (some last) = some t' ∧ t ≤ t' := by
  induction events generalizing last with
  | nil => exact ⟨last, rfl, hlast⟩
  | cons e rest ih =>
      have hrest := fun d hd => hlater d (List.mem_cons_of_mem _ hd)
      have hkept' : .removed name ∉ rest := fun h => hkept (List.mem_cons_of_mem _ h)
      rw [List.foldl_cons]
      cases e with
      | admitted other moment =>
          rw [follow]
          split
          · exact ih (hlater _ List.mem_cons_self moment rfl) hrest hkept'
          · exact ih hlast hrest hkept'
      | removed other =>
          have hother : other ≠ name := by
            rintro rfl
            exact hkept List.mem_cons_self
          rw [follow, if_neg hother]
          exact ih hlast hrest hkept'

theorem mem_of_foldl_follow {name : String} {t : Instant} {last : Option Instant}
    {events : List UseEvent} (h : events.foldl (follow name) last = some t) :
    last = some t ∨ .admitted name t ∈ events := by
  induction events generalizing last with
  | nil => exact .inl h
  | cons e rest ih =>
      rcases ih h with hnext | hmem
      · cases e with
        | admitted other moment =>
            rw [follow] at hnext
            split at hnext
            · rename_i hother
              obtain rfl := Option.some.inj hnext
              exact .inr (by rw [hother]; exact List.mem_cons_self)
            · exact .inl hnext
        | removed other =>
            rw [follow] at hnext
            split at hnext
            · cases hnext
            · exact .inl hnext
      · exact .inr (List.mem_cons_of_mem _ hmem)

theorem foldl_follow_of_not_mem {name : String} {last : Option Instant} {events : List UseEvent}
    (hadmitted : ∀ t, .admitted name t ∉ events) (hremoved : .removed name ∉ events) :
    events.foldl (follow name) last = last := by
  induction events with
  | nil => rfl
  | cons e rest ih =>
      have hsame : follow name last e = last := by
        cases e with
        | admitted other moment =>
            refine if_neg ?_
            rintro rfl
            exact hadmitted moment List.mem_cons_self
        | removed other =>
            refine if_neg ?_
            rintro rfl
            exact hremoved List.mem_cons_self
      rw [List.foldl_cons, hsame]
      exact ih (fun t ht => hadmitted t (List.mem_cons_of_mem _ ht))
        fun h => hremoved (List.mem_cons_of_mem _ h)

theorem le_lastAdmission {name : String} {t : Instant} {before after : List UseEvent}
    (h : Chronological (before ++ .admitted name t :: after)) (hkept : .removed name ∉ after) :
    ∃ t', lastAdmission name (before ++ .admitted name t :: after) = some t' ∧ t ≤ t' := by
  have htail := (List.pairwise_append.1 h).2.1
  rw [lastAdmission_append, List.foldl_cons, follow, if_pos rfl]
  exact le_foldl_follow (Nat.le_refl t)
    (fun e he t' ht' => (List.pairwise_cons.1 htail).1 e he t t' rfl ht') hkept

end UseEvent

open UseEvent

/-! ### What a call does to the marks -/

/-- Of the commands that are removed the last use is forgotten, and no other last use changes. -/
structure KeepsUses (before after : Channel) : Prop where
  wellFormed : before.commands.WellFormed → after.commands.WellFormed
  forgotten : before.commands.WellFormed → ∀ name command,
    before.commands.byName.get? name = some command → after.commands.byName.get? name = none →
      after.cooldowns.lastUse.get? name = none
  kept : before.commands.WellFormed → ∀ name,
    (before.commands.byName.get? name = none ∨ after.commands.byName.get? name ≠ none) →
      after.cooldowns.lastUse.get? name = before.cooldowns.lastUse.get? name

theorem keepsUses_of_eq {before after : Channel} (hcommands : after.commands = before.commands)
    (hcooldowns : after.cooldowns = before.cooldowns) : KeepsUses before after := by
  refine ⟨fun h => by rwa [hcommands], fun _ name command hget hnone => ?_, fun _ name _ => by
    rw [hcooldowns]⟩
  rw [hcommands, hget] at hnone
  cases hnone

theorem keepsUses_add {channel : Channel} {name : String} {entry : StoredCommand}
    {commands : Commands} (hadd : channel.commands.add name entry = .ok commands) :
    KeepsUses channel { channel with commands := commands }.markUnsaved := by
  refine ⟨fun h => h.add hadd, fun _ other command hget hnone => ?_, fun _ _ _ => rfl⟩
  obtain ⟨-, -, rfl⟩ := Commands.add_eq_ok_iff.1 hadd
  change (channel.commands.byName.insert _ _).get? other = none at hnone
  rw [KeyMap.get?_insert] at hnone
  split at hnone
  · cases hnone
  · rw [hget] at hnone
    cases hnone

theorem keepsUses_remove {channel : Channel} {name : String} {command : Command}
    {commands : Commands} (hremove : channel.commands.remove name = .ok (command, commands)) :
    KeepsUses channel { channel with
      commands := commands
      cooldowns := channel.cooldowns.forget command.name }.markUnsaved := by
  obtain ⟨hlookup, rfl⟩ := Commands.remove_eq_ok_iff.1 hremove
  refine ⟨fun h => h.remove hremove, fun h other found hget hnone => ?_, fun h other hother => ?_⟩
  · have hname := (Commands.lookup_eq_some hlookup h).1
    change (channel.commands.byName.erase _).get? other = none at hnone
    change (channel.cooldowns.lastUse.erase _).get? other = none
    rw [KeyMap.get?_erase] at hnone
    split at hnone
    · rename_i hsame
      rw [hname, hsame, KeyMap.get?_erase_self]
    · rw [hget] at hnone
      cases hnone
  · have hname := (Commands.lookup_eq_some hlookup h).1
    change (channel.cooldowns.lastUse.erase _).get? other = _
    have hne : other ≠ command.name := by
      rintro rfl
      rcases hother with hnone | hsome
      · rw [hname] at hnone
        rw [Commands.lookup, hnone] at hlookup
        cases hlookup
      · refine hsome ?_
        change (channel.commands.byName.erase _).get? _ = none
        rw [hname, KeyMap.get?_erase_self]
    exact KeyMap.get?_erase_of_ne _ hne

theorem Builtin.Deed.keepsUses {call : Invocation} {body after : Builtin} {channel : Channel}
    (h : Builtin.Deed call body after channel) : KeepsUses call.channel channel := by
  cases h with
  | nothing => exact keepsUses_of_eq rfl rfl
  | charged => exact keepsUses_of_eq rfl rfl
  | defined _ hadd => exact keepsUses_add hadd
  | removed hremove => exact keepsUses_remove hremove
  | resigned => exact keepsUses_of_eq rfl rfl
  | toggled => exact keepsUses_of_eq rfl rfl

theorem Canned.always_keepsUses (body : Canned) (call : Invocation) :
    (Canned.call body call).Always fun e => KeepsUses call.channel e.channel := by
  cases body with
  | slow span text =>
      exact (Run.always_instant (keepsUses_of_eq rfl rfl) _).after (keepsUses_of_eq rfl rfl)
  | _ =>
      refine Run.always_instant ?_ _
      exact keepsUses_of_eq rfl rfl

/-- No module of the bot, and no canned one, does anything else to the marks. -/
theorem always_keepsUses (network : Network) (body : Builtin ⊕ Canned) (call : Invocation) :
    (Callable.call network body call).Always fun e => KeepsUses call.channel e.channel := by
  cases body with
  | inl body =>
      exact Run.Always.map ((Builtin.always_deed network body call).mono fun _ h => h.keepsUses)
  | inr body => exact Run.Always.map (Canned.always_keepsUses body call)

/-- What every call that keeps the marks keeps up holds after the response to a command, with the
commands that have been removed on the way. -/
theorem respond_induction {network : Network} {request : Template.Request} {command : Command}
    {args : List String} {p : List String → Scene (Builtin ⊕ Canned) → Prop}
    {scene : Scene (Builtin ⊕ Canned)} (h : p [] scene)
    (hcall : ∀ removed before after, KeepsUses before.channel after.channel →
      before.now ≤ after.now → p removed before →
        p (removed ++ Template.lost before after) after) :
    p (Template.lostIn network request (Template.isAlone command.response.toList)
        (Template.Piece.scan command.response.toList) args scene)
      (Dispatch.respond network request command args scene).2 := by
  refine Template.resolvePieces_induction (fun word _ m taken removed current _ _ hcurrent => ?_)
    [] h
  obtain ⟨e, hkeeps, hchannel, -, hnow⟩ := Template.callModule_of_always
    (always_keepsUses network m.body (Template.invocation request taken current))
    (Template.tokenName word)
  exact hcall removed current _ (hchannel ▸ hkeeps) hnow hcurrent

/-! ### The events of a run -/

variable {ι : Type} [Callable ι]

/-- What a line does to the uses of commands: if it is admitted, that comes first. -/
def Dispatch.events (network : Network) (request : Template.Request) (line : String)
    (scene : Scene ι) : List UseEvent :=
  match named? scene.channel line with
  | none => []
  | some (command, args) =>
      if (dispatch network request line scene).1.isStopped then []
      else
        .admitted command.name scene.now ::
          (Template.lostIn network request (Template.isAlone command.response.toList)
            (Template.Piece.scan command.response.toList) args (charged command scene)).map .removed

namespace Session

/-- What a turn does to the uses of commands. -/
def eventsOf (network : Network) (patience : Duration) (s : Session ι) : Turn → List UseEvent
  | .line author text => Dispatch.events network ⟨author, patience⟩ text s.scene
  | .wait _ => []

/-- What turns do to the uses of commands, in order. -/
def events (network : Network) (patience : Duration) (s : Session ι) :
    List Turn → List UseEvent
  | [] => []
  | turn :: rest =>
      s.eventsOf network patience turn ++
        (s.take network patience turn).events network patience rest

end Session

/-- The marks of a scene are those of the events so far, none of which lies ahead. -/
structure Tracks (events : List UseEvent) (scene : Scene ι) : Prop where
  wellFormed : scene.channel.commands.WellFormed
  lastUse : ∀ name, scene.channel.cooldowns.lastUse.get? name = lastAdmission name events
  past : ∀ e ∈ events, ∀ t, e.moment? = some t → t ≤ scene.now
  chronological : Chronological events

omit [Callable ι] in
/-- Later, with the marks as they are, the events so far still lie in the past. -/
theorem Tracks.later {events : List UseEvent} {before after : Scene ι} (h : Tracks events before)
    (hchannel : after.channel = before.channel) (hnow : before.now ≤ after.now) :
    Tracks events after :=
  ⟨hchannel ▸ h.wellFormed, hchannel ▸ h.lastUse,
    fun e he t ht => Nat.le_trans (h.past e he t ht) hnow, h.chronological⟩

omit [Callable ι] in
theorem Tracks.lastAdmission_le {events : List UseEvent} {scene : Scene ι}
    (h : Tracks events scene) {name : String} {t : Instant}
    (hlast : lastAdmission name events = some t) : t ≤ scene.now := by
  rcases mem_of_foldl_follow hlast with hnone | hmem
  · cases hnone
  · exact h.past _ hmem t rfl

omit [Callable ι] in
theorem Tracks.admit {events : List UseEvent} {scene : Scene ι} (h : Tracks events scene)
    (command : Command) :
    Tracks (events ++ [.admitted command.name scene.now]) (Dispatch.charged command scene) := by
  refine ⟨h.wellFormed, fun name => ?_, fun e he t ht => ?_, ?_⟩
  · rw [Dispatch.get?_lastUse_charged, lastAdmission_append, List.foldl_cons, List.foldl_nil,
      follow, h.lastUse]
    by_cases hname : name = command.name
    · rw [if_pos hname, if_pos hname.symm]
    · rw [if_neg hname, if_neg (Ne.symm hname)]
  · rcases List.mem_append.1 he with he | he
    · exact h.past e he t ht
    · obtain rfl := List.mem_singleton.1 he
      obtain rfl := Option.some.inj ht
      exact Nat.le_refl _
  · refine List.pairwise_append.2 ⟨h.chronological, List.pairwise_singleton _ _, ?_⟩
    intro a ha b hb t t' ht ht'
    obtain rfl := List.mem_singleton.1 hb
    obtain rfl := Option.some.inj ht'
    exact h.past a ha t ht

omit [Callable ι] in
/-- The marks after a call that keeps them, by the commands that the call has removed. -/
theorem KeepsUses.get?_lastUse {before after : Scene ι}
    (h : KeepsUses before.channel after.channel) (hcommands : before.channel.commands.WellFormed)
    (name : String) :
    after.channel.cooldowns.lastUse.get? name =
      if name ∈ Template.lost before after then none
      else before.channel.cooldowns.lastUse.get? name := by
  split
  · rename_i hlost
    obtain ⟨⟨command, hget⟩, hnone⟩ := Template.mem_lost_iff.1 hlost
    exact h.forgotten hcommands name command hget hnone
  · rename_i hlost
    refine h.kept hcommands name ?_
    cases hget : before.channel.commands.byName.get? name with
    | none => exact .inl rfl
    | some command =>
        exact .inr fun hnone => hlost (Template.mem_lost_iff.2 ⟨⟨command, hget⟩, hnone⟩)

omit [Callable ι] in
/-- A call that keeps the marks, with the removals that it makes. -/
theorem Tracks.lose {events : List UseEvent} {before after : Scene ι} (h : Tracks events before)
    (hkeeps : KeepsUses before.channel after.channel) (hnow : before.now ≤ after.now) :
    Tracks (events ++ (Template.lost before after).map .removed) after := by
  have hmoment : ∀ e ∈ (Template.lost before after).map UseEvent.removed, e.moment? = none := by
    intro e he
    obtain ⟨name, -, rfl⟩ := List.mem_map.1 he
    rfl
  refine ⟨hkeeps.wellFormed h.wellFormed, fun name => ?_, fun e he t ht => ?_, ?_⟩
  · rw [lastAdmission_append, foldl_follow_removed, hkeeps.get?_lastUse h.wellFormed, h.lastUse]
  · rcases List.mem_append.1 he with he | he
    · exact Nat.le_trans (h.past e he t ht) hnow
    · rw [hmoment e he] at ht
      cases ht
  · refine List.pairwise_append.2 ⟨h.chronological, ?_, ?_⟩
    · refine List.Pairwise.imp_of_mem (fun {a _} ha _ _ t _ ht => ?_)
        (List.pairwise_of_forall (R := fun _ _ => True) fun _ _ => trivial)
      rw [hmoment a ha] at ht
      cases ht
    · intro a _ b hb t t' _ ht'
      rw [hmoment b hb] at ht'
      cases ht'

/-! ### Runs -/

theorem Dispatch.events_of_isStopped {network : Network} {request : Template.Request}
    {line : String} {scene : Scene ι}
    (h : (dispatch network request line scene).1.isStopped = true) :
    events network request line scene = [] := by
  unfold events
  split
  · rfl
  · rw [if_pos h]

theorem Dispatch.events_of_admitted {network : Network} {request : Template.Request}
    {line : String} {scene : Scene ι} {command : Command} {args : List String}
    (hnamed : named? scene.channel line = some (command, args))
    (hopen : (dispatch network request line scene).1.isStopped = false) :
    events network request line scene =
      .admitted command.name scene.now ::
        (Template.lostIn network request (Template.isAlone command.response.toList)
          (Template.Piece.scan command.response.toList) args (charged command scene)).map
            .removed := by
  simp only [events, hnamed, hopen, Bool.false_eq_true, if_false]

theorem Tracks.dispatch {events : List UseEvent} {scene : Scene (Builtin ⊕ Canned)}
    (h : Tracks events scene) (network : Network) (request : Template.Request) (line : String) :
    Tracks (events ++ Dispatch.events network request line scene)
      (Dispatch.dispatch network request line scene).2 := by
  rcases Dispatch.dispatch_cases network request line scene with
    ⟨hstopped, hsame⟩ | ⟨command, args, hnamed, -, hrespond⟩
  · rw [Dispatch.events_of_isStopped hstopped, hsame, List.append_nil]
    exact h
  · have hopen : (Dispatch.dispatch network request line scene).1.isStopped = false := by
      rw [hrespond, Dispatch.isStopped_respond]
    have hstart : Tracks (events ++ [.admitted command.name scene.now] ++
        ([] : List String).map .removed) (Dispatch.charged command scene) := by
      rw [List.map_nil, List.append_nil]
      exact h.admit command
    rw [hrespond, Dispatch.events_of_admitted hnamed hopen, ← List.singleton_append,
      ← List.append_assoc]
    -- what has been removed so far is carried through the response
    refine respond_induction (p := fun removed current =>
      Tracks (events ++ [.admitted command.name scene.now] ++ removed.map .removed) current) hstart
      fun removed before after hkeeps hnow hbefore => ?_
    rw [List.map_append, ← List.append_assoc]
    exact hbefore.lose hkeeps hnow

/-! ### Lines after some events -/

section

variable {events : List UseEvent} {scene : Scene ι} {network : Network}
  {request : Template.Request} {line : String} {command : Command} {args : List String}

/-- A line for a command by one who may use it comes too early or in time, by the events so far. -/
theorem Tracks.early_or_late (h : Tracks events scene) (network : Network)
    (hnamed : Dispatch.named? scene.channel line = some (command, args))
    (hpermitted : command.modOnly = true → request.author.isModerator = true) :
    (∃ t, lastAdmission command.name events = some t ∧
      scene.now - t < Duration.seconds command.cooldown ∧
      (Dispatch.dispatch network request line scene).1 =
        .ignored (.onCooldown command.name
          (Duration.seconds command.cooldown - (scene.now - t)))) ∨
    ((∀ t, lastAdmission command.name events = some t →
        Duration.seconds command.cooldown ≤ scene.now - t) ∧
      (Dispatch.dispatch network request line scene).1.isStopped = false) := by
  rw [← h.lastUse, Dispatch.dispatch_of_permitted hnamed hpermitted]
  rcases Dispatch.tryUse_cases network request command args scene with
    ⟨t, hlast, hearly, huse⟩ | ⟨hlate, huse⟩
  · exact .inl ⟨t, hlast, hearly, by rw [huse]⟩
  · exact .inr ⟨hlate, by rw [huse, Dispatch.isStopped_respond]⟩

theorem Tracks.isStopped_iff (h : Tracks events scene)
    (hnamed : Dispatch.named? scene.channel line = some (command, args))
    (hpermitted : command.modOnly = true → request.author.isModerator = true) :
    (Dispatch.dispatch network request line scene).1.isStopped = true ↔
      ∃ t, lastAdmission command.name events = some t ∧
        scene.now - t < Duration.seconds command.cooldown := by
  rcases h.early_or_late network hnamed hpermitted with
    ⟨t, hlast, hearly, hout⟩ | ⟨hlate, hopen⟩
  · rw [hout]
    exact iff_of_true rfl ⟨t, hlast, hearly⟩
  · rw [hopen]
    refine iff_of_false Bool.false_ne_true ?_
    rintro ⟨t, hlast, hearly⟩
    exact Nat.not_lt.2 (hlate t hlast) hearly

theorem Tracks.onCooldown_iff (h : Tracks events scene)
    (hnamed : Dispatch.named? scene.channel line = some (command, args))
    (hpermitted : command.modOnly = true → request.author.isModerator = true)
    (remaining : Duration) :
    (Dispatch.dispatch network request line scene).1 =
        .ignored (.onCooldown command.name remaining) ↔
      ∃ t, lastAdmission command.name events = some t ∧
        scene.now - t < Duration.seconds command.cooldown ∧
        remaining = Duration.seconds command.cooldown - (scene.now - t) := by
  rcases h.early_or_late network hnamed hpermitted with
    ⟨t, hlast, hearly, hout⟩ | ⟨hlate, hopen⟩
  · rw [hout, Outcome.ignored.injEq, Ignored.onCooldown.injEq]
    constructor
    · rintro ⟨-, rfl⟩
      exact ⟨t, hlast, hearly, rfl⟩
    · rintro ⟨t', hlast', -, rfl⟩
      rw [hlast] at hlast'
      exact ⟨rfl, by rw [Option.some.inj hlast']⟩
  · constructor
    · intro hout
      rw [hout] at hopen
      cases hopen
    · rintro ⟨t, hlast, hearly, -⟩
      exact absurd hearly (Nat.not_lt.2 (hlate t hlast))

theorem Tracks.isStopped_of_zero (h : Tracks events scene)
    (hnamed : Dispatch.named? scene.channel line = some (command, args))
    (hpermitted : command.modOnly = true → request.author.isModerator = true)
    (hzero : command.cooldown = 0) :
    (Dispatch.dispatch network request line scene).1.isStopped = false := by
  rw [← Bool.not_eq_true, h.isStopped_iff hnamed hpermitted, hzero]
  rintro ⟨t, -, hearly⟩
  rw [Duration.seconds, Nat.zero_mul] at hearly
  exact Nat.not_lt_zero _ hearly

/-- An admission lies back the whole cooldown when the next line for the command is admitted. -/
theorem Tracks.le_of_admitted (h : Tracks events scene)
    (hnamed : Dispatch.named? scene.channel line = some (command, args))
    (hpermitted : command.modOnly = true → request.author.isModerator = true)
    (hopen : (Dispatch.dispatch network request line scene).1.isStopped = false)
    {earlier later : List UseEvent} {t : Instant}
    (heq : events = earlier ++ .admitted command.name t :: later)
    (hkept : .removed command.name ∉ later) :
    t + Duration.seconds command.cooldown ≤ scene.now := by
  obtain ⟨last, hlast, hle⟩ := le_lastAdmission (heq ▸ h.chronological) hkept
  rw [← heq] at hlast
  rcases h.early_or_late network hnamed hpermitted with
    ⟨_, _, _, hout⟩ | ⟨hlate, -⟩
  · rw [hout] at hopen
    cases hopen
  · have hwait := hlate last hlast
    calc t + Duration.seconds command.cooldown
        ≤ last + (scene.now - last) := Nat.add_le_add hle hwait
      _ = scene.now := Nat.add_sub_cancel' (h.lastAdmission_le hlast)

end

namespace Session

theorem tracks_take {events : List UseEvent} {s : Session (Builtin ⊕ Canned)}
    (h : Tracks events s.scene) (network : Network) (patience : Duration) (turn : Turn) :
    Tracks (events ++ s.eventsOf network patience turn) (s.take network patience turn).scene := by
  cases turn with
  | line author text => exact h.dispatch network ⟨author, patience⟩ text
  | wait span =>
      rw [eventsOf, List.append_nil]
      exact h.later rfl (Nat.le_add_right _ _)

theorem tracks_play {before : List UseEvent} {s : Session (Builtin ⊕ Canned)}
    (h : Tracks before s.scene) (network : Network) (patience : Duration) (turns : List Turn) :
    Tracks (before ++ s.events network patience turns) (s.play network patience turns).scene := by
  induction turns generalizing before s with
  | nil =>
      rw [events, List.append_nil]
      exact h
  | cons turn rest ih =>
      rw [events, play_cons, ← List.append_assoc]
      exact ih (tracks_take h network patience turn)

omit [Callable ι] in
theorem tracks_of_start {catalogue : Catalogue ι} {network : Network} {now : Instant}
    {before : List Exchange} {name : String} {config : Channel.Config} {s : Session ι}
    (h : start catalogue network now before name config = .ok s) : Tracks [] s.scene := by
  obtain ⟨-, commands, hcommands, hchannel, -, -⟩ := start_eq_ok h
  refine ⟨?_, fun other => ?_, fun e he => absurd he List.not_mem_nil, List.Pairwise.nil⟩
  · rw [hchannel]
    exact Commands.wellFormed_of_ofEntries hcommands
  · rw [hchannel]
    exact KeyMap.get?_empty _

/-- The cooldown of commands over whole runs. After any turns of a session, a line for a command by
one who may use it is refused for the cooldown just when the latest admission of the command since
it was last removed lies back less than the cooldown that the command has now, and then what is
said to remain is just what is missing. Two admissions without a removal between them therefore lie
at least the later cooldown apart. Lines that are stopped change nothing, and the mark of a command
is moved by its own admissions and removals only, so that neither other commands nor a new
definition of the command move it. -/
theorem cooldown_over_run {catalogue : Catalogue (Builtin ⊕ Canned)} {before : List Exchange}
    {now : Instant} {name : String} {config : Channel.Config} {start : Session (Builtin ⊕ Canned)}
    {outset : Network} (hstart : Session.start catalogue outset now before name config = .ok start)
    (network : Network) (patience : Duration) (turns : List Turn) :
    let s := start.play network patience turns
    let past := start.events network patience turns
    (∀ author text command args, Dispatch.named? s.scene.channel text = some (command, args) →
      (command.modOnly = true → author.isModerator = true) →
      let outcome := (s.handle network patience author text).1
      let cooldown := Duration.seconds command.cooldown
      (∀ t, lastAdmission command.name past = some t → t ≤ s.scene.now) ∧
      (∀ remaining, outcome = .ignored (.onCooldown command.name remaining) ↔
        ∃ t, lastAdmission command.name past = some t ∧ s.scene.now - t < cooldown ∧
          remaining = cooldown - (s.scene.now - t)) ∧
      (outcome.isStopped = true ↔
        ∃ t, lastAdmission command.name past = some t ∧ s.scene.now - t < cooldown) ∧
      (command.cooldown = 0 → outcome.isStopped = false) ∧
      (outcome.isStopped = false → ∀ earlier t later,
        past = earlier ++ .admitted command.name t :: later →
          .removed command.name ∉ later → t + cooldown ≤ s.scene.now)) ∧
    (∀ author text, (s.handle network patience author text).1.isStopped = true →
      (s.handle network patience author text).2 = s ∧
        s.eventsOf network patience (.line author text) = []) ∧
    (∀ turn name, (∀ t, .admitted name t ∉ s.eventsOf network patience turn) →
      .removed name ∉ s.eventsOf network patience turn →
      (s.take network patience turn).scene.channel.cooldowns.lastUse.get? name =
        s.scene.channel.cooldowns.lastUse.get? name) := by
  intro s past
  have htracks : Tracks past s.scene := tracks_play (tracks_of_start hstart) network patience turns
  refine ⟨fun author text command args hnamed hpermitted => ?_, fun author text hstopped => ?_,
    fun turn name hadmitted hremoved => ?_⟩
  · intro outcome cooldown
    have houtcome : outcome =
        (Dispatch.dispatch network ⟨author, patience⟩ text s.scene).1 := outcome_handle _ _ _ _ _
    rw [houtcome]
    exact ⟨fun t hlast => htracks.lastAdmission_le hlast,
      fun remaining => htracks.onCooldown_iff hnamed hpermitted remaining,
      htracks.isStopped_iff hnamed hpermitted,
      fun hzero => htracks.isStopped_of_zero hnamed hpermitted hzero,
      fun hopen _ _ _ heq hkept => htracks.le_of_admitted hnamed hpermitted hopen heq hkept⟩
  · refine ⟨?_, Dispatch.events_of_isStopped hstopped⟩
    have hscene : (s.handle network patience author text).2.scene = s.scene :=
      Dispatch.scene_of_isStopped hstopped
    change (⟨(s.handle network patience author text).2.scene, s.requested⟩ : Session _) = s
    rw [hscene]
  · rw [(tracks_take htracks network patience turn).lastUse, htracks.lastUse, lastAdmission_append]
    exact foldl_follow_of_not_mem hadmitted hremoved

/-- A command with a cooldown of ten seconds is used, and three seconds later is used again. -/
theorem cooldown_over_run_ten_seconds :
    let config : Channel.Config :=
      ⟨"r!", .ofList [("a", { cooldown := 10, response := "hi" })], [], .empty⟩
    let ann : Author := ⟨"1", "ann", false, false, false⟩
    let turns : List Turn := [.line ann "r!a", .wait (Duration.seconds 3)]
    ∃ s : Session (Builtin ⊕ Canned), start [] .down 0 [] "room" config = .ok s ∧
      ((s.play .down 0 turns).handle .down 0 ann "r!a").1 =
        .ignored (.onCooldown "a" (Duration.seconds 7)) := by
  intro config ann turns
  have hrun : ((start [] .down 0 [] "room" config :
      Except StartError (Session (Builtin ⊕ Canned))).toOption.map fun s =>
        (Dispatch.named? (s.play .down 0 turns).scene.channel "r!a",
          lastAdmission "a" (s.events .down 0 turns), (s.play .down 0 turns).scene.now)) =
      some (some (⟨"a", 10, false, false, "hi"⟩, []), some 0, Duration.seconds 3) := by
    decide +kernel
  cases hstart : (start [] .down 0 [] "room" config :
      Except StartError (Session (Builtin ⊕ Canned))) with
  | error e =>
      rw [hstart] at hrun
      cases hrun
  | ok s =>
      rw [hstart] at hrun
      obtain ⟨hnamed, hrest⟩ := Prod.mk.inj (Option.some.inj hrun)
      obtain ⟨hlast, hnow⟩ := Prod.mk.inj hrest
      have hline := (cooldown_over_run hstart .down 0 turns).1 ann "r!a" _ _ hnamed
        (fun h => by cases h)
      refine ⟨s, rfl, (hline.2.1 _).2 ⟨0, hlast, ?_, ?_⟩⟩
      · rw [hnow]
        decide
      · rw [hnow]
        decide

end Session

end CommandBot
