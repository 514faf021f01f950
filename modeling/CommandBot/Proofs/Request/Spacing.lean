import CommandBot.Proofs.Cooldown
import CommandBot.Proofs.Request.Delivery
import CommandBot.Proofs.Request.Settings

/-!
# How far apart the deliveries of a viewer are

The module `request` charges a viewer for a delivery that was made and for nothing else: calls that
are vetoed, that lack an argument, whose look-up or delivery fails, that switch the submode or that
are cut off leave all cooldowns as they are (`IsSettled`). Over any calls the module knows the
latest delivery of each viewer (`Tracks`), so that the deliveries of a viewer lie apart by the
cooldown, and a call is vetoed for its time only if one of them lies back less
(`deliveries_are_spaced`).
-/

namespace CommandBot

/-- Whether a delivery was made. -/
def Exchange.isDelivered : Exchange → Bool
  | .delivery _ _ connected => connected
  | .request _ => false

namespace Request

/-! ### One call -/

/-- Whether a call has delivered its message. One that is cut off meanwhile has not. -/
def delivers (call : Invocation) (e : Effects State) : Bool :=
  (e.exchanges.drop call.exchanges.length).any (·.isDelivered)

theorem delivers_append (call : Invocation) (body : State) (channel : Channel)
    (sent : List Exchange) :
    delivers call ⟨body, channel, call.exchanges ++ sent⟩ = sent.any (·.isDelivered) := by
  rw [delivers, List.drop_left]

/-- What comes, from a moment on, of a call that nothing holds back: no veto, and a charge exactly
if the message was delivered, at the moment when it was. -/
structure IsSettled (state : State) (call : Invocation) (now : Instant) (e : Ending State) :
    Prop where
  answered : e.result ≠ some (.ok .veto)
  cooldowns : e.effects.body.cooldowns =
    if delivers call e.effects then state.cooldowns.charge call.author.id (now + e.elapsed)
    else state.cooldowns

section

variable {state : State} {call : Invocation} {now : Instant}

theorem IsSettled.later {span : Duration} {e : Ending State}
    (h : IsSettled state call (now + span) e) : IsSettled state call now (e.later span) :=
  ⟨h.answered, by rw [Ending.later, ← Nat.add_assoc]; exact h.cooldowns⟩

/-- A wait before which nothing was delivered or charged changes nothing about this. -/
theorem isSettled_after {r : Run State} {pause : Pause State}
    (hr : ∀ limit, IsSettled state call (now + pause.span) (r.within limit))
    (hcooldowns : pause.effects.body.cooldowns = state.cooldowns)
    (hdelivers : delivers call pause.effects = false) (limit : Duration) :
    IsSettled state call now ((r.after pause).within limit) := by
  rw [Run.within_after]
  split
  · exact ⟨fun h => (by cases h), by rw [hdelivers]; exact hcooldowns⟩
  · exact (hr _).later

theorem isSettled_instant {body : State} {channel : Channel} {sent : List Exchange}
    {result : Except Fault Reply} (hresult : result ≠ .ok .veto)
    (hcooldowns : body.cooldowns =
      if sent.any (·.isDelivered) then state.cooldowns.charge call.author.id now
      else state.cooldowns) (limit : Duration) :
    IsSettled state call now
      ((Run.instant body channel (call.exchanges ++ sent) result).within limit) := by
  rw [Run.within_instant]
  refine ⟨fun h => hresult (Option.some.inj h), ?_⟩
  rw [delivers_append, Nat.add_zero]
  exact hcooldowns

theorem isSettled_deliver (network : Network) {sent : List Exchange}
    (hsent : sent.any (·.isDelivered) = false) (message : String) (limit : Duration) :
    IsSettled state call now
      ((deliver network state call now (call.exchanges ++ sent) message).within limit) := by
  have hany : ∀ connected text,
      (sent ++ [Exchange.delivery state.settings.endpoint text connected]).any (·.isDelivered) =
        connected := fun connected text => by
    rw [List.any_append, hsent]
    simp [Exchange.isDelivered]
  unfold deliver
  refine isSettled_after (fun limit => ?_) (by rfl) ?_ limit
  · simp only [List.append_assoc]
    split
    · exact isSettled_instant (by simp) (by rw [hany]; rfl) limit
    · exact isSettled_instant (by simp) (by rw [hany]; rfl) limit
  · exact (delivers_append _ _ _ _).trans hsent

theorem isSettled_fulfil (network : Network) (link : MapLink) (mods : String) (limit : Duration) :
    IsSettled state call call.now ((fulfil network state call link mods).within limit) := by
  unfold fulfil
  refine isSettled_after (fun limit => ?_) (by rfl) ?_ limit
  · split
    · exact isSettled_instant (by simp) rfl limit
    · exact isSettled_deliver network rfl _ limit
  · exact delivers_append _ _ _ _

theorem isSettled_reply {body : State} (channel : Channel) (text : String)
    (hcooldowns : body.cooldowns = state.cooldowns) (limit : Duration) :
    IsSettled state call now ((Run.reply body call channel text).within limit) := by
  have hnothing : Run.reply body call channel text =
      .instant body channel (call.exchanges ++ []) (.ok (.text text)) := by
    rw [List.append_nil]
    rfl
  rw [hnothing]
  exact isSettled_instant (by simp) hcooldowns limit

theorem isSettled_run (network : Network) (h : ¬ IsHeld state call) (limit : Duration) :
    IsSettled state call call.now ((run network state call).within limit) := by
  cases course network state call with
  | held hheld _ => exact absurd hheld h
  | switches _ hrun =>
      rw [hrun]
      exact isSettled_reply _ _ (by rfl) limit
  | passes _ hrun =>
      rw [hrun]
      exact isSettled_fulfil network _ _ limit
  | answers _ _ _ _ hrun =>
      rw [hrun]
      exact isSettled_reply _ _ (by rfl) limit

end

/-! ### Many calls -/

/-- A call that comes after a while: from whom, with what, in what surroundings, and how long it may
take. -/
structure Ask where
  wait : Duration
  author : Author
  args : List String
  modules : Modules Unit
  channel : Channel
  exchanges : List Exchange
  network : Network
  patience : Duration

/-- A delivery that was made: who asked for it, when the call began, and when it was made. -/
structure Delivery where
  caller : String
  started : Instant
  finished : Instant
  deriving DecidableEq

/-- The module and the clock between two calls. -/
structure Progress where
  state : State
  now : Instant

namespace Progress

def call (p : Progress) (ask : Ask) : Invocation :=
  ⟨ask.args, ask.author, p.now + ask.wait, ask.modules, ask.channel, ask.exchanges⟩

/-- What a call comes to. -/
def ending (p : Progress) (ask : Ask) : Ending State :=
  (run ask.network p.state (p.call ask)).within ask.patience

def after (p : Progress) (ask : Ask) : Progress :=
  ⟨(p.ending ask).effects.body, (p.call ask).now + (p.ending ask).elapsed⟩

/-- The delivery that a call makes, if it does. -/
def delivery? (p : Progress) (ask : Ask) : Option Delivery :=
  if delivers (p.call ask) (p.ending ask).effects then
    some ⟨ask.author.id, (p.call ask).now, (p.after ask).now⟩
  else none

def afterAll (p : Progress) (asks : List Ask) : Progress := asks.foldl after p

/-- The deliveries that calls make, in order. -/
def deliveries (p : Progress) : List Ask → List Delivery
  | [] => []
  | ask :: rest => (p.delivery? ask).toList ++ (p.after ask).deliveries rest

theorem now_le_call (p : Progress) (ask : Ask) : p.now ≤ (p.call ask).now := Nat.le_add_right _ _

theorem call_le_after (p : Progress) (ask : Ask) : (p.call ask).now ≤ (p.after ask).now :=
  Nat.le_add_right _ _

/-- The submode or the cooldown of its author keeps the call out. -/
def IsHeld (p : Progress) (ask : Ask) : Prop :=
  p.state.isClosedTo ask.author = true ∨
    p.state.cooldowns.status ask.author.id (p.call ask).now ≠ .ready

theorem ending_of_isHeld {p : Progress} {ask : Ask} (h : p.IsHeld ask) :
    p.ending ask = ⟨0, ⟨p.state, ask.channel, ask.exchanges⟩, some (.ok .veto)⟩ := by
  have hrun : run ask.network p.state (p.call ask) =
      .instant p.state ask.channel ask.exchanges (.ok .veto) := run_of_isHeld ask.network h
  rw [ending, hrun, Run.within_instant]

theorem isSettled_ending {p : Progress} {ask : Ask} (h : ¬ p.IsHeld ask) :
    IsSettled p.state (p.call ask) (p.call ask).now (p.ending ask) := by
  have hheld : ¬ Request.IsHeld p.state (p.call ask) := h
  exact isSettled_run ask.network hheld ask.patience

theorem vetoed_iff_isHeld (p : Progress) (ask : Ask) :
    (p.ending ask).result = some (.ok .veto) ↔ p.IsHeld ask := by
  by_cases hheld : p.IsHeld ask
  · exact iff_of_true (by rw [ending_of_isHeld hheld]) hheld
  · exact iff_of_false (isSettled_ending hheld).answered hheld

theorem delivery?_of_isHeld {p : Progress} {ask : Ask} (h : p.IsHeld ask) :
    p.delivery? ask = none := by
  have hnothing : delivers (p.call ask) ⟨p.state, ask.channel, ask.exchanges⟩ = false := by
    simp [delivers, call]
  rw [delivery?, ending_of_isHeld h, hnothing]
  rfl

theorem eq_of_delivery? {p : Progress} {ask : Ask} {d : Delivery} (h : p.delivery? ask = some d) :
    d = ⟨ask.author.id, (p.call ask).now, (p.after ask).now⟩ := by
  unfold delivery? at h
  split at h
  · exact (Option.some.inj h).symm
  · cases h

/-- A call charges its author for the delivery that it makes, when it is made, and nothing else. -/
theorem cooldowns_after (p : Progress) (ask : Ask) :
    (p.after ask).state.cooldowns = (p.delivery? ask).elim p.state.cooldowns fun d =>
      p.state.cooldowns.charge d.caller d.finished := by
  by_cases hheld : p.IsHeld ask
  · rw [delivery?_of_isHeld hheld, after, ending_of_isHeld hheld]
    rfl
  · have hcooldowns := (isSettled_ending hheld).cooldowns
    unfold delivery?
    split at hcooldowns
    · rename_i hdelivers
      rw [if_pos hdelivers]
      exact hcooldowns
    · rename_i hdelivers
      rw [if_neg hdelivers]
      exact hcooldowns

/-- Nothing but a delivery to its author changes from when on a viewer may try again. -/
theorem status_after (p : Progress) (ask : Ask) {id : String}
    (hid : (p.delivery? ask).isSome → id ≠ ask.author.id) (moment : Instant) :
    (p.after ask).state.cooldowns.status id moment = p.state.cooldowns.status id moment := by
  rw [cooldowns_after]
  cases hdelivery : p.delivery? ask with
  | none => rfl
  | some d =>
      have hne : id ≠ d.caller := by
        rw [eq_of_delivery? hdelivery]
        exact hid (by rw [hdelivery]; rfl)
      exact p.state.cooldowns.status_charge_of_ne hne d.finished moment

/-- The module knows the latest delivery of each viewer, and no two deliveries of one viewer were
too close. -/
structure Tracks (p : Progress) (cooldown : Duration) (past : List Delivery) : Prop where
  span : p.state.cooldowns.cooldown = cooldown
  known : ∀ d ∈ past, ∃ last, p.state.cooldowns.lastSuccess.get? d.caller = some last ∧
    d.finished ≤ last
  source : ∀ id last, p.state.cooldowns.lastSuccess.get? id = some last →
    ∃ d ∈ past, d.caller = id ∧ d.finished = last
  timely : ∀ d ∈ past, d.started ≤ d.finished ∧ d.finished ≤ p.now
  spaced : past.Pairwise fun a b => a.caller = b.caller → a.finished + cooldown ≤ b.started

theorem Tracks.status_eq_ready_iff {p : Progress} {cooldown : Duration} {past : List Delivery}
    (h : p.Tracks cooldown past) (id : String) {moment : Instant} (hmoment : p.now ≤ moment) :
    p.state.cooldowns.status id moment = .ready ↔
      ∀ d ∈ past, d.caller = id → d.finished + cooldown ≤ moment := by
  rw [CallerCooldowns.status_eq_ready_iff, h.span]
  constructor
  · rintro hlast d hd rfl
    obtain ⟨last, hget, hle⟩ := h.known d hd
    obtain ⟨latest, hlatest, -, rfl⟩ := h.source d.caller last hget
    have hpast : latest.finished ≤ moment := Nat.le_trans (h.timely latest hlatest).2 hmoment
    calc d.finished + cooldown ≤ latest.finished + (moment - latest.finished) :=
          Nat.add_le_add hle (hlast _ hget)
      _ = moment := Nat.add_sub_of_le hpast
  · intro hpast last hget
    obtain ⟨d, hd, hcaller, rfl⟩ := h.source id last hget
    exact Nat.le_sub_of_add_le' (hpast d hd hcaller)

theorem Tracks.of_cooldowns_eq {p p' : Progress} {cooldown : Duration} {past : List Delivery}
    (h : p.Tracks cooldown past) (hcooldowns : p'.state.cooldowns = p.state.cooldowns)
    (hnow : p.now ≤ p'.now) : p'.Tracks cooldown past where
  span := by rw [hcooldowns, h.span]
  known := by rw [hcooldowns]; exact h.known
  source := by rw [hcooldowns]; exact h.source
  timely := fun d hd => ⟨(h.timely d hd).1, Nat.le_trans (h.timely d hd).2 hnow⟩
  spaced := h.spaced

theorem Tracks.of_charge {p p' : Progress} {cooldown : Duration} {past : List Delivery}
    (h : p.Tracks cooldown past) {caller : String} {started : Instant} (hnow : p.now ≤ started)
    (hstarted : started ≤ p'.now) (hready : p.state.cooldowns.status caller started = .ready)
    (hcooldowns : p'.state.cooldowns = p.state.cooldowns.charge caller p'.now) :
    p'.Tracks cooldown (past ++ [⟨caller, started, p'.now⟩]) where
  span := by rw [hcooldowns]; exact h.span
  known := by
    rw [hcooldowns]
    intro d hd
    simp only [CallerCooldowns.get?_charge]
    rcases List.mem_append.1 hd with hd | hd
    · -- an earlier success of the same caller gives way to one that is no earlier
      split
      · exact ⟨_, rfl, Nat.le_trans (h.timely d hd).2 (Nat.le_trans hnow hstarted)⟩
      · exact h.known d hd
    · obtain rfl := List.mem_singleton.1 hd
      exact ⟨p'.now, if_pos rfl, Nat.le_refl _⟩
  source := by
    rw [hcooldowns]
    intro id last hget
    simp only [CallerCooldowns.get?_charge] at hget
    split at hget
    · rename_i hid
      exact ⟨_, List.mem_append_right _ List.mem_cons_self, hid.symm, Option.some.inj hget⟩
    · obtain ⟨d, hd, hsource⟩ := h.source id last hget
      exact ⟨d, List.mem_append_left _ hd, hsource⟩
  timely := by
    intro d hd
    rcases List.mem_append.1 hd with hd | hd
    · exact ⟨(h.timely d hd).1, Nat.le_trans (h.timely d hd).2 (Nat.le_trans hnow hstarted)⟩
    · obtain rfl := List.mem_singleton.1 hd
      exact ⟨hstarted, Nat.le_refl _⟩
  spaced := by
    refine List.pairwise_append.2 ⟨h.spaced, List.pairwise_singleton _ _, fun a ha b hb => ?_⟩
    obtain rfl := List.mem_singleton.1 hb
    exact (h.status_eq_ready_iff caller hnow).1 hready a ha

/-- What the module knows goes on with every call. -/
theorem Tracks.after {p : Progress} {cooldown : Duration} {past : List Delivery}
    (h : p.Tracks cooldown past) (ask : Ask) :
    (p.after ask).Tracks cooldown (past ++ (p.delivery? ask).toList) := by
  have hcooldowns := p.cooldowns_after ask
  cases hdelivery : p.delivery? ask with
  | none =>
      rw [hdelivery] at hcooldowns
      rw [Option.toList_none, List.append_nil]
      exact h.of_cooldowns_eq hcooldowns (Nat.le_trans (p.now_le_call ask) (p.call_le_after ask))
  | some d =>
      have hheld : ¬ p.IsHeld ask := fun hheld => by
        rw [delivery?_of_isHeld hheld] at hdelivery
        cases hdelivery
      have hready := Decidable.not_not.1 (not_or.1 hheld).2
      rw [hdelivery, eq_of_delivery? hdelivery] at hcooldowns
      rw [eq_of_delivery? hdelivery]
      exact h.of_charge (p.now_le_call ask) (p.call_le_after ask) hready hcooldowns

theorem Tracks.afterAll {p : Progress} {cooldown : Duration} {past : List Delivery}
    (h : p.Tracks cooldown past) (asks : List Ask) :
    (p.afterAll asks).Tracks cooldown (past ++ p.deliveries asks) := by
  induction asks generalizing p past with
  | nil =>
      rw [deliveries, List.append_nil]
      exact h
  | cons ask rest ih =>
      rw [deliveries, ← List.append_assoc]
      exact ih (h.after ask)

theorem tracks_of_build {network : Network} {before : List Exchange} {options : Json.Options}
    {state : State} (h : (build network before options).1 = .ok state) (now : Instant) :
    Tracks ⟨state, now⟩ (Duration.seconds state.settings.cooldown) [] := by
  have hcooldowns := (eq_of_build h).2
  exact
    { span := by rw [hcooldowns]; rfl
      known := fun d hd => absurd hd List.not_mem_nil
      source := fun id last hget => by
        rw [hcooldowns, CallerCooldowns.start, KeyMap.get?_empty] at hget
        cases hget
      timely := fun d hd => absurd hd List.not_mem_nil
      spaced := .nil }

end Progress

/-- Whoever calls a newly built module, with whatever arguments, however the network behaves and
whenever calls are cut off: two deliveries that one viewer asked for lie apart by at least the
cooldown, from when the first was made to when the call for the second began. A call that the
submode does not keep out is vetoed exactly if its author got a delivery less than the cooldown
before. And nothing but a delivery to the author changes from when on a viewer may try again. -/
theorem deliveries_are_spaced {network : Network} {before : List Exchange} {options : Json.Options}
    {state : State} (hbuild : (build network before options).1 = .ok state) (origin : Instant)
    (asks : List Ask) :
    let cooldown := Duration.seconds state.settings.cooldown
    let p := Progress.afterAll ⟨state, origin⟩ asks
    let past := Progress.deliveries ⟨state, origin⟩ asks
    (past.Pairwise fun a b => a.caller = b.caller → a.finished + cooldown ≤ b.started) ∧
    (∀ d ∈ past, d.started ≤ d.finished ∧ d.finished ≤ p.now) ∧
    ∀ ask,
      (p.state.isClosedTo ask.author = false →
        ((p.ending ask).result = some (.ok .veto) ↔
          ∃ d ∈ past, d.caller = ask.author.id ∧ (p.call ask).now < d.finished + cooldown)) ∧
      ∀ id, ((p.delivery? ask).isSome → id ≠ ask.author.id) → ∀ moment,
        (p.after ask).state.cooldowns.status id moment = p.state.cooldowns.status id moment := by
  intro cooldown p past
  have htracks : p.Tracks cooldown past :=
    (Progress.tracks_of_build hbuild origin).afterAll asks
  refine ⟨htracks.spaced, htracks.timely, fun ask => ⟨fun hopen => ?_, fun id hid moment => ?_⟩⟩
  · have hready := htracks.status_eq_ready_iff ask.author.id (p.now_le_call ask)
    rw [p.vetoed_iff_isHeld, Progress.IsHeld, hopen, or_iff_right Bool.false_ne_true, ne_eq, hready]
    simp only [Classical.not_forall, Nat.not_le, exists_prop]
  · exact p.status_after ask hid moment

/-- A service that knows one user and one beatmap, and an account that takes every message, both
with some delay. -/
def slowNetwork : Network :=
  ⟨fun _ _ => ⟨2, .ok ⟨200, "[\x7b\"username\":\"bot\",\"beatmap_id\":\"5\"\x7d]"⟩⟩,
    fun _ _ => ⟨3, .ok ()⟩⟩

/-- A viewer asks for that beatmap. -/
def askFor (wait : Duration) (id : String) : Ask :=
  { wait := wait, author := ⟨id, "viewer", false, false, false⟩, args := ["https://osu.ppy.sh/b/5"]
    modules := .empty, channel := .start "room" "!" .empty 0, exchanges := []
    network := slowNetwork, patience := Duration.seconds 30 }

/-- Two viewers get deliveries. The first of them asks again a moment too early, or just in time. -/
theorem deliveries_are_spaced_hasty :
    let options := defaults.insertAll [("cd_per_user", .integer 60), ("osu_api_key", .string "key")]
    let asks := [askFor 0 "1", askFor 1 "2"]
    ∃ state, (build slowNetwork [] options).1 = .ok state ∧
      let p := Progress.afterAll ⟨state, 0⟩ asks
      Progress.deliveries ⟨state, 0⟩ asks = [⟨"1", 0, 5⟩, ⟨"2", 6, 11⟩] ∧
      (p.ending (askFor (Duration.seconds 60 - 7) "1")).result = some (.ok .veto) ∧
      (p.ending (askFor (Duration.seconds 60 - 6) "1")).result ≠ some (.ok .veto) := by
  intro options asks
  have hrun : (build slowNetwork [] options).1.toOption.map (fun state =>
      let p := Progress.afterAll ⟨state, 0⟩ asks
      (Progress.deliveries ⟨state, 0⟩ asks, p.now, p.state.isClosedTo (askFor 0 "1").author,
        state.settings.cooldown)) =
      some ([⟨"1", 0, 5⟩, ⟨"2", 6, 11⟩], 11, false, 60) := by
    decide +kernel
  obtain ⟨state, hbuild, hresult⟩ := exists_of_toOption_map_eq_some hrun
  simp only [Prod.mk.injEq] at hresult
  obtain ⟨hdeliveries, hnow, hopen, hcooldown⟩ := hresult
  obtain ⟨-, -, hask⟩ := deliveries_are_spaced hbuild 0 asks
  rw [hdeliveries, hcooldown] at hask
  have hearly := (hask (askFor (Duration.seconds 60 - 7) "1")).1 hopen
  have hlate := (hask (askFor (Duration.seconds 60 - 6) "1")).1 hopen
  refine ⟨state, hbuild, hdeliveries, hearly.2 ⟨⟨"1", 0, 5⟩, List.mem_cons_self, rfl, ?_⟩,
    fun h => ?_⟩
  · rw [Progress.call, hnow]
    decide
  · obtain ⟨d, hd, hcaller, hlt⟩ := hlate.1 h
    simp only [List.mem_cons, List.not_mem_nil, or_false] at hd
    rcases hd with rfl | rfl
    · rw [Progress.call, hnow] at hlt
      exact absurd hlt (by decide)
    · exact absurd hcaller (by decide)

end Request

end CommandBot
