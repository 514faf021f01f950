import CommandBot.Proofs.Request.Spacing

/-!
# The ends of a request

`Exit` lists how a call of the module `request` can end, with all that it has done by then: it is
idle, it switches the submode, it asks in vain or is cut off, its delivery fails, or its delivery is
made. Nothing else happens (`exit_within`), so that every effect of a call stands behind its gates
(`effects_behind_gates`).
-/

namespace CommandBot.Request

/-- How a call ends. -/
inductive Exit (network : Network) (state : State) (call : Invocation) : Ending State → Prop
  | idle {result : Except Fault Reply} (hswitches : ¬ Switches state call)
      (hresult : result ≠ .ok (.text Wording.requestSent)) :
      Exit network state call ⟨0, ⟨state, call.channel, call.exchanges⟩, some result⟩
  | switched {text : String} (h : Switches state call) (htext : text ≠ Wording.requestSent) :
      Exit network state call
        ⟨0, ⟨{ state with settings := { state.settings with submode := !state.settings.submode } },
          call.channel.setOption "request" "submode" (.bool !state.settings.submode),
          call.exchanges⟩, some (.ok (.text text))⟩
  /-- No beatmap is found, or the time is over before a delivery is made. -/
  | unanswered {link : MapLink} (h : Passes state call link) (elapsed : Duration)
      {result : Option (Except Fault Reply)}
      (hresult : result ≠ some (.ok (.text Wording.requestSent))) :
      Exit network state call
        ⟨elapsed, ⟨state, call.channel, call.exchanges ++ [.request (state.service.mapsUrl link)]⟩,
          result⟩
  | failed {link : MapLink} {map : Beatmap} (h : Passes state call link)
      (hmap : answered? network state call link = some map) (elapsed : Duration)
      (message words : String) :
      Exit network state call
        ⟨elapsed, ⟨state, call.channel, call.exchanges ++
          [.request (state.service.mapsUrl link),
            .delivery state.settings.endpoint (deliveryText state.identity message) false]⟩,
          some (.error (.moduleFailed ("osu! message delivery failed: " ++ words)))⟩
  | sent {link : MapLink} {map : Beatmap} (h : Passes state call link)
      (hmap : answered? network state call link = some map) (elapsed : Duration)
      (message : String) :
      Exit network state call
        ⟨elapsed, ⟨{ state with
            cooldowns := state.cooldowns.charge call.author.id (call.now + elapsed) },
          call.channel, call.exchanges ++
            [.request (state.service.mapsUrl link),
              .delivery state.settings.endpoint (deliveryText state.identity message) true]⟩,
          some (.ok (.text Wording.requestSent))⟩

variable {network : Network} {state : State} {call : Invocation} {link : MapLink} {map : Beatmap}

theorem text_ne_requestSent {text : String} (h : text ≠ Wording.requestSent) :
    (.ok (.text text) : Except Fault Reply) ≠ .ok (.text Wording.requestSent) :=
  fun heq => h (Reply.text.inj (Except.ok.inj heq))

/-- A delivery that begins after a look-up of the given span. -/
theorem exit_deliver (h : Passes state call link)
    (hmap : answered? network state call link = some map) (span : Duration) (message : String)
    (limit : Duration) :
    Exit network state call
      (((deliver network state call (call.now + span)
        (call.exchanges ++ [.request (state.service.mapsUrl link)]) message).within limit).later
          span) := by
  unfold deliver
  rw [Run.within_after]
  split
  · exact .unanswered h _ (fun hnone => by cases hnone)
  · split
    · simp only [Run.within_instant, Ending.later, List.append_assoc, Nat.add_assoc]
      exact .sent h hmap _ message
    · simp only [Run.within_instant, Ending.later, List.append_assoc]
      exact .failed h hmap _ message _

theorem exit_fulfil (h : Passes state call link) (mods : String) (limit : Duration) :
    Exit network state call ((fulfil network state call link mods).within limit) := by
  unfold fulfil
  rw [Run.within_after]
  split
  · exact .unanswered h _ (fun hnone => by cases hnone)
  · split
    · refine .unanswered h _ fun hsome => ?_
      exact text_ne_requestSent (by decide) (Option.some.inj hsome)
    · rename_i hmap
      exact exit_deliver h hmap _ _ _

/-- However a call is cut off, it ends in one of these ways. -/
theorem exit_within (network : Network) (state : State) (call : Invocation) (limit : Duration) :
    Exit network state call ((run network state call).within limit) := by
  cases course network state call with
  | held h hrun =>
      rw [hrun]
      exact .idle (fun hswitches => hswitches.not_isHeld h) (fun hveto => by cases hveto)
  | switches h hrun =>
      rw [hrun, toggleSubmode]
      refine .switched h ?_
      cases state.settings.submode with
      | false => decide
      | true => decide
  | passes h hrun =>
      rw [hrun]
      exact exit_fulfil h _ limit
  | answers _ hswitches _ htext hrun =>
      rw [hrun]
      exact .idle hswitches (text_ne_requestSent htext)

/-- A beatmap is found only in an answer that holds one. -/
theorem exists_maps_of_answered? (h : answered? network state call link = some map) :
    ∃ maps, listed network state call link = .ok maps ∧ maps ≠ [] := by
  unfold answered? at h
  cases hlisted : listed network state call link with
  | error words =>
      rw [hlisted] at h
      cases h
  | ok maps =>
      refine ⟨maps, rfl, ?_⟩
      rintro rfl
      rw [hlisted] at h
      simp [Except.toOption, hardest?] at h

/-- All that a call has sent, and how it ends: every effect stands behind its gates. -/
structure IsGated (network : Network) (state : State) (call : Invocation) (sent : List Exchange)
    (e : Ending State) : Prop where
  exchanges : e.effects.exchanges = call.exchanges ++ sent
  /-- The service is asked once, behind all gates, and a delivery comes after an answer that holds a
  beatmap. -/
  asked : sent = [] ∨ ∃ link, Passes state call link ∧
    (sent = [.request (state.service.mapsUrl link)] ∨
      ∃ maps text connected,
        readAnswer Beatmap.ofRaw?
          (network.fetch call.exchanges (state.service.mapsUrl link)).answer = .ok maps ∧
        maps ≠ [] ∧
        sent = [.request (state.service.mapsUrl link),
          .delivery state.settings.endpoint text connected])
  reported : e.result = some (.ok (.text Wording.requestSent)) ↔
    sent.any (·.isDelivered) = true
  charged : sent.any (·.isDelivered) = true →
    e.effects.body = { state with
      cooldowns := state.cooldowns.charge call.author.id (call.now + e.elapsed) } ∧
    e.effects.channel = call.channel ∧
    e.effects.body.cooldowns.cooldown = state.cooldowns.cooldown ∧
    ∀ id, e.effects.body.cooldowns.lastSuccess.get? id =
      if id = call.author.id then some (call.now + e.elapsed)
      else state.cooldowns.lastSuccess.get? id
  switched : Switches state call → sent = [] ∧
    e.effects.body =
      { state with settings := { state.settings with submode := !state.settings.submode } } ∧
    e.effects.channel =
      call.channel.setOption "request" "submode" (.bool !state.settings.submode) ∧
    e.effects.channel.unsaved = true
  kept : sent.any (·.isDelivered) = false → ¬ Switches state call →
    e.effects.body = state ∧ e.effects.channel = call.channel
  failed : ∀ endpoint text, .delivery endpoint text false ∈ sent → ∃ words,
    e.result = some (.error (.moduleFailed ("osu! message delivery failed: " ++ words)))

theorem Exit.isGated {e : Ending State} (h : Exit network state call e) :
    ∃ sent, IsGated network state call sent e := by
  cases h with
  | idle hswitches hresult =>
      exact ⟨[],
        { exchanges := (List.append_nil _).symm
          asked := .inl rfl
          reported := iff_of_false (fun h => hresult (Option.some.inj h)) Bool.false_ne_true
          charged := fun h => by cases h
          switched := fun h => absurd h hswitches
          kept := fun _ _ => ⟨rfl, rfl⟩
          failed := fun _ _ h => absurd h List.not_mem_nil }⟩
  | switched h htext =>
      exact ⟨[],
        { exchanges := (List.append_nil _).symm
          asked := .inl rfl
          reported :=
            iff_of_false (fun h => text_ne_requestSent htext (Option.some.inj h)) Bool.false_ne_true
          charged := fun h => by cases h
          switched := fun _ => ⟨rfl, rfl, rfl, rfl⟩
          kept := fun _ hnot => absurd h hnot
          failed := fun _ _ h => absurd h List.not_mem_nil }⟩
  | @unanswered link h elapsed result hresult =>
      exact ⟨[.request (state.service.mapsUrl link)],
        { exchanges := rfl
          asked := .inr ⟨link, h, .inl rfl⟩
          reported := iff_of_false hresult Bool.false_ne_true
          charged := fun h => by cases h
          switched := fun hswitches => absurd h hswitches.not_passes
          kept := fun _ _ => ⟨rfl, rfl⟩
          failed := by simp }⟩
  | @failed link map h hmap elapsed message words =>
      obtain ⟨maps, hmaps, hne⟩ := exists_maps_of_answered? hmap
      exact ⟨[.request (state.service.mapsUrl link), .delivery _ _ false],
        { exchanges := rfl
          asked := .inr ⟨link, h, .inr ⟨maps, _, false, hmaps, hne, rfl⟩⟩
          reported := iff_of_false (fun h => by cases h) Bool.false_ne_true
          charged := fun h => by cases h
          switched := fun hswitches => absurd h hswitches.not_passes
          kept := fun _ _ => ⟨rfl, rfl⟩
          failed := fun _ _ _ => ⟨words, rfl⟩ }⟩
  | @sent link map h hmap elapsed message =>
      obtain ⟨maps, hmaps, hne⟩ := exists_maps_of_answered? hmap
      exact ⟨[.request (state.service.mapsUrl link), .delivery _ _ true],
        { exchanges := rfl
          asked := .inr ⟨link, h, .inr ⟨maps, _, true, hmaps, hne, rfl⟩⟩
          reported := iff_of_true rfl rfl
          charged := fun _ => ⟨rfl, rfl, rfl, CallerCooldowns.get?_charge _ _ _⟩
          switched := fun hswitches => absurd h hswitches.not_passes
          kept := fun h => by cases h
          failed := by simp }⟩

/-- Whoever calls the module with whatever arguments, in whatever state, however the services answer
and whenever the call is cut off: it makes at most one web request, and only behind all its gates;
it makes at most one delivery, and only when the service has answered with a beatmap or more. It
says that the request is sent exactly if the delivery was made, and exactly then the caller is
charged, with the moment at which it was made. The submode is switched, and the choice stored in the
channel, exactly if a moderator who is not on cooldown sends `submode` first. In every other case,
with the failure of a delivery for a fault too, the module and the channel stay as they are. -/
theorem effects_behind_gates (network : Network) (state : State) (call : Invocation)
    (patience : Duration) :
    ∃ sent, IsGated network state call sent ((run network state call).within patience) :=
  (exit_within network state call patience).isGated

/-- A viewer's request is sent and charged, and a moderator closes the requests to viewers. -/
theorem effects_behind_gates_sent :
    let call := requestBy "viewer"
    let switch := { call with args := ["SubMode"], author := ⟨"2", "mod", true, false, false⟩ }
    let e := (run plainNetwork plainState call).within (Duration.seconds 30)
    let e' := (run plainNetwork plainState switch).within (Duration.seconds 30)
    e.result = some (.ok (.text Wording.requestSent)) ∧
      e.effects.body = { plainState with cooldowns := plainState.cooldowns.charge "1" 0 } ∧
      e'.effects.body.settings.submode = true ∧ e'.effects.exchanges = [] := by
  intro call switch e e'
  obtain ⟨sent, hsent⟩ := effects_behind_gates plainNetwork plainState call (Duration.seconds 30)
  obtain ⟨nothing, hnothing⟩ :=
    effects_behind_gates plainNetwork plainState switch (Duration.seconds 30)
  have hrun : (e.elapsed, e.effects.exchanges.any (·.isDelivered)) = (0, true) := by
    decide +kernel
  obtain ⟨helapsed, hany⟩ := Prod.mk.inj hrun
  have hall : e.effects.exchanges = sent := hsent.exchanges
  rw [hall] at hany
  have hcharged : e.effects.body =
      { plainState with cooldowns := plainState.cooldowns.charge "1" (0 + e.elapsed) } :=
    (hsent.charged hany).1
  have hswitches : Switches plainState switch := ⟨rfl, rfl, "SubMode", rfl, by decide +kernel⟩
  obtain ⟨rfl, hbody, -, -⟩ := hnothing.switched hswitches
  rw [helapsed] at hcharged
  exact ⟨hsent.reported.2 hany, hcharged, congrArg (·.settings.submode) hbody,
    hnothing.exchanges⟩

end CommandBot.Request
