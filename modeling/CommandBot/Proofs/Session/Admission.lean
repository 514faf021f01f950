import CommandBot.Proofs.Session.LastUse

/-!
# The marks after a line

A line that is stopped at a gate leaves the session as it is. One that is admitted marks the command
that it names, before its response is resolved, and of all that the response does only a removal
touches a mark: it forgets that of the command that is removed, be it the line's own (`Marked`). So
the marks after a line follow from those before it, the command, and the removals
(`marks_after_line`).
-/

namespace CommandBot

theorem Outcome.isStopped_iff {outcome : Outcome} :
    outcome.isStopped = true ↔ ∃ why, outcome = .ignored why ∧ why ≠ .emptyResponse := by
  cases outcome with
  | ignored why =>
      cases why with
      | emptyResponse =>
          refine iff_of_false Bool.false_ne_true ?_
          rintro ⟨why, hwhy, hne⟩
          exact hne (Outcome.ignored.inj hwhy).symm
      | _ => exact iff_of_true rfl ⟨_, rfl, Ignored.noConfusion⟩
  | _ =>
      refine iff_of_false Bool.false_ne_true ?_
      rintro ⟨why, hwhy, -⟩
      cases hwhy

theorem Outcome.reply_of_isStopped {outcome : Outcome} (h : outcome.isStopped = true) :
    outcome.reply = none := by
  obtain ⟨why, rfl, -⟩ := Outcome.isStopped_iff.1 h
  rfl

/-- What a line leaves that was admitted for a command: the commands that have been removed have no
mark, the command itself that of the moment, and the others the mark that they had. -/
structure Marked {ι : Type} (before : Scene ι) (command : Command) (removed : List String)
    (after : Scene ι) : Prop where
  lastUse : ∀ name, after.channel.cooldowns.lastUse.get? name =
    if name ∈ removed then none
    else if name = command.name then some before.now
    else before.channel.cooldowns.lastUse.get? name
  complete : ∀ name found, before.channel.commands.byName.get? name = some found →
    after.channel.commands.byName.get? name = none → name ∈ removed

variable {ι : Type}

theorem marked_charged (scene : Scene ι) (command : Command) :
    Marked scene command [] (Dispatch.charged command scene) := by
  refine ⟨fun name => ?_, fun name found hget hnone => ?_⟩
  · rw [Dispatch.get?_lastUse_charged, if_neg List.not_mem_nil]
  · have hsame : scene.channel.commands.byName.get? name = none := hnone
    rw [hget] at hsame
    cases hsame

/-- A call in the middle of the response, with the removals that it makes. -/
theorem Marked.lose {before current after : Scene ι} {command : Command} {removed : List String}
    (h : Marked before command removed current)
    (hcommands : current.channel.commands.WellFormed)
    (hkeeps : KeepsUses current.channel after.channel) :
    Marked before command (removed ++ Template.lost current after) after := by
  refine ⟨fun name => ?_, fun name found hget hnone => ?_⟩
  · rw [hkeeps.get?_lastUse hcommands, h.lastUse]
    by_cases hlost : name ∈ Template.lost current after
    · rw [if_pos hlost, if_pos (List.mem_append_right _ hlost)]
    · rw [if_neg hlost]
      simp [hlost]
  · cases hcurrent : current.channel.commands.byName.get? name with
    | none => exact List.mem_append_left _ (h.complete name found hget hcurrent)
    | some other =>
        exact List.mem_append_right _ (Template.mem_lost_iff.2 ⟨⟨other, hcurrent⟩, hnone⟩)

namespace Dispatch

/-- The marks that the response to a command leaves. -/
theorem marked_respond (network : Network) (request : Template.Request) (command : Command)
    (args : List String) {scene : Scene (Builtin ⊕ Canned)}
    (hcommands : scene.channel.commands.WellFormed) :
    Marked scene command
      (Template.lostIn network request (Template.isAlone command.response.toList)
        (Template.Piece.scan command.response.toList) args (charged command scene))
      (respond network request command args (charged command scene)).2 := by
  have hstart : (charged command scene).channel.commands.WellFormed ∧
      Marked scene command [] (charged command scene) :=
    ⟨hcommands, marked_charged scene command⟩
  refine (respond_induction (p := fun removed current =>
    current.channel.commands.WellFormed ∧ Marked scene command removed current) hstart
    fun removed before after hkeeps _ hbefore => ?_).2
  exact ⟨hkeeps.wellFormed hbefore.1, hbefore.2.lose hbefore.1 hkeeps⟩

end Dispatch

namespace Session

/-- The marks after a line. A line that is ignored for any reason but an empty response is answered
with nothing and leaves the whole session as it is, the moment included. Any other line was admitted
for the command that it names, whatever became of the response: that command is marked with the
moment of the admission, before the response took any time, a command that the response removed has
no mark, be it the same command, and every other mark is what it was. -/
theorem marks_after_line (network : Network) (patience : Duration) (author : Author)
    (text : String) (s : Session (Builtin ⊕ Canned)) :
    let outcome := (s.handle network patience author text).1
    let after := (s.handle network patience author text).2
    (∀ why, outcome = .ignored why → why ≠ .emptyResponse →
      outcome.reply = none ∧ after = s) ∧
    ((∀ why, outcome = .ignored why → why = .emptyResponse) →
      s.scene.channel.commands.WellFormed →
      ∃ command args, ∃ removed : List String,
        Dispatch.named? s.scene.channel text = some (command, args) ∧
        (command.modOnly = true → author.isModerator = true) ∧
        s.eventsOf network patience (.line author text) =
          .admitted command.name s.scene.now :: removed.map .removed ∧
        Marked s.scene command removed after.scene) := by
  intro outcome after
  have houtcome : outcome =
      (Dispatch.dispatch network ⟨author, patience⟩ text s.scene).1 := outcome_handle _ _ _ _ _
  have hafter : after =
      { s with scene := (Dispatch.dispatch network ⟨author, patience⟩ text s.scene).2 } :=
    session_handle _ _ _ _ _
  refine ⟨fun why hwhy hne => ?_, fun hopen hcommands => ?_⟩
  · have hstopped : outcome.isStopped = true := Outcome.isStopped_iff.2 ⟨why, hwhy, hne⟩
    refine ⟨Outcome.reply_of_isStopped hstopped, ?_⟩
    rw [houtcome] at hstopped
    rw [hafter, Dispatch.scene_of_isStopped hstopped]
  · have hadmitted : outcome.isStopped = false := by
      rw [← Bool.not_eq_true, Outcome.isStopped_iff]
      rintro ⟨why, hwhy, hne⟩
      exact hne (hopen why hwhy)
    rw [houtcome] at hadmitted
    rcases Dispatch.dispatch_cases network ⟨author, patience⟩ text s.scene with
      ⟨hstopped, -⟩ | ⟨command, args, hnamed, hpermitted, hrespond⟩
    · rw [hadmitted] at hstopped
      cases hstopped
    · have hmarked := Dispatch.marked_respond network ⟨author, patience⟩ command args hcommands
      rw [← hrespond] at hmarked
      rw [hafter]
      exact ⟨command, args, _, hnamed, hpermitted,
        Dispatch.events_of_admitted hnamed hadmitted, hmarked⟩

/-- Of three commands, `a` is used and is then on cooldown. Another line for it changes nothing; a
line for `x`, which removes itself and `b`, leaves of their marks only that of `a`. -/
theorem marks_after_line_removed :
    let config : Channel.Config :=
      ⟨"r!", .ofList [("a", { cooldown := 60, response := "hi" }), ("b", { response := "ho" }),
        ("x", { response := "&cmddel& &cmddel&" })], [], .empty⟩
    let ann : Author := ⟨"1", "ann", false, false, false⟩
    let catalogue : Catalogue (Builtin ⊕ Canned) := Builtin.catalogue.map fun k => k.map .inl
    let turns : List Turn := [.line ann "r!a", .line ann "r!b", .wait (Duration.seconds 5)]
    ∃ start, Session.start catalogue .down 0 [] "room" config = .ok start ∧
      let s := start.play .down 0 turns
      let after := (s.handle .down 0 ann "r!x X b").2.scene.channel.cooldowns.lastUse
      (s.handle .down 0 ann "r!a").2 = s ∧ after.get? "a" = some 0 ∧ after.get? "b" = none ∧
        after.get? "x" = none := by
  intro config ann catalogue turns
  have hrun : ((Session.start catalogue .down 0 [] "room" config).toOption.map fun start =>
      let s := start.play .down 0 turns
      ((s.handle .down 0 ann "r!a").1, (s.handle .down 0 ann "r!x X b").1,
        s.eventsOf .down 0 (.line ann "r!x X b"), s.scene.channel.cooldowns.lastUse.get? "a")) =
      some (.ignored (.onCooldown "a" (Duration.seconds 55)),
        .sent "Command x removed successfully. Command b removed successfully.",
        [.admitted "x" (Duration.seconds 5), .removed "x", .removed "b"], some 0) := by
    decide +kernel
  obtain ⟨start, hstart, hrun⟩ := exists_of_toOption_map_eq_some hrun
  obtain ⟨hearly, hrun⟩ := Prod.mk.inj hrun
  obtain ⟨hsent, hrun⟩ := Prod.mk.inj hrun
  obtain ⟨hevents, hlast⟩ := Prod.mk.inj hrun
  have hstopped := (marks_after_line .down 0 ann "r!a" (start.play .down 0 turns)).1 _ hearly
    Ignored.noConfusion
  have hcommands := (tracks_play (tracks_of_start hstart) .down 0 turns).wellFormed
  obtain ⟨command, args, removed, -, -, hsame, hmarked⟩ :=
    (marks_after_line .down 0 ann "r!x X b" (start.play .down 0 turns)).2
      (fun why hwhy => by rw [hsent] at hwhy; cases hwhy) hcommands
  rw [hevents] at hsame
  obtain ⟨hadmitted, hremoved⟩ := List.cons.inj hsame
  obtain ⟨hname, -⟩ := UseEvent.admitted.inj hadmitted
  have hgone : removed = ["x", "b"] :=
    (List.map_inj_right fun _ _ => UseEvent.removed.inj).1 hremoved.symm
  refine ⟨start, hstart, hstopped.2, ?_, ?_, ?_⟩
  · rw [hmarked.lastUse, hgone, ← hname, ← hlast]
    exact (if_neg (by decide)).trans (if_neg (by decide))
  · rw [hmarked.lastUse, hgone]
    exact if_pos (by decide)
  · rw [hmarked.lastUse, hgone]
    exact if_pos (by decide)

end Session

end CommandBot
