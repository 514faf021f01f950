import CommandBot.Proofs.Module.Runs
import CommandBot.Proofs.Request.Gates
import CommandBot.Proofs.Request.Message

/-!
# What a request sends

A call of the module sends nothing, or looks a beatmap up, or looks it up and delivers the message
about it (`always_sent`). A delivery is the five lines of its conversation and no others exactly if
all that the placeholders of the format stand for is single lines. The texts of the beatmap and the
name of the requester are put in as they are, so that a line break in them makes lines of its own.
-/

namespace CommandBot.Request

/-- The message of a call about a beatmap. -/
def messageAbout (state : State) (call : Invocation) (map : Beatmap) : String :=
  formatMessage state.settings.messageFormat map (requestedMods call) call.author

/-- What a call sends. -/
inductive Sent (network : Network) (state : State) (call : Invocation) : List Exchange → Prop
  | nothing : Sent network state call []
  | lookedUp (link : MapLink) : Sent network state call [.request (state.service.mapsUrl link)]
  | delivered {link : MapLink} {map : Beatmap}
      (hmap : answered? network state call link = some map) (connected : Bool) :
      Sent network state call
        [.request (state.service.mapsUrl link),
          .delivery state.settings.endpoint
            (deliveryText state.identity (messageAbout state call map)) connected]

/-- What a call has sent by some point of its run is on the list. -/
def HasSent (network : Network) (state : State) (call : Invocation) (e : Effects State) : Prop :=
  ∃ sent, e.exchanges = call.exchanges ++ sent ∧ Sent network state call sent

section Sent

variable {network : Network} {state : State} {call : Invocation}

theorem hasSent_nothing (body : State) (channel : Channel) :
    HasSent network state call ⟨body, channel, call.exchanges⟩ :=
  ⟨[], (List.append_nil _).symm, .nothing⟩

theorem hasSent_lookedUp (body : State) (channel : Channel) (link : MapLink) :
    HasSent network state call
      ⟨body, channel, call.exchanges ++ [.request (state.service.mapsUrl link)]⟩ :=
  ⟨_, rfl, .lookedUp link⟩

theorem always_sent_deliver {link : MapLink} {map : Beatmap}
    (hmap : answered? network state call link = some map) (now : Instant) :
    (deliver network state call now (call.exchanges ++ [.request (state.service.mapsUrl link)])
      (messageAbout state call map)).Always (HasSent network state call) := by
  have hdelivered : ∀ body channel connected, HasSent network state call
      ⟨body, channel, call.exchanges ++ [.request (state.service.mapsUrl link)] ++
        [.delivery state.settings.endpoint
          (deliveryText state.identity (messageAbout state call map)) connected]⟩ :=
    fun _ _ connected => ⟨_, List.append_assoc _ _ _, .delivered hmap connected⟩
  unfold deliver
  refine Run.Always.after ?_ (hasSent_lookedUp _ _ link)
  split
  · exact Run.always_instant (hdelivered _ _ true) _
  · exact Run.always_instant (hdelivered _ _ false) _

theorem always_sent_fulfil (link : MapLink) :
    (fulfil network state call link (requestedMods call)).Always (HasSent network state call) := by
  unfold fulfil
  refine Run.Always.after ?_ (hasSent_lookedUp _ _ link)
  split
  · exact Run.always_instant (hasSent_lookedUp _ _ link) _
  · rename_i hmap
    exact always_sent_deliver hmap _

/-- Whatever a call has sent when it ends or is cut off is on the list. -/
theorem always_sent (network : Network) (state : State) (call : Invocation) :
    (run network state call).Always (HasSent network state call) := by
  cases course network state call with
  | held _ hrun =>
      rw [hrun]
      exact Run.always_instant (hasSent_nothing _ _) _
  | switches _ hrun =>
      rw [hrun]
      exact Run.always_instant (hasSent_nothing _ _) _
  | passes _ hrun =>
      rw [hrun]
      exact always_sent_fulfil _
  | answers _ _ _ _ hrun =>
      rw [hrun]
      exact Run.always_instant (hasSent_nothing _ _) _

/-- A request that nothing holds back, for a beatmap that is found, is delivered if the account can
be reached. -/
theorem exchanges_of_answered {word : String} {rest : List String} {link : MapLink}
    {map : Beatmap} (hopen : (state.settings.submode && !call.author.isPrivileged) = false)
    (hready : state.cooldowns.status call.author.id call.now = .ready)
    (hargs : call.args = word :: rest) (hword : Text.lower word ≠ "submode")
    (hlink : parseLink (Text.lower word) = some link)
    (hmap : answered? network state call link = some map)
    (hconnect : (network.connect (call.exchanges ++ [.request (state.service.mapsUrl link)])
      state.settings.endpoint).answer = .ok ()) :
    (run network state call).effects.exchanges = call.exchanges ++
      [.request (state.service.mapsUrl link), .delivery state.settings.endpoint
        (deliveryText state.identity (messageAbout state call map)) true] := by
  have hmods : (rest.head?.map modsText).getD "" = requestedMods call := by
    rw [requestedMods, hargs]
    rfl
  unfold run
  simp only [hopen, hready, hargs, handle, hword, hlink, hmods, fulfil, hmap, deliver, hconnect]
  simp [Run.after, Run.instant, messageAbout]

end Sent

/-! ### The lines of a delivery -/

/-- The password and both names are single lines. -/
structure Identity.IsSingleLine (who : Identity) : Prop where
  password : Request.IsSingleLine who.password
  sender : Request.IsSingleLine who.sender
  recipient : Request.IsSingleLine who.recipient

theorem forall_isSingleLine_deliveryLines {who : Identity} (hwho : who.IsSingleLine)
    {message : String} (hmessage : IsSingleLine message) :
    ∀ line ∈ deliveryLines who message, IsSingleLine line := by
  simp only [deliveryLines, List.forall_mem_cons, isSingleLine_append, hwho.password, hwho.sender,
    hwho.recipient, hmessage, and_true]
  decide

theorem isWrittenAs_deliveryText {who : Identity} (hwho : who.IsSingleLine) {message : String}
    (hmessage : IsSingleLine message) :
    IsWrittenAs (deliveryText who message) (deliveryLines who message) :=
  ⟨rfl, forall_isSingleLine_deliveryLines hwho hmessage⟩

/-- A delivery that can be read as five single lines at all has a message that is a single line. -/
theorem isSingleLine_of_isWrittenAs_deliveryText {who : Identity} {message : String}
    {lines : List String} (h : IsWrittenAs (deliveryText who message) lines)
    (hfive : lines.length = 5) : IsSingleLine message := by
  have hline : "PRIVMSG " ++ who.recipient ++ " :" ++ message ∈ deliveryLines who message := by
    simp [deliveryLines]
  have hsingle : IsSingleLine ("PRIVMSG " ++ who.recipient ++ " :" ++ message) :=
    ⟨not_mem_of_length_eq (by decide) (fun line hl => (h.2 line hl).1) h.1 hfive _ hline,
      not_mem_of_length_eq (by decide) (fun line hl => (h.2 line hl).2) h.1 hfive _ hline⟩
  exact (isSingleLine_append.1 hsingle).2

/-- All that the placeholders of the format stand for in a call about a beatmap is single lines. -/
def PutsInSingleLines (state : State) (call : Invocation) (map : Beatmap) : Prop :=
  ∀ word, .token word ∈ Template.Piece.scan state.settings.messageFormat.toList →
    ∀ value ∈ fieldValue? (Template.tokenName word) map (requestedMods call) call.author,
      IsSingleLine value

theorem isSingleLine_requestedMods (call : Invocation) : IsSingleLine (requestedMods call) := by
  unfold requestedMods
  cases call.args.tail.head? with
  | none => decide
  | some text => exact isSingleLine_modsText text

/-- Whatever the arguments and the service: what a call delivers is about a beatmap that the
service answered, and it is the five lines of its conversation if all that the placeholders of the
format stand for is single lines, and no five lines otherwise. The name of the requester and the
wording of the beatmap are all that this hangs on. -/
theorem delivered_lines (network : Network) (state : State) (call : Invocation)
    (hwho : state.identity.IsSingleLine) (hformat : IsSingleLine state.settings.messageFormat) :
    (run network state call).Always fun e => ∃ sent, e.exchanges = call.exchanges ++ sent ∧
      ∀ endpoint text connected, .delivery endpoint text connected ∈ sent →
        ∃ link map, answered? network state call link = some map ∧
          endpoint = state.settings.endpoint ∧
          text = deliveryText state.identity (messageAbout state call map) ∧
          (PutsInSingleLines state call map →
            IsWrittenAs text (deliveryLines state.identity (messageAbout state call map))) ∧
          (∀ lines, IsWrittenAs text lines → lines.length = 5 → PutsInSingleLines state call map) ∧
          (IsSingleLine call.author.name → (∀ wording ∈ map.wording, IsSingleLine wording) →
            PutsInSingleLines state call map) := by
  refine (always_sent network state call).mono fun e ⟨sent, hexchanges, hsent⟩ =>
    ⟨sent, hexchanges, fun endpoint text connected hmem => ?_⟩
  cases hsent with
  | nothing => cases hmem
  | lookedUp link => simp at hmem
  | @delivered link map hmap connected =>
      obtain ⟨rfl, rfl, -⟩ : endpoint = state.settings.endpoint ∧
          text = deliveryText state.identity (messageAbout state call map) ∧ _ := by
        simpa using hmem
      have hmessage :
          IsSingleLine (messageAbout state call map) ↔ PutsInSingleLines state call map :=
        isSingleLine_formatMessage_iff hformat
      refine ⟨link, map, hmap, rfl, rfl, fun hvalues => ?_, fun lines hlines hfive => ?_,
        fun hname hwording word _ => ?_⟩
      · exact isWrittenAs_deliveryText hwho (hmessage.2 hvalues)
      · exact hmessage.1 (isSingleLine_of_isWrittenAs_deliveryText hlines hfive)
      · exact isSingleLine_of_fieldValue? hname hwording (isSingleLine_requestedMods call) _

/-- A service that knows one beatmap, and an account that takes every message. -/
def plainNetwork : Network :=
  ⟨fun _ _ => ⟨0, .ok ⟨200, "[\x7b\"beatmap_id\":\"5\",\"title\":\"Song\"\x7d]"⟩⟩,
    fun _ _ => ⟨0, .ok ()⟩⟩

def plainMap : Beatmap :=
  ⟨"5", "", "", "", "", "", "", "", "", "", "", "", "", "", none, "Song", none, "", ""⟩

def plainState : State :=
  { settings := ⟨"1", "key", "pw", "2", "&requester& requested &songtitle&", 0, false,
      "https://osu.ppy.sh/api", ⟨"irc.ppy.sh", 6667⟩⟩
    service := ⟨"https://osu.ppy.sh/api", "key"⟩
    identity := ⟨"pw", "bot", "host"⟩
    cooldowns := .start 0 }

/-- A request for that beatmap by a viewer of the given name. -/
def requestBy (name : String) : Invocation :=
  { args := ["https://osu.ppy.sh/b/5"], author := ⟨"1", name, false, false, false⟩, now := 0
    modules := .empty, channel := .start "room" "!" .empty 0, exchanges := [] }

theorem answered?_plain (name : String) (link : MapLink) :
    answered? plainNetwork plainState (requestBy name) link = some plainMap := by
  have hlisted : (listed plainNetwork plainState (requestBy name) link).toOption =
      some [plainMap] := by
    have hread : (readAnswer Beatmap.ofRaw? (plainNetwork.fetch [] "").answer).toOption =
        some [plainMap] := by
      decide +kernel
    exact hread
  rw [answered?, hlisted, Option.bind_some]
  simp [hardest?]

theorem exchanges_plain (name : String) :
    (run plainNetwork plainState (requestBy name)).effects.exchanges =
      [.request (plainState.service.mapsUrl (.beatmap "5")), .delivery ⟨"irc.ppy.sh", 6667⟩
        (deliveryText plainState.identity (messageAbout plainState (requestBy name) plainMap))
        true] :=
  exchanges_of_answered rfl rfl rfl (by decide +kernel) (by decide +kernel) (answered?_plain name _)
    rfl

theorem delivered_lines_plain :
    plainState.identity.IsSingleLine ∧ IsSingleLine plainState.settings.messageFormat ∧
      ∃ text, .delivery ⟨"irc.ppy.sh", 6667⟩ text true ∈
          (run plainNetwork plainState (requestBy "viewer")).effects.exchanges ∧
        IsWrittenAs text ["PASS pw", "NICK bot", "USER bot 0 * :bot",
          "PRIVMSG host :viewer requested Song", "QUIT"] := by
  have hwho : plainState.identity.IsSingleLine := ⟨by decide, by decide, by decide⟩
  have hformat : IsSingleLine plainState.settings.messageFormat := by decide
  obtain ⟨sent, hsent, hdelivered⟩ :=
    (delivered_lines plainNetwork plainState (requestBy "viewer") hwho hformat).2
  have hmem : .delivery ⟨"irc.ppy.sh", 6667⟩ (deliveryText plainState.identity
      (messageAbout plainState (requestBy "viewer") plainMap)) true ∈ sent := by
    have hall : sent = _ := hsent.symm.trans (exchanges_plain "viewer")
    rw [hall]
    exact List.mem_cons_of_mem _ List.mem_cons_self
  obtain ⟨link, map, hmap, -, -, hlines, -, hsingle⟩ := hdelivered _ _ _ hmem
  obtain rfl := Option.some.inj ((answered?_plain "viewer" link).symm.trans hmap)
  have hmessage :
      messageAbout plainState (requestBy "viewer") plainMap = "viewer requested Song" := by
    decide +kernel
  refine ⟨hwho, hformat, _, by rw [hsent]; exact hmem, ?_⟩
  have hwritten := hlines (hsingle (by decide) (by decide))
  rw [hmessage] at hwritten ⊢
  exact hwritten

/-- A viewer whose name holds a line end makes the account send another message. -/
theorem forged_line :
    ∃ (network : Network) (state : State) (call : Invocation), state.identity.IsSingleLine ∧
      IsSingleLine state.settings.messageFormat ∧ ∃ text,
        .delivery state.settings.endpoint text true ∈ (run network state call).effects.exchanges ∧
        IsWrittenAs text ["PASS pw", "NICK bot", "USER bot 0 * :bot", "PRIVMSG host :a",
          "PRIVMSG BanchoBot :!roll requested Song", "QUIT"] ∧
        ¬ ∃ lines, IsWrittenAs text lines ∧ lines.length = 5 := by
  have hwritten : IsWrittenAs (deliveryText plainState.identity (messageAbout plainState
      (requestBy "a\r\nPRIVMSG BanchoBot :!roll") plainMap)) ["PASS pw", "NICK bot",
        "USER bot 0 * :bot", "PRIVMSG host :a", "PRIVMSG BanchoBot :!roll requested Song",
        "QUIT"] :=
    ⟨by decide +kernel, by decide⟩
  refine ⟨plainNetwork, plainState, requestBy "a\r\nPRIVMSG BanchoBot :!roll",
    ⟨by decide, by decide, by decide⟩, by decide, _, ?_, hwritten, ?_⟩
  · rw [exchanges_plain]
    exact List.mem_cons_of_mem _ List.mem_cons_self
  · rintro ⟨lines, hlines, hfive⟩
    rw [← hwritten.unique hlines] at hfive
    cases hfive

end CommandBot.Request
