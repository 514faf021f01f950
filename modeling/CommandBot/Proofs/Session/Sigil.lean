import CommandBot.Proofs.Session.LastUse

/-!
# Sigils that work

A sigil that does not start with white space works: a line made of it, the name of a command in any
letter case and then nothing or white space and arguments reaches the command, and the arguments are
those words (`named?_append`). Every sigil that is set from the chat is of this kind, since the
arguments of a line are words (`sigil_play`). Only the sigil that stands in a config may start with
white space, although it is accepted as long as it is not blank, and then no line is a command line
at all, because the white space at the start of a line is dropped before the sigil is looked for
(`dispatch_of_startsBlank`).
-/

namespace CommandBot

/-- Whether the line has reached a command. -/
def Outcome.isRouted : Outcome → Bool
  | .ignored .notPrefixed => false
  | .ignored (.unknownCommand _) => false
  | _ => true

theorem Text.startsBlank_append_of_not_blank {lead word : List Char}
    (hlead : startsBlank lead = false) (hword : startsBlank word = false) :
    startsBlank (lead ++ word) = false := by
  cases lead with
  | nil => exact hword
  | cons c lead => exact hlead

namespace Dispatch

/-! ### Lines that name a command -/

theorem commandWords?_append {sigil word rest : String}
    (hsigil : Text.startsBlank sigil.toList = false) (hne : word.toList ≠ [])
    (hword : ∀ c ∈ word.toList, Text.isBlank c = false)
    (hrest : ∀ c ∈ rest.toList.head?, Text.isBlank c = true) :
    commandWords? sigil (sigil ++ word ++ rest) =
      some (word :: (Text.words rest.toList).map String.ofList) := by
  have hstart : Text.startsBlank word.toList = false := by
    cases hchars : word.toList with
    | nil => rfl
    | cons c cs => exact hword c (by rw [hchars]; exact List.mem_cons_self)
  have htrim : Text.trimStart (sigil ++ word ++ rest).toList =
      sigil.toList ++ (word.toList ++ rest.toList) := by
    rw [String.toList_append, String.toList_append, Text.trimStart_append
      (Text.startsBlank_append_of_not_blank hsigil hstart) (by simp [hne]), List.append_assoc]
  have hdrop : Text.dropLead? sigil.toList (Text.trimStart (sigil ++ word ++ rest).toList) =
      some (word.toList ++ rest.toList) := (Text.dropLead?_eq_some_iff _ _ _).2 htrim
  rw [commandWords?, hdrop, Option.map_some, Text.words_append hne hword hrest, List.map_cons,
    String.ofList_toList]

/-- A line of the sigil, the name of a command in any letter case and arguments names the
command. -/
theorem named?_append {channel : Channel} {key : String} {command : Command}
    (hcommands : channel.commands.WellFormed)
    (hget : channel.commands.byName.get? key = some command)
    (hsigil : Text.startsBlank channel.sigil.toList = false) {spelled rest : String}
    (hspelled : spelled.toList.map Char.toLower = command.name.toList)
    (hrest : ∀ c ∈ rest.toList.head?, Text.isBlank c = true) :
    named? channel (channel.sigil ++ spelled ++ rest) =
      some (command, (Text.words rest.toList).map String.ofList) := by
  have hproper := hcommands key command hget
  rw [hproper.named] at hspelled
  obtain ⟨hvalid, hlower⟩ := isValidName_of_map_toLower hproper.valid hspelled
  obtain ⟨hne, hchars⟩ := (isValidName_iff spelled).1 hvalid
  have hlookup : channel.commands.lookup (Text.lower spelled) = some command := by
    rw [Commands.lookup, hlower, hproper.lowered, hget]
  rw [named?, commandWords?_append hsigil hne
    (fun c hc => Text.not_isBlank_of_isNameChar (hchars c hc)) hrest]
  simp only [Option.bind_some, List.headD_cons, hlookup, Option.map_some, List.tail_cons]

/-- The arguments of a line do not start with white space. -/
theorem startsBlank_of_named? {channel : Channel} {line : String} {command : Command}
    {args : List String} (h : named? channel line = some (command, args)) :
    ∀ a ∈ args, Text.startsBlank a.toList = false := by
  obtain ⟨words, hwords, hcommand⟩ := Option.bind_eq_some_iff.1 h
  obtain ⟨found, -, hpair⟩ := Option.map_eq_some_iff.1 hcommand
  obtain ⟨rest, -, rfl⟩ := Option.map_eq_some_iff.1 hwords
  intro a ha
  rw [← (Prod.mk.inj hpair).2] at ha
  obtain ⟨w, hw, rfl⟩ := List.mem_map.1 (List.mem_of_mem_tail ha)
  rw [String.toList_ofList]
  exact Text.startsBlank_of_mem_words hw

variable {ι : Type} [Callable ι]

theorem isRouted_of_named? {network : Network} {request : Template.Request} {line : String}
    {scene : Scene ι} {command : Command} {args : List String}
    (h : named? scene.channel line = some (command, args)) :
    (dispatch network request line scene).1.isRouted = true := by
  rw [dispatch_of_named? h]
  split
  · rfl
  · rcases tryUse_cases network request command args scene with ⟨last, -, -, huse⟩ | ⟨-, huse⟩
    · rw [huse]
      rfl
    · have hopen := isStopped_respond network request command args (charged command scene)
      rw [huse]
      generalize (respond network request command args (charged command scene)).1 = outcome at hopen ⊢
      cases outcome with
      | ignored why =>
          cases why with
          | emptyResponse => rfl
          | _ => cases hopen
      | _ => rfl

/-- Under a sigil that starts with white space no line is a command line. -/
theorem dispatch_of_startsBlank (network : Network) (request : Template.Request) (line : String)
    {scene : Scene ι} (h : Text.startsBlank scene.channel.sigil.toList = true) :
    dispatch network request line scene = (.ignored .notPrefixed, scene) := by
  rw [dispatch, commandWords?, Text.dropLead?_trimStart_of_startsBlank h, Option.map_none]

end Dispatch

/-! ### How the sigil changes -/

/-- A call leaves the sigil as it is, or one of its arguments becomes the sigil. -/
def ResignsTo (call : Invocation) (channel : Channel) : Prop :=
  channel.sigil = call.channel.sigil ∨ channel.sigil ∈ call.args

theorem Builtin.Deed.resignsTo {call : Invocation} {body after : Builtin} {channel : Channel}
    (h : Builtin.Deed call body after channel) : ResignsTo call channel := by
  cases h with
  | nothing => exact .inl rfl
  | charged => exact .inl rfl
  | defined => exact .inl rfl
  | removed => exact .inl rfl
  | resigned harg => exact .inr harg
  | toggled => exact .inl rfl

theorem Canned.always_resignsTo (body : Canned) (call : Invocation) :
    (Canned.call body call).Always fun e => ResignsTo call e.channel := by
  cases body with
  | slow span text => exact (Run.always_instant (.inl rfl) _).after (.inl rfl)
  | _ =>
      refine Run.always_instant ?_ _
      exact .inl rfl

theorem always_resignsTo (network : Network) (body : Builtin ⊕ Canned) (call : Invocation) :
    (Callable.call network body call).Always fun e => ResignsTo call e.channel := by
  cases body with
  | inl body =>
      exact Run.Always.map ((Builtin.always_deed network body call).mono fun _ h => h.resignsTo)
  | inr body => exact Run.Always.map (Canned.always_resignsTo body call)

/-- The sigil is a given one, or it works. -/
def SigilWorksOr (sigil : String) (channel : Channel) : Prop :=
  channel.sigil = sigil ∨ Text.startsBlank channel.sigil.toList = false

theorem SigilWorksOr.dispatch {sigil : String} {scene : Scene (Builtin ⊕ Canned)}
    (h : SigilWorksOr sigil scene.channel) (network : Network) (request : Template.Request)
    (line : String) :
    SigilWorksOr sigil (Dispatch.dispatch network request line scene).2.channel := by
  refine Dispatch.dispatch_induction (p := fun current => SigilWorksOr sigil current.channel) h
    (fun _ hscene => hscene) ?_
  intro command args hnamed _ word _ m taken current _ htaken hcurrent
  obtain ⟨e, hsigil, hchannel, -, -⟩ := Template.callModule_of_always
    (always_resignsTo network m.body (Template.invocation request taken current))
    (Template.tokenName word)
  rw [hchannel]
  rcases hsigil with hsame | harg
  · rw [SigilWorksOr, hsame]
    exact hcurrent
  · exact .inr (Dispatch.startsBlank_of_named? hnamed _ (htaken _ harg))

namespace Session

theorem sigil_play {sigil : String} {s : Session (Builtin ⊕ Canned)}
    (h : SigilWorksOr sigil s.scene.channel) (network : Network) (patience : Duration)
    (turns : List Turn) :
    SigilWorksOr sigil (s.play network patience turns).scene.channel := by
  refine play_induction (p := fun t => SigilWorksOr sigil t.scene.channel)
    (fun turn _ t ht => ?_) h
  cases turn with
  | line author text => exact ht.dispatch network ⟨author, patience⟩ text
  | wait span => exact ht

/-- When a sigil works, after any turns of a session that has been started from a config: a line of
the sigil, the name of a command in any letter case and then nothing or white space and arguments
reaches the command just when the sigil does not start with white space, and then the arguments are
the words that follow. A sigil that does start with white space is the one of the config, which is
accepted nevertheless; under it no line reaches anything and the session stays as it is. -/
theorem routed_iff_of_run {catalogue : Catalogue (Builtin ⊕ Canned)} {before : List Exchange}
    {now : Instant} {name : String} {config : Channel.Config} {start : Session (Builtin ⊕ Canned)}
    {outset : Network} (hstart : Session.start catalogue outset now before name config = .ok start)
    (network : Network) (patience : Duration) (turns : List Turn) :
    let s := start.play network patience turns
    let sigil := s.scene.channel.sigil
    (∀ key command, s.scene.channel.commands.byName.get? key = some command →
      ∀ (spelled rest : String) (author : Author),
        spelled.toList.map Char.toLower = command.name.toList →
        (∀ c ∈ rest.toList.head?, Text.isBlank c = true) →
        ((s.handle network patience author (sigil ++ spelled ++ rest)).1.isRouted = true ↔
          Text.startsBlank sigil.toList = false) ∧
        (Text.startsBlank sigil.toList = false →
          Dispatch.named? s.scene.channel (sigil ++ spelled ++ rest) =
            some (command, (Text.words rest.toList).map String.ofList))) ∧
    (Text.startsBlank sigil.toList = true →
      sigil = config.sigil ∧
        ∀ author line, s.handle network patience author line = (.ignored .notPrefixed, s)) := by
  intro s sigil
  have hcommands : s.scene.channel.commands.WellFormed :=
    (tracks_play (tracks_of_start hstart) network patience turns).wellFormed
  have hblank : ∀ author line, Text.startsBlank sigil.toList = true →
      s.handle network patience author line = (.ignored .notPrefixed, s) := by
    intro author line h
    rw [handle, Dispatch.dispatch_of_startsBlank network _ line h]
  refine ⟨fun key command hget spelled rest author hspelled hrest => ?_, fun h => ⟨?_, fun author
    line => hblank author line h⟩⟩
  · have hnamed := fun h => Dispatch.named?_append hcommands hget h hspelled hrest
    refine ⟨⟨fun hrouted => ?_, fun h => ?_⟩, hnamed⟩
    · rw [← Bool.not_eq_true]
      intro h
      rw [hblank author _ h] at hrouted
      cases hrouted
    · rw [outcome_handle]
      exact Dispatch.isRouted_of_named? (hnamed h)
  · have hsigil : SigilWorksOr config.sigil s.scene.channel := by
      refine sigil_play (.inl ?_) network patience turns
      obtain ⟨-, commands, -, hchannel, -, -⟩ := start_eq_ok hstart
      rw [hchannel]
      rfl
    rcases hsigil with hsame | hworks
    · exact hsame
    · rw [hworks] at h
      cases h

/-- A moderator changes the sigil of a new channel, and a viewer asks for help under the new one. -/
theorem routed_iff_of_run_resigned :
    let catalogue : Catalogue (Builtin ⊕ Canned) := Builtin.catalogue.map fun k => k.map .inl
    let turns : List Turn := [.line ⟨"1", "mod", true, false, false⟩ "r!prefix ¡¡"]
    ∃ start, Session.start catalogue .down 0 [] "room" .initial = .ok start ∧
      let s := start.play .down 0 turns
      s.scene.channel.sigil = "¡¡" ∧
        (s.handle .down 0 ⟨"2", "ann", false, false, false⟩
          (s.scene.channel.sigil ++ "Help" ++ "\u00A0me")).1.isRouted = true := by
  intro catalogue turns
  have hrun : ((Session.start catalogue .down 0 [] "room" .initial).toOption.map fun start =>
      let channel := (start.play .down 0 turns).scene.channel
      (channel.sigil, channel.commands.byName.get? "help")) =
      some ("¡¡", some ⟨"help", 10, false, false, "@&caller& > &help&"⟩) := by
    decide +kernel
  obtain ⟨start, hstart, hrun⟩ := exists_of_toOption_map_eq_some hrun
  obtain ⟨hsigil, hcommand⟩ := Prod.mk.inj hrun
  have hrest : ∀ c ∈ "\u00A0me".toList.head?, Text.isBlank c = true := by
    intro c hc
    obtain rfl : '\u00A0' = c := Option.some.inj hc
    decide
  have hline := (routed_iff_of_run hstart .down 0 turns).1 "help" _ hcommand "Help" "\u00A0me"
    ⟨"2", "ann", false, false, false⟩ (by decide) hrest
  refine ⟨start, hstart, hsigil, hline.1.2 ?_⟩
  rw [hsigil]
  decide +kernel

/-- A config whose sigil is a blank and an exclamation mark is accepted, but the line that starts
with that sigil and the name of its command is not found to start with it. -/
theorem not_routed_after_blank :
    let config : Channel.Config := ⟨" !", .ofList [("hi", { response := "hello" })], [], .empty⟩
    ∃ s, start Builtin.catalogue .down 0 [] "room" config = .ok s ∧
      (s.scene.channel.commands.lookup "hi").isSome = true ∧
      (s.handle .down 0 ⟨"1", "ann", false, false, false⟩
        (s.scene.channel.sigil ++ "hi")).1 = .ignored .notPrefixed := by
  intro config
  have hrun : ((start Builtin.catalogue .down 0 [] "room" config).toOption.map fun s =>
      ((s.scene.channel.commands.lookup "hi").isSome,
        (s.handle .down 0 ⟨"1", "ann", false, false, false⟩
          (s.scene.channel.sigil ++ "hi")).1)) = some (true, .ignored .notPrefixed) := by
    decide +kernel
  obtain ⟨s, hstart, hrun⟩ := exists_of_toOption_map_eq_some hrun
  obtain ⟨hcommand, hline⟩ := Prod.mk.inj hrun
  exact ⟨s, hstart, hcommand, hline⟩

end Session

end CommandBot
