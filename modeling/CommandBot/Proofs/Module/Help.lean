import CommandBot.Proofs.Module.Core
import CommandBot.Proofs.Template.Arguments

/-!
# What help says of a command

The module `help` looks for the names in the response of a command under which there are modules.
When the response is resolved, the names that the bot knows itself never come to a module, also not
to one that stands under such a name, and all other names with a module do
(`meetsModule_expand_iff`, `namesMet_eq`). So a response never comes to a module just when it has no
name of the second kind (`neverMeets_iff`), and what help says of it is right just when no module
stands under a name of the first kind in it (`describes_command`).
-/

namespace CommandBot

namespace Template

/-- Whether the response has failed at a placeholder. -/
def Expansion.isFailed : Expansion → Bool
  | .failed _ => true
  | _ => false

/-- Whether a turn has come to a module: one has been called, or it could not be, because it is not
available or has too few arguments. -/
def Expanded.meetsModule {ι : Type} (e : Expanded ι) : Bool := e.call.isSome || e.expansion.isFailed

/-- Whether any turn has come to a module. -/
def Resolved.meetsModule {ι : Type} (r : Resolved ι) : Bool :=
  !r.calls.isEmpty || !r.result.toBool

variable {ι : Type}

/-- The names that come to a module: the bot does not know them itself, and there is a place for a
module of the name. -/
def MeetsModule (modules : Modules ι) (name : String) : Prop :=
  name ∉ knownNames ∧ modules.contains name = true

theorem get?_eq_none_of_not_contains {modules : Modules ι} {name : String}
    (h : ¬ modules.contains name = true) : modules.slots.get? (Text.lower name) = none :=
  Option.not_isSome_iff_eq_none.1 h

theorem contains_outline (modules : Modules ι) (name : String) :
    modules.outline.contains name = modules.contains name := by
  rw [Modules.contains, Modules.contains, KeyMap.contains, KeyMap.contains, get?_outline,
    Option.isSome_map]

theorem meetsModule_prepend (chars : List Char) (faults : List Fault) (calls : List Call)
    (r : Resolved ι) :
    (r.prepend chars faults calls).meetsModule = (!calls.isEmpty || r.meetsModule) := by
  obtain ⟨result, left, later, scene⟩ := r
  cases calls <;> cases result <;> simp [Resolved.meetsModule, Resolved.prepend, Except.map,
    Except.toBool]

variable [Callable ι] (network : Network) (request : Request) (alone : Bool) (args : List String)
  {scene : Scene ι}

/-! ### One placeholder -/

/-- A placeholder that comes to no module leaves everything as it is, and the response goes on. -/
theorem expand_of_not_meets {word : List Char}
    (h : ¬ MeetsModule scene.modules (tokenName word)) :
    ∃ expansion, expand network request alone word args scene = ⟨expansion, args, none, scene⟩ ∧
      ((∃ text, expansion = .value text) ∨ ∃ fault, expansion = .unknown fault) := by
  cases hknown : builtin? (tokenName word) request.author scene with
  | some value =>
      refine ⟨.value value.toList, ?_, .inl ⟨_, rfl⟩⟩
      simp only [expand, hknown]
  | none =>
      have hname := (builtin?_eq_none_iff _ _ _).1 hknown
      have hplace : scene.modules.slots.get? (Text.lower (tokenName word)) = none :=
        get?_eq_none_of_not_contains fun hcontains => h ⟨hname, hcontains⟩
      refine ⟨.unknown (.unknownPlaceholder (tokenName word)), ?_, .inr ⟨_, rfl⟩⟩
      simp only [expand, hknown, Modules.lookup, hplace]

theorem meetsModule_expand_of_meets {word : List Char}
    (h : MeetsModule scene.modules (tokenName word)) :
    (expand network request alone word args scene).meetsModule = true := by
  obtain ⟨hname, hcontains⟩ := h
  have hknown := (builtin?_eq_none_iff _ request.author scene).2 hname
  obtain ⟨slot, hslot⟩ := (KeyMap.contains_iff _ _).1 hcontains
  cases slot with
  | unavailable reason => simp [expand, hknown, Modules.lookup, hslot, Expanded.meetsModule,
      Expansion.isFailed]
  | loaded m =>
      simp only [expand, hknown, Modules.lookup, hslot, expandModule]
      split
      · rfl
      · rfl

/-- The turn of a placeholder comes to a module by its name alone. -/
theorem meetsModule_expand_iff (word : List Char) :
    (expand network request alone word args scene).meetsModule = true ↔
      MeetsModule scene.modules (tokenName word) := by
  refine ⟨fun h => ?_, meetsModule_expand_of_meets network request alone args⟩
  by_contra hnot
  obtain ⟨expansion, hexpand, hkind⟩ := expand_of_not_meets network request alone args hnot
  rw [hexpand] at h
  rcases hkind with ⟨text, rfl⟩ | ⟨fault, rfl⟩ <;> cases h

/-! ### A whole response -/

theorem meetsModule_resolvePieces_cons {word : List Char} (rest : List Piece)
    (h : (expand network request alone word args scene).meetsModule = true) :
    (resolvePieces network request alone (.token word :: rest) args scene).meetsModule = true := by
  unfold resolvePieces
  generalize expand network request alone word args scene = e at h ⊢
  obtain ⟨expansion, left, call, later⟩ := e
  cases call with
  | some call =>
      cases expansion with
      | value text | unknown fault =>
          simp only [meetsModule_prepend]
          rfl
      | veto | failed fault => rfl
  | none =>
      cases expansion with
      | failed fault => rfl
      | _ => cases h

/-- A response comes to a module if and only if one of its placeholders does. Those before the first
one that does leave the modules as they are. -/
theorem meetsModule_resolvePieces_iff (pieces : List Piece) :
    (resolvePieces network request alone pieces args scene).meetsModule = true ↔
      ∃ word ∈ pieces.filterMap Piece.word?, MeetsModule scene.modules (tokenName word) := by
  induction pieces with
  | nil => simp [resolvePieces, Resolved.meetsModule, Except.toBool]
  | cons piece rest ih =>
      cases piece with
      | char c =>
          rw [resolvePieces, meetsModule_prepend, List.isEmpty_nil, Bool.not_true, Bool.false_or,
            ih]
          rfl
      | token word =>
          have hwords : (Piece.token word :: rest).filterMap Piece.word? =
              word :: rest.filterMap Piece.word? := rfl
          rw [hwords, List.exists_mem_cons_iff]
          by_cases hmeets : MeetsModule scene.modules (tokenName word)
          · have hturn := meetsModule_expand_of_meets network request alone args hmeets
            exact iff_of_true (meetsModule_resolvePieces_cons network request alone args rest hturn)
              (.inl hmeets)
          · obtain ⟨expansion, hexpand, hgoes⟩ :=
              expand_of_not_meets network request alone args hmeets
            have hrest : (resolvePieces network request alone (.token word :: rest) args
                scene).meetsModule =
                (resolvePieces network request alone rest args scene).meetsModule := by
              rcases hgoes with ⟨text, rfl⟩ | ⟨fault, rfl⟩ <;>
                simp [resolvePieces, hexpand, meetsModule_prepend]
            rw [hrest, ih, or_iff_right hmeets]

/-- The names in a template, each once and in order of first appearance, that come to a module when
they have their turn with these arguments and in this scene. -/
def namesMet (network : Network) (request : Request) (args : List String) (scene : Scene ι)
    (template : String) : List String :=
  ((((Piece.scan template.toList).filterMap Piece.word?).filter fun word =>
    (expand network request (isAlone template.toList) word args scene).meetsModule).map
      tokenName).eraseDups

/-- The template never comes to a module, whoever asks, with whatever arguments and at whatever
time. -/
def NeverMeets (modules : Modules ι) (template : String) : Prop :=
  ∀ (network : Network) (request : Request) (args : List String) (scene : Scene ι),
    scene.modules.outline = modules.outline →
    (resolve network request template args scene).meetsModule = false

end Template

namespace Help

open Template

/-- To keep each name once and then some of them, or the other way round. -/
theorem filter_eraseDups (p : String → Bool) (names : List String) :
    names.eraseDups.filter p = (names.filter p).eraseDups := by
  match names with
  | [] => rfl
  | name :: rest =>
      have hshorter : (rest.filter fun other => !other == name).length < rest.length + 1 :=
        Nat.lt_succ_of_le (List.length_filter_le _ _)
      rw [List.eraseDups_cons, List.filter_cons, filter_eraseDups p, List.filter_filter]
      by_cases hname : p name = true
      · rw [if_pos hname, List.filter_cons_of_pos hname, List.eraseDups_cons, List.filter_filter]
        simp only [Bool.and_comm]
      · rw [if_neg hname, List.filter_cons_of_neg hname]
        refine congrArg List.eraseDups (List.filter_congr fun other _ => ?_)
        by_cases hsame : other = name
        · simp [hsame, hname]
        · simp [hsame]
termination_by names.length

variable {ι : Type}

theorem mentioned_eq (modules : Modules ι) (template : String) :
    mentioned modules.outline template =
      ((((Piece.scan template.toList).filterMap Piece.word?).map tokenName).filter
        modules.contains).eraseDups := by
  have hcontains : modules.outline.contains = modules.contains :=
    funext fun name => contains_outline modules name
  rw [mentioned, tokens, map_name_tokensFrom, hcontains]

theorem mem_mentioned_iff {modules : Modules ι} {template name : String} :
    name ∈ mentioned modules.outline template ↔
      (∃ word ∈ (Piece.scan template.toList).filterMap Piece.word?, tokenName word = name) ∧
        modules.contains name = true := by
  rw [mentioned_eq, List.mem_eraseDups, List.mem_filter, List.mem_map]

theorem commandUsesModules_ne (name : String) (used : List String) :
    Wording.commandUsesModules name used ≠ Wording.commandWithoutModules name := by
  intro h
  have hwithout : (toString "Command ").toList.head? = some 'C' := rfl
  have huses : (toString "Module '").toList.head? = some 'M' := rfl
  have hfirst := congrArg (fun text : String => text.toList.head?) h
  simp [Wording.commandWithoutModules, Wording.commandUsesModules, hwithout, huses] at hfirst

/-- What help says of a command whose name is not the name of a module. -/
def said (name : String) (used : List String) : String :=
  if used = [] then Wording.commandWithoutModules name else Wording.commandUsesModules name used

/-- The text for a command without modules is not said of any other. -/
theorem said_eq_iff (name : String) (used : List String) :
    said name used = Wording.commandWithoutModules name ↔ used = [] := by
  rw [said]
  split
  · rename_i hnone
    exact iff_of_true rfl hnone
  · rename_i hsome
    exact iff_of_false (commandUsesModules_ne name used) hsome

variable [Callable ι]

theorem namesMet_eq (network : Network) (request : Request) (args : List String)
    (scene : Scene ι) (template : String) :
    namesMet network request args scene template =
      (mentioned scene.modules.outline template).filter (· ∉ knownNames) := by
  rw [mentioned_eq, filter_eraseDups, List.filter_filter, List.filter_map, namesMet]
  refine congrArg (fun words => (List.map tokenName words).eraseDups)
    (List.filter_congr fun word _ => ?_)
  rw [Bool.eq_iff_iff, meetsModule_expand_iff, MeetsModule]
  simp

theorem neverMeets_iff (scene : Scene ι) (network : Network) (request : Request)
    (template : String) :
    NeverMeets scene.modules template ↔
      ∀ name ∈ mentioned scene.modules.outline template, name ∈ knownNames := by
  constructor
  · intro hnever name hname
    by_contra hunknown
    obtain ⟨⟨word, hword, rfl⟩, hcontains⟩ := mem_mentioned_iff.1 hname
    have hmeets := (meetsModule_resolvePieces_iff network request (isAlone template.toList) []
      _).2 ⟨word, hword, hunknown, hcontains⟩
    have hnone := hnever network request [] scene rfl
    rw [resolve, hmeets] at hnone
    cases hnone
  · intro hknown network request args later houtline
    rw [← Bool.not_eq_true, resolve, meetsModule_resolvePieces_iff]
    rintro ⟨word, hword, hunknown, hcontains⟩
    refine hunknown (hknown _ ?_)
    rw [← houtline]
    exact mem_mentioned_iff.2 ⟨⟨word, hword, rfl⟩, hcontains⟩

theorem answer_of_lookup (call : Invocation) {arg : String} {rest : List String} {command : Command}
    (hargs : call.args = arg :: rest) (hcommand : call.channel.commands.lookup arg = some command)
    (hmodule : call.modules.contains arg = false) :
    answer call = said (Text.lower arg) (mentioned call.modules command.response) := by
  have hplace : call.modules.slots.get? (Text.lower arg) = none :=
    get?_eq_none_of_not_contains (ne_true_of_eq_false hmodule)
  have hlookup : call.channel.commands.lookup (Text.lower arg) = some command := by
    rw [Commands.lookup, Text.lower_lower]
    exact hcommand
  simp only [answer, hargs, describe, Modules.lookup, Text.lower_lower, hplace, describeCommand,
    hlookup]
  cases mentioned call.modules command.response <;> rfl

/-- What help says of a command whose name is not the name of a module, and what the response of
the command comes to. It lists the names in it with a module, in order; of these the ones come to a
module that the bot does not know itself. So the list is right just when none of its names is one
that the bot knows, and to say that there are none is wrong just when the list has names and
the bot knows them all. -/
theorem describes_command {scene : Scene ι} {arg : String} {command : Command}
    (hcommand : scene.channel.commands.lookup arg = some command)
    (hmodule : scene.modules.contains arg = false) (network : Network) (asked : Request)
    (rest : List String) :
    let listed := mentioned scene.modules.outline command.response
    let answered := (Builtin.call network .help (invocation asked (arg :: rest) scene)).result
    let saysNone := answered = .ok (.text (Wording.commandWithoutModules (Text.lower arg)))
    (saysNone ∧ listed = [] ∨
      answered = .ok (.text (Wording.commandUsesModules (Text.lower arg) listed)) ∧ listed ≠ []) ∧
    (∀ (network : Network) (request : Request) (args : List String) (later : Scene ι),
      later.modules.outline = scene.modules.outline →
      let met := namesMet network request args later command.response
      met = listed.filter (· ∉ knownNames) ∧
        (listed = met ↔ ∀ name ∈ listed, name ∉ knownNames)) ∧
    (NeverMeets scene.modules command.response ↔ ∀ name ∈ listed, name ∈ knownNames) ∧
    ((saysNone ↔ NeverMeets scene.modules command.response) ↔
      (listed = [] ∨ ∃ name ∈ listed, name ∉ knownNames)) := by
  intro listed answered saysNone
  have hanswered : answered = .ok (.text (said (Text.lower arg) listed)) :=
    congrArg (fun text => Except.ok (Reply.text text)) <|
      answer_of_lookup (invocation asked (arg :: rest) scene) rfl hcommand
        ((contains_outline scene.modules arg).trans hmodule)
  have hnone : saysNone ↔ listed = [] := by
    simp only [saysNone, hanswered, Except.ok.injEq, Reply.text.injEq, said_eq_iff]
  have hnever : NeverMeets scene.modules command.response ↔ ∀ name ∈ listed, name ∈ knownNames :=
    neverMeets_iff scene network asked command.response
  refine ⟨?_, fun network request args later houtline => ?_, hnever, ?_⟩
  · by_cases hlisted : listed = []
    · exact .inl ⟨hnone.2 hlisted, hlisted⟩
    · rw [said, if_neg hlisted] at hanswered
      exact .inr ⟨hanswered, hlisted⟩
  · have hmet : namesMet network request args later command.response =
        listed.filter (· ∉ knownNames) := by
      rw [namesMet_eq, houtline]
    refine ⟨hmet, ?_⟩
    rw [hmet, eq_comm, List.filter_eq_self]
    simp only [decide_eq_true_eq]
  · rw [hnone, hnever]
    by_cases hlisted : listed = []
    · exact iff_of_true (iff_of_true hlisted (by simp [hlisted])) (.inl hlisted)
    · simp only [hlisted, false_iff, false_or, not_forall, exists_prop]

/-- A response with two modules in it, one of them twice, a name that the bot knows and one that
stands for nothing. -/
theorem describes_command_two :
    let response := "&Target& &caller& &help& &TARGET& &nobody&"
    let config : Channel.Config := ⟨"!", .ofList [("hi", { response := response })], [], .empty⟩
    let ann : Request := ⟨⟨"1", "ann", false, false, false⟩, 0⟩
    ∃ s, Session.start Builtin.catalogue .down 0 [] "room" config = .ok s ∧
      (Builtin.call .down .help (invocation ann ["Hi"] s.scene)).result = .ok (.text
        "Module 'hi' not found, but the matching command uses module(s): target, help") ∧
      namesMet .down ann [] s.scene response = ["target", "help"] ∧
      ¬ NeverMeets s.scene.modules response := by
  intro response config ann
  have hrun : ((Session.start Builtin.catalogue .down 0 [] "room" config).toOption.map fun s =>
      (s.scene.channel.commands.lookup "Hi", s.scene.modules.contains "Hi",
        mentioned s.scene.modules.outline response)) =
      some (some ⟨"hi", 0, false, false, response⟩, false, ["target", "help"]) := by
    decide +kernel
  obtain ⟨s, hstart, hrun⟩ := exists_of_toOption_map_eq_some hrun
  obtain ⟨hcommand, hrun⟩ := Prod.mk.inj hrun
  obtain ⟨hmodule, hlisted⟩ := Prod.mk.inj hrun
  obtain ⟨hsaid, hmet, hnever, -⟩ := describes_command hcommand hmodule .down ann []
  rw [hlisted] at hsaid hnever
  have hnames := (hmet .down ann [] s.scene rfl).1
  rw [hlisted] at hnames
  refine ⟨s, hstart, ?_, hnames.trans (by decide), fun h => ?_⟩
  · rcases hsaid with ⟨-, hnone⟩ | ⟨hsaid, -⟩
    · cases hnone
    · rw [hsaid]
      decide +kernel
  · have hknown := hnever.1 h "target" List.mem_cons_self
    revert hknown
    decide

/-- In a channel whose config asks for a module by a name that the bot knows itself, help says that
a command uses that module, but its response never comes to a module. -/
theorem module_used_by_none :
    let config : Channel.Config :=
      ⟨"!", .ofList [("help", { response := "&help&" }), ("hi", { response := "hello &caller&" })],
        ["caller"], .empty⟩
    let ann : Author := ⟨"1", "ann", false, false, false⟩
    ∃ s, Session.start Builtin.catalogue .down 0 [] "room" config = .ok s ∧
      s.scene.channel.commands.lookup "hi" = some ⟨"hi", 0, false, false, "hello &caller&"⟩ ∧
      s.scene.modules.contains "hi" = false ∧
      (s.handle .down 0 ann "!help hi").1 =
        .sent "Module 'hi' not found, but the matching command uses module(s): caller" ∧
      NeverMeets s.scene.modules "hello &caller&" := by
  intro config ann
  have hrun : ((Session.start Builtin.catalogue .down 0 [] "room" config).toOption.map fun s =>
      (s.scene.channel.commands.lookup "hi", s.scene.modules.contains "hi",
        (s.handle .down 0 ann "!help hi").1,
        mentioned s.scene.modules.outline "hello &caller&")) =
      some (some ⟨"hi", 0, false, false, "hello &caller&"⟩, false,
        .sent "Module 'hi' not found, but the matching command uses module(s): caller",
        ["caller"]) := by
    decide +kernel
  obtain ⟨s, hstart, hrun⟩ := exists_of_toOption_map_eq_some hrun
  obtain ⟨hcommand, hrun⟩ := Prod.mk.inj hrun
  obtain ⟨hmodule, hrun⟩ := Prod.mk.inj hrun
  obtain ⟨hsaid, hlisted⟩ := Prod.mk.inj hrun
  refine ⟨s, hstart, hcommand, hmodule, hsaid, (neverMeets_iff s.scene .down ⟨ann, 0⟩ _).2 ?_⟩
  rw [hlisted]
  decide

end Help

end CommandBot
