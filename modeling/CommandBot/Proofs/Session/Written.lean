import CommandBot.Proofs.Channel.Reload
import CommandBot.Proofs.Session.Start

/-!
# Which of the written commands a session has

The text of a config may hold several members under one name. Reading it puts them into a map, which
keeps the last of them (`exists_written_of_read?`), before anything looks for names that are the
same in lowercase. A session that starts therefore has the last command of every name that is
written, and names that differ do so in lowercase too; it has all commands that are written just
when no name stands over two members that differ (`written_commands_of_start`).
-/

namespace CommandBot

namespace Commands

/-- The command of this name has the fields of the entry. -/
def Holds (cs : Commands) (name : String) (entry : StoredCommand) : Prop :=
  ∃ cooldown : Nat, entry.cooldown = cooldown ∧ cs.byName.get? (Text.lower name) =
    some ⟨Text.lower name, cooldown, entry.modOnly, entry.hidden, entry.response⟩

theorem holds_of_get? {cs : Commands} {name : String} {entry : StoredCommand}
    (hcooldown : 0 ≤ entry.cooldown)
    (h : cs.byName.get? (Text.lower name) = some (ofStored name entry)) : cs.Holds name entry :=
  ⟨entry.cooldown.toNat, (Int.toNat_of_nonneg hcooldown).symm, h⟩

theorem Holds.unique {cs : Commands} {name : String} {entry entry' : StoredCommand}
    (h : cs.Holds name entry) (h' : cs.Holds name entry') : entry = entry' := by
  obtain ⟨cooldown, hcooldown, hget⟩ := h
  obtain ⟨cooldown', hcooldown', hget'⟩ := h'
  have hcommand := Option.some.inj (hget.symm.trans hget')
  obtain ⟨-, rfl, hmodOnly, hhidden, hresponse⟩ := Command.mk.inj hcommand
  cases entry
  cases entry'
  rw [StoredCommand.mk.injEq]
  exact ⟨hcooldown.trans hcooldown'.symm, hmodOnly, hhidden, hresponse⟩

end Commands

namespace Channel.Config

/-- The commands that an object holds, in the order of the text. -/
def writtenIn? (raw : Json.Raw) : Option (List (String × StoredCommand)) := do
  let members ← raw.members?
  members.mapM fun e => (command? e.2).map fun entry => (e.1, entry)

/-- The commands that are written in the text of a config, in the order of the text. -/
def written? (text : String) : Option (List (String × StoredCommand)) := do
  let raw ← Json.Raw.ofText? text
  match ← raw.fields? ["meta", "commands", "modules", "module_config"] with
  | [_, commands, _, _] => Json.Raw.optional? [] writtenIn? commands
  | _ => none

theorem mapOf?_command? (raw : Json.Raw) :
    raw.mapOf? command? = (writtenIn? raw).map KeyMap.ofList := by
  simp only [Json.Raw.mapOf?, writtenIn?, Option.bind_eq_bind]
  cases raw.members? with
  | none => rfl
  | some members =>
      simp only [Option.bind_some]
      exact (Option.map_eq_bind ..).symm

/-- The commands of a config that is read are those that are written, put into a map. -/
theorem exists_written_of_read? {text : String} {c : Config} (h : read? text = some c) :
    ∃ written, written? text = some written ∧ c.commands = .ofList written := by
  simp only [read?, ofRaw?, Option.bind_eq_bind, Option.bind_eq_some_iff] at h
  obtain ⟨raw, hraw, fields, hfields, h⟩ := h
  split at h
  · rename_i sigil commands modules options
    simp only [Option.bind_eq_some_iff] at h
    obtain ⟨_, -, read, hread, _, -, _, -, hc⟩ := h
    obtain rfl := Option.some.inj hc
    have hwritten : written? text = Json.Raw.optional? [] writtenIn? commands := by
      rw [written?, hraw]
      simp only [Option.bind_eq_bind, Option.bind_some, hfields]
    cases commands with
    | none =>
        obtain rfl := Option.some.inj hread
        exact ⟨[], hwritten, rfl⟩
    | some item =>
        have hmap : (writtenIn? item).map KeyMap.ofList = some read :=
          (mapOf?_command? item).symm.trans hread
        obtain ⟨written, hitem, rfl⟩ := Option.map_eq_some_iff.1 hmap
        exact ⟨written, hwritten.trans hitem, rfl⟩
  · cases h

end Channel.Config

namespace Store

theorem load_of_read? {s : Store} {files : FileTree} {text : String} {config : Channel.Config}
    (htext : files.read? s.path = some text.toUTF8)
    (hread : Channel.Config.read? text = some config) (disruption : Option Disruption) :
    s.load disruption files = (.ok config, files) := by
  rw [load, if_pos (FileTree.exists?_of_read? htext), readStored, htext, Option.bind_some,
    fromUTF8?_toUTF8]
  simp only [hread]

end Store

namespace Session

variable {ι : Type} {catalogue : Catalogue ι} {network : Network} {now : Instant}
  {before : List Exchange} {name : String} {config : Channel.Config} {s : Session ι}

/-- A new session has the commands of its config under their names in lowercase. -/
theorem get?_commands_of_start (h : start catalogue network now before name config = .ok s)
    (key : String) (command : Command) :
    s.scene.channel.commands.byName.get? key = some command ↔
      ∃ spelled entry, config.commands.get? spelled = some entry ∧ Text.lower spelled = key ∧
        Commands.ofStored spelled entry = command := by
  obtain ⟨-, commands, hcommands, hchannel, -⟩ := start_eq_ok h
  obtain ⟨-, hdistinct, rfl⟩ := Commands.ofEntries_eq_ok_iff.1 hcommands
  have hkeys : (config.commands.entries.map fun e =>
      (Text.lower e.1, Commands.ofStored e.1 e.2)).Pairwise fun a b => a.1 ≠ b.1 :=
    List.pairwise_map.2 hdistinct
  rw [hchannel]
  change (KeyMap.ofList _).get? key = some command ↔ _
  rw [KeyMap.get?_ofList_eq_some_iff hkeys, List.mem_map]
  constructor
  · rintro ⟨e, he, hpair⟩
    obtain ⟨hkey, hcommand⟩ := Prod.mk.inj hpair
    exact ⟨e.1, e.2, KeyMap.get?_of_mem he, hkey, hcommand⟩
  · rintro ⟨spelled, entry, hget, rfl, rfl⟩
    exact ⟨(spelled, entry), KeyMap.mem_of_get? hget, rfl⟩

variable {store : Store} {disruption : Option Disruption} {files after : FileTree} {text : String}

/-- A session that starts from a stored text has of every name that is written the last command, and
no others. Names that differ in the text differ in lowercase. All commands of the text are there
just when no name stands over two different ones. -/
theorem written_commands_of_start (htext : files.read? store.path = some text.toUTF8)
    (hload : store.load disruption files = (.ok config, after))
    (hstart : start catalogue network now before name config = .ok s) :
    ∃ written, Channel.Config.written? text = some written ∧
      (∀ e ∈ written, MatchesNamePattern e.1) ∧
      (∀ e ∈ written, ∀ e' ∈ written, Text.lower e.1 = Text.lower e'.1 → e.1 = e'.1) ∧
      (∀ spelled entry, KeyMap.IsLast written spelled entry →
        s.scene.channel.commands.Holds spelled entry) ∧
      (∀ key command, s.scene.channel.commands.byName.get? key = some command →
        ∃ spelled entry, KeyMap.IsLast written spelled entry ∧ Text.lower spelled = key) ∧
      ((∀ e ∈ written, s.scene.channel.commands.Holds e.1 e.2) ↔
        ∀ e ∈ written, ∀ e' ∈ written, e.1 = e'.1 → e = e') := by
  obtain ⟨written, hwritten, hcommands⟩ :=
    Channel.Config.exists_written_of_read? (Store.read?_of_load htext hload)
  have hvalid := (exists_start_iff ..).1 ⟨s, hstart⟩
  have hlast : ∀ {spelled entry},
      config.commands.get? spelled = some entry ↔ KeyMap.IsLast written spelled entry :=
    hcommands ▸ KeyMap.get?_ofList_eq_some_iff_isLast
  have hread : ∀ e ∈ written, ∃ entry, config.commands.get? e.1 = some entry := by
    intro e he
    rw [hcommands]
    exact (KeyMap.contains_iff _ _).1 (KeyMap.contains_ofList_of_mem he)
  have hholds : ∀ spelled entry, KeyMap.IsLast written spelled entry →
      s.scene.channel.commands.Holds spelled entry := by
    intro spelled entry h
    have hget := hlast.2 h
    exact Commands.holds_of_get? (hvalid.cooldown _ _ hget)
      ((get?_commands_of_start hstart _ _).2 ⟨spelled, entry, hget, rfl, rfl⟩)
  refine ⟨written, hwritten, ?_, ?_, hholds, ?_, ?_, ?_⟩
  · intro e he
    obtain ⟨entry, hget⟩ := hread e he
    exact hvalid.named _ _ hget
  · intro e he e' he' hlower
    obtain ⟨entry, hget⟩ := hread e he
    obtain ⟨entry', hget'⟩ := hread e' he'
    exact hvalid.distinct _ _ _ _ hget hget' hlower
  · intro key command hkey
    obtain ⟨spelled, entry, hget, hlower, -⟩ := (get?_commands_of_start hstart _ _).1 hkey
    exact ⟨spelled, entry, hlast.1 hget, hlower⟩
  · intro hall e he e' he' hname
    have hentry := (hall e he).unique (hname ▸ hall e' he')
    exact Prod.ext hname hentry
  · intro hsame e he
    refine hholds e.1 e.2 (KeyMap.get?_ofList_eq_some_iff_isLast.1 ?_)
    exact (KeyMap.forall_get?_ofList_iff written).2 hsame e he

/-- The working directory with a text in it. -/
def holding (text : String) : FileTree := ⟨[(["room.json"], .file text.toUTF8)], []⟩

/-- A config in which two commands are written. -/
def twoCommands (first second : String) : Json :=
  .object [("meta", .object [("prefix", .string "!")]), ("commands", .object [
    (first, .object [("response", .string "one")]),
    (second, .object [("cooldown", .integer 5), ("response", .string "two")])])]

theorem isFloatFree_twoCommands (first second : String) :
    (twoCommands first second).IsFloatFree := by
  simp [twoCommands, Json.IsFloatFree, Json.MembersFloatFree]

theorem ofText?_twoCommands (first second : String) :
    Json.Raw.ofText? (twoCommands first second).pretty =
      some (Json.shape (twoCommands first second)) :=
  Json.ofText?_pretty (isFloatFree_twoCommands first second)

theorem written_commands_of_start_capitals :
    let text := (twoCommands "Hi" "bye").pretty
    let config : Channel.Config := ⟨"!", .ofList [("Hi", { response := "one" }),
      ("bye", { cooldown := 5, response := "two" })], [], .empty⟩
    ∃ s, (holding text).read? Store.roomStore.path = some text.toUTF8 ∧
      Store.roomStore.load none (holding text) = (.ok config, holding text) ∧
      start Builtin.catalogue .down 0 [] "room" config = .ok s ∧
      s.scene.channel.commands.Holds "Hi" { response := "one" } ∧
      s.scene.channel.commands.Holds "bye" { cooldown := 5, response := "two" } := by
  intro text config
  have htext : (holding text).read? Store.roomStore.path = some text.toUTF8 := rfl
  have hread : Channel.Config.read? text = some config := by
    rw [Channel.Config.read?, ofText?_twoCommands]
    rfl
  have hload := Store.load_of_read? htext hread none
  have hvalid : config.IsValid :=
    config.isValid_iff.2 ⟨by decide +kernel, config.exists_ofEntries_iff.2 (by decide +kernel)⟩
  obtain ⟨s, hstart⟩ := (exists_start_iff Builtin.catalogue .down 0 [] "room" config).2 hvalid
  obtain ⟨written, hwritten, -, -, -, -, hall⟩ := written_commands_of_start htext hload hstart
  obtain rfl : [("Hi", { response := "one" }),
      ("bye", { cooldown := 5, response := "two" })] = written := by
    rw [Channel.Config.written?, ofText?_twoCommands] at hwritten
    exact Option.some.inj hwritten
  have hboth := hall.2 (by decide)
  exact ⟨s, htext, hload, hstart, hboth _ List.mem_cons_self,
    hboth _ (List.mem_cons_of_mem _ List.mem_cons_self)⟩

/-- A text in which one name stands over two commands is loaded and started from, and the first of
them is gone. -/
theorem first_of_two_commands_dropped :
    ∃ (config : Channel.Config) (s : Session Builtin) (first second : StoredCommand),
      Store.roomStore.load none (holding (twoCommands "hi" "hi").pretty) =
        (.ok config, holding (twoCommands "hi" "hi").pretty) ∧
      Channel.Config.written? (twoCommands "hi" "hi").pretty =
        some [("hi", first), ("hi", second)] ∧
      start Builtin.catalogue .down 0 [] "room" config = .ok s ∧
      ¬ s.scene.channel.commands.Holds "hi" first ∧ s.scene.channel.commands.Holds "hi" second := by
  let first : StoredCommand := { response := "one" }
  let second : StoredCommand := { cooldown := 5, response := "two" }
  let config : Channel.Config := ⟨"!", .ofList [("hi", first), ("hi", second)], [], .empty⟩
  have hread : Channel.Config.read? (twoCommands "hi" "hi").pretty = some config := by
    rw [Channel.Config.read?, ofText?_twoCommands]
    rfl
  have hwritten : Channel.Config.written? (twoCommands "hi" "hi").pretty =
      some [("hi", first), ("hi", second)] := by
    rw [Channel.Config.written?, ofText?_twoCommands]
    rfl
  have htext : (holding (twoCommands "hi" "hi").pretty).read? Store.roomStore.path =
    some (twoCommands "hi" "hi").pretty.toUTF8 := rfl
  have hload := Store.load_of_read? htext hread none
  have hvalid : config.IsValid :=
    config.isValid_iff.2 ⟨by decide +kernel, config.exists_ofEntries_iff.2 (by decide +kernel)⟩
  obtain ⟨s, hstart⟩ := (exists_start_iff Builtin.catalogue .down 0 [] "room" config).2 hvalid
  have hsecond : s.scene.channel.commands.Holds "hi" second :=
    Commands.holds_of_get? (by decide)
      ((get?_commands_of_start hstart _ _).2 ⟨"hi", second, by decide +kernel, rfl, rfl⟩)
  refine ⟨config, s, first, second, hload, hwritten, hstart, fun hfirst => ?_, hsecond⟩
  exact absurd (hfirst.unique hsecond) (by decide)

end Session

end CommandBot
