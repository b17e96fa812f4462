import Mathlib
import ChartCompiler.CommandLine.Answer
import ChartCompiler.Proofs.Json.FlatRecord
import ChartCompiler.Proofs.Shorthand.Writing

/-!
The two spellings of a configuration. As JSON it is a flat record with one member for the
kind and one for each setting, and taking in such a member makes that setting. As
shorthand it is a call with one argument for each setting. The command tells the two apart
by their first character, and `readConfig_inverts_spellings` says that it gives back the
configuration that was written, whichever spelling it is handed.
-/

namespace ChartCompiler

/-! ## Settings as members -/

/-- The name of a member in JSON. -/
def ConfigMember.jsonName : ConfigMember → String
  | .channel c => c.key
  | .hideLegend => "hideLegend"
  | .showTitle => "showTitle"
  | .scaleX => "scaleX"
  | .scaleY => "scaleY"

/-- The value of a setting in JSON. -/
def Setting.json : Setting → Json
  | .field _ name => .string name
  | .hideLegend b | .showTitle b => .bool b
  | .scaleX scale | .scaleY scale => .string scale.name

/-- A setting as a member of a JSON object. -/
def Setting.entry (s : Setting) : String × Json :=
  (s.member.jsonName, s.json)

/-- The member that holds a kind. -/
def kindEntry (kind : ChartKind) : String × Json :=
  ("chartType", .string kind.name)

namespace ChartConfig

/-- A configuration is written as its kind and its settings. -/
theorem members_eq (config : ChartConfig) :
    config.members = config.kind.toList.map kindEntry ++ config.settings.map Setting.entry := by
  have channels : (Channel.all.filterMap fun channel =>
      (config.bindings.get channel).map fun f => (channel.key, Json.string f)) =
      ((Channel.all.map ConfigMember.channel).filterMap config.setting?).map Setting.entry := by
    rw [List.filterMap_map, List.map_filterMap]
    congr 1
    funext channel
    rw [Function.comp_apply, setting?, Option.map_map]
    rfl
  obtain ⟨kind, bindings, hideLegend, showTitle, scaleX, scaleY⟩ := config
  unfold members settings ConfigMember.all
  rw [List.filterMap_append, List.map_append, ← channels]
  simp only [List.append_assoc]
  congr 2
  cases hideLegend <;> cases showTitle <;> cases scaleX <;> cases scaleY <;> rfl

/-! ## Reading members back -/

theorem step_kindEntry (config : ChartConfig) (kind : ChartKind) :
    config.step (kindEntry kind).1 (kindEntry kind).2 = .ok { config with kind := some kind } := by
  cases kind <;> rfl

/-- Taking in the member of a setting makes the setting. -/
theorem step_entry (config : ChartConfig) (s : Setting) :
    config.step s.entry.1 s.entry.2 = .ok (config.set s) := by
  cases s with
  | field channel name => cases channel <;> rfl
  | hideLegend b => rfl
  | showTitle b => rfl
  | scaleX scale => cases scale <;> rfl
  | scaleY scale => cases scale <;> rfl

theorem foldlM_step_entry (config : ChartConfig) (settings : List Setting) :
    (settings.map Setting.entry).foldlM (fun acc member => acc.step member.1 member.2) config =
      (.ok (config.setAll settings) : Decoded ChartConfig) := by
  induction settings generalizing config with
  | nil => rfl
  | cons s settings ih =>
    rw [List.map_cons, List.foldlM_cons, step_entry]
    exact ih (config.set s)

theorem ofJson_toJson (config : ChartConfig) : ofJson config.toJson = .ok config := by
  have folded : config.members.foldlM (fun acc member => acc.step member.1 member.2) {} =
      (.ok (setAll { kind := config.kind } config.settings) : Decoded ChartConfig) := by
    rw [members_eq, List.foldlM_append]
    cases config.kind with
    | none => exact foldlM_step_entry {} config.settings
    | some kind =>
      simp only [Option.toList_some, List.map_cons, List.map_nil, List.foldlM_cons, List.foldlM_nil,
        step_kindEntry]
      exact foldlM_step_entry { kind := some kind } config.settings
  rw [setAll_of_perm (List.Perm.refl _)] at folded
  exact folded

/-! ## JSON text -/

/-- The members that are written stand in declaration order. -/
theorem sublist_memberNames (config : ChartConfig) :
    (config.members.map Prod.fst).Sublist memberNames := by
  have kind : ((config.kind.toList.map kindEntry).map Prod.fst).Sublist ["chartType"] := by
    cases config.kind with
    | none => exact List.nil_sublist _
    | some kind => exact List.Sublist.refl _
  have settings := config.sublist_member_settings.map ConfigMember.jsonName
  rw [List.map_map] at settings
  rw [members_eq, List.map_append, List.map_map (f := Setting.entry)]
  exact kind.append settings

theorem nodup_members (config : ChartConfig) : (config.members.map Prod.fst).Nodup :=
  config.sublist_memberNames.nodup (by decide)

theorem isFlatRecord_members (config : ChartConfig) :
    Json.IsFlatRecord (memberNames.contains ·) config.members := by
  intro member inside
  have isKnown := config.sublist_memberNames.subset (List.mem_map_of_mem inside)
  refine ⟨List.contains_iff_mem.mpr isKnown, ?_⟩
  rw [members_eq, List.mem_append] at inside
  rcases inside with inside | inside
  · obtain ⟨kind, -, rfl⟩ := List.mem_map.mp inside
    exact .string kind.name
  · obtain ⟨s, -, rfl⟩ := List.mem_map.mp inside
    cases s with
    | field channel name => exact .string name
    | hideLegend b => exact .bool b
    | showTitle b => exact .bool b
    | scaleX scale => exact .string scale.name
    | scaleY scale => exact .string scale.name

theorem read?_compact (config : ChartConfig) : read? config.toJson.compact = some config := by
  have members := Json.readRecord?_chars config.isFlatRecord_members config.nodup_members
  change Json.readRecord? (memberNames.contains ·) config.toJson.chars = _ at members
  unfold read? Json.compact
  rw [String.toList_ofList, members]
  change (ofJson config.toJson).toOption = _
  rw [ofJson_toJson]
  rfl

theorem exists_compact_eq (config : ChartConfig) :
    ∃ rest, config.toJson.compact.toList = '\x7b' :: rest := by
  unfold Json.compact toJson
  rw [String.toList_ofList]
  cases config.members with
  | nil => exact ⟨_, rfl⟩
  | cons member members => exact ⟨_, rfl⟩

end ChartConfig

/-! ## Both spellings -/

namespace CommandLine

theorem head?_dropWhile_isBlank {c : Char} (notBlank : Text.isBlank c = false) (rest : List Char) :
    ((c :: rest).dropWhile Text.isBlank).head? = some c := by
  rw [List.dropWhile_cons_of_neg (by simp [notBlank]), List.head?_cons]

theorem readConfig_of_brace {text : String} {rest : List Char}
    (split : text.toList = '\x7b' :: rest) :
    readConfig text = orFail .configNotJson (ChartConfig.read? text) := by
  unfold readConfig
  rw [split, head?_dropWhile_isBlank (by decide)]
  exact if_pos rfl

theorem readConfig_of_name {text : String} {kind : ChartKind} {rest : List Char}
    (split : text.toList = kind.name.toList ++ rest) :
    readConfig text = (Shorthand.parse text).mapError .chart := by
  have start : kind.name.toList.head?.any (fun c => !Text.isBlank c && c ≠ '\x7b') = true := by
    cases kind <;> decide
  cases letters : kind.name.toList with
  | nil => simp [letters] at start
  | cons c word =>
    rw [letters] at start split
    simp only [List.head?_cons, Option.any_some, Bool.and_eq_true, Bool.not_eq_true',
      decide_eq_true_eq] at start
    unfold readConfig
    rw [split, List.cons_append, head?_dropWhile_isBlank start.1]
    exact if_neg fun same => start.2 (Option.some.inj same)

/-- **Nothing is lost in writing.** A configuration is read back from its JSON text, and,
if it has a kind, from every shorthand text that makes each of its settings once. Without a
kind it has no shorthand. -/
theorem readConfig_inverts_spellings (config : ChartConfig) :
    readConfig config.toJson.compact = .ok config ∧
    (∀ kind settings, config.kind = some kind → settings.Perm config.settings →
      readConfig (Shorthand.write kind settings) = .ok config) ∧
    (config.kind = none → ∀ text, Shorthand.parse text ≠ .ok config) := by
  refine ⟨?_, ?_, ?_⟩
  · obtain ⟨rest, split⟩ := config.exists_compact_eq
    rw [readConfig_of_brace split, ChartConfig.read?_compact]
    rfl
  · intro kind settings isKind perm
    have same := ChartConfig.setAll_of_perm perm
    rw [isKind] at same
    obtain ⟨rest, split⟩ := Shorthand.exists_toList_write kind settings
    rw [readConfig_of_name split, Shorthand.parse_write]
    exact congrArg Except.ok same
  · intro noKind text read
    obtain ⟨kind, isKind⟩ := Shorthand.exists_kind_of_parse read
    rw [noKind] at isKind
    cases isKind

/-- A map whose columns have awkward names, with its settings out of order, and a
configuration that only sets a flag. -/
theorem readConfig_awkward_names :
    let map : ChartConfig :=
      { kind := some .usaMap
        bindings := { x := some "", y2 := some "a\"b\\", geo := some "(c, d: \n", note := some "ü" }
        hideLegend := some false
        scaleY := some .symlog }
    let settings : List ChartCompiler.Setting :=
      [.scaleY .symlog, .field .note "ü", .field .x "", .hideLegend false,
        .field .geo "(c, d: \n", .field .y2 "a\"b\\"]
    let flag : ChartConfig := { showTitle := some true }
    settings.Perm map.settings ∧
      readConfig ("usa-map(scale_y: symlog, annotation: \"ü\", x: \"\", hide_legend: false, " ++
        "geo: \"(c, d: \n\", y2: \"a\\\"b\\\\\")") = .ok map ∧
      readConfig "\x7b\"showTitle\":true\x7d" = .ok flag ∧
      ∀ text, Shorthand.parse text ≠ .ok flag := by
  intro map settings flag
  have perm : settings.Perm map.settings := by decide
  have read := (readConfig_inverts_spellings map).2.1 .usaMap settings rfl perm
  have written : Shorthand.write .usaMap settings =
      "usa-map(scale_y: symlog, annotation: \"ü\", x: \"\", hide_legend: false, " ++
        "geo: \"(c, d: \n\", y2: \"a\\\"b\\\\\")" := rfl
  rw [written] at read
  exact ⟨perm, read, (readConfig_inverts_spellings flag).1,
    (readConfig_inverts_spellings flag).2.2 rfl⟩

end CommandLine

end ChartCompiler
