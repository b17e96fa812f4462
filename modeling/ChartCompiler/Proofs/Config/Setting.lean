import Mathlib
import ChartCompiler.Config.Basic

/-!
Configurations as lists of settings. Beside its kind, a configuration is what it sets:
the fields its channels hold, its display flags and its scales. `ChartConfig.setAll`
makes settings one after the other. Of several settings of one member the last one
stays (`ChartConfig.mem_settings_setAll`), so the settings of a configuration give it
back in every order (`ChartConfig.setAll_of_perm`).
-/

namespace ChartCompiler

/-- A member of a configuration other than its kind. -/
inductive ConfigMember where
  | channel (channel : Channel)
  | hideLegend
  | showTitle
  | scaleX
  | scaleY
deriving DecidableEq

/-- Every member, in declaration order. -/
def ConfigMember.all : List ConfigMember :=
  Channel.all.map channel ++ [hideLegend, showTitle, scaleX, scaleY]

/-- A member of a configuration with its value. -/
inductive Setting where
  | field (channel : Channel) (name : String)
  | hideLegend (b : Bool)
  | showTitle (b : Bool)
  | scaleX (scale : ScaleType)
  | scaleY (scale : ScaleType)
deriving DecidableEq

namespace Setting

/-- The member that is set. -/
def member : Setting → ConfigMember
  | field channel _ => .channel channel
  | hideLegend _ => .hideLegend
  | showTitle _ => .showTitle
  | scaleX _ => .scaleX
  | scaleY _ => .scaleY

/-- The setting stands in the list, and nothing behind it sets the same member. -/
def IsLastIn (s : Setting) (settings : List Setting) : Prop :=
  ∃ before after, settings = before ++ s :: after ∧ ∀ later ∈ after, later.member ≠ s.member

end Setting

namespace ChartConfig

/-- The configuration with one member set. -/
def set (config : ChartConfig) : Setting → ChartConfig
  | .field channel name => config.setField channel (some name)
  | .hideLegend b => { config with hideLegend := some b }
  | .showTitle b => { config with showTitle := some b }
  | .scaleX scale => { config with scaleX := some scale }
  | .scaleY scale => { config with scaleY := some scale }

/-- The configuration with settings made from left to right. -/
def setAll (config : ChartConfig) (settings : List Setting) : ChartConfig :=
  settings.foldl set config

/-- The setting of a member, if it is set. -/
def setting? (config : ChartConfig) : ConfigMember → Option Setting
  | .channel channel => (config.bindings.get channel).map (.field channel)
  | .hideLegend => config.hideLegend.map .hideLegend
  | .showTitle => config.showTitle.map .showTitle
  | .scaleX => config.scaleX.map .scaleX
  | .scaleY => config.scaleY.map .scaleY

/-- What a configuration sets, in declaration order. -/
def settings (config : ChartConfig) : List Setting :=
  ConfigMember.all.filterMap config.setting?

end ChartConfig

/-! ## One setting -/

theorem ConfigMember.mem_all (m : ConfigMember) : m ∈ all := by
  cases m with
  | channel channel => cases channel <;> decide
  | _ => decide

theorem ConfigMember.nodup_all : all.Nodup := by
  decide

namespace ChartConfig

@[simp] theorem kind_set (config : ChartConfig) (s : Setting) :
    (config.set s).kind = config.kind := by
  cases s <;> rfl

/-- Setting a member replaces its value and leaves every other member alone. -/
theorem setting?_set (config : ChartConfig) (s : Setting) (m : ConfigMember) :
    (config.set s).setting? m = if m = s.member then some s else config.setting? m := by
  cases s with
  | field channel name =>
    cases m with
    | channel other =>
      by_cases same : other = channel
      · simp [set, setField, setting?, Setting.member, same]
      · simp [set, setField, setting?, Setting.member, same]
    | _ => rfl
  | _ => cases m <;> rfl

theorem member_of_setting? {config : ChartConfig} {m : ConfigMember} {s : Setting}
    (found : config.setting? m = some s) : s.member = m := by
  cases m <;>
  · obtain ⟨value, -, rfl⟩ := Option.map_eq_some_iff.mp found
    rfl

theorem setting?_eq_some_iff {config : ChartConfig} {m : ConfigMember} {s : Setting} :
    config.setting? m = some s ↔ s.member = m ∧ s ∈ config.settings := by
  constructor
  · intro found
    exact ⟨member_of_setting? found, List.mem_filterMap.mpr ⟨m, m.mem_all, found⟩⟩
  · rintro ⟨rfl, listed⟩
    obtain ⟨m, -, found⟩ := List.mem_filterMap.mp listed
    rw [member_of_setting? found]
    exact found

theorem mem_settings_set (config : ChartConfig) (made s : Setting) :
    s ∈ (config.set made).settings ↔
      s = made ∨ s.member ≠ made.member ∧ s ∈ config.settings := by
  have look := (config.set made).setting?_eq_some_iff (m := s.member) (s := s)
  rw [setting?_set] at look
  by_cases same : s.member = made.member
  · rw [if_pos same, Option.some_inj] at look
    simp only [true_and] at look
    rw [← look]
    simp [same, eq_comm]
  · rw [if_neg same, setting?_eq_some_iff] at look
    simp only [true_and] at look
    rw [← look]
    have other : s ≠ made := fun equal => same (congrArg Setting.member equal)
    simp [same, other]

/-- A configuration is determined by its kind and by what each of its members is set to. -/
theorem ext_setting? {a b : ChartConfig} (kind : a.kind = b.kind)
    (look : ∀ m, a.setting? m = b.setting? m) : a = b := by
  have bindings : a.bindings = b.bindings := by
    apply Bindings.ext_get
    intro channel
    exact Option.map_injective (fun _ _ equal => (Setting.field.inj equal).2) (look (.channel channel))
  have hideLegend : a.hideLegend = b.hideLegend :=
    Option.map_injective (fun _ _ => Setting.hideLegend.inj) (look .hideLegend)
  have showTitle : a.showTitle = b.showTitle :=
    Option.map_injective (fun _ _ => Setting.showTitle.inj) (look .showTitle)
  have scaleX : a.scaleX = b.scaleX :=
    Option.map_injective (fun _ _ => Setting.scaleX.inj) (look .scaleX)
  have scaleY : a.scaleY = b.scaleY :=
    Option.map_injective (fun _ _ => Setting.scaleY.inj) (look .scaleY)
  cases a
  cases b
  simp only at kind bindings hideLegend showTitle scaleX scaleY
  rw [kind, bindings, hideLegend, showTitle, scaleX, scaleY]

/-- A configuration is determined by its kind and its settings. -/
theorem eq_of_mem_settings {a b : ChartConfig} (kind : a.kind = b.kind)
    (same : ∀ s, s ∈ a.settings ↔ s ∈ b.settings) : a = b := by
  refine ext_setting? kind fun m => Option.ext fun s => ?_
  rw [setting?_eq_some_iff, setting?_eq_some_iff, same]

/-- The settings stand in declaration order. -/
theorem sublist_member_settings (config : ChartConfig) :
    (config.settings.map Setting.member).Sublist ConfigMember.all := by
  have listed : ∀ members : List ConfigMember,
      ((members.filterMap config.setting?).map Setting.member).Sublist members := by
    intro members
    induction members with
    | nil => exact .slnil
    | cons m rest ih =>
      cases found : config.setting? m with
      | none =>
        rw [List.filterMap_cons_none found]
        exact ih.cons m
      | some s =>
        rw [List.filterMap_cons_some found, List.map_cons, member_of_setting? found]
        exact ih.cons_cons m
  exact listed ConfigMember.all

/-- A configuration sets no member twice. -/
theorem nodup_member_settings (config : ChartConfig) :
    (config.settings.map Setting.member).Nodup :=
  config.sublist_member_settings.nodup ConfigMember.nodup_all

end ChartConfig

/-! ## Settings one after the other -/

namespace Setting

theorem not_isLastIn_nil (s : Setting) : ¬ s.IsLastIn [] := by
  rintro ⟨before, after, split, -⟩
  simp at split

theorem isLastIn_concat (s made : Setting) (settings : List Setting) :
    s.IsLastIn (settings ++ [made]) ↔
      s = made ∨ s.member ≠ made.member ∧ s.IsLastIn settings := by
  constructor
  · rintro ⟨before, after, split, others⟩
    rcases List.eq_nil_or_concat after with rfl | ⟨after, last, rfl⟩
    · obtain ⟨-, same⟩ := List.append_inj' split rfl
      exact .inl (List.cons.inj same).1.symm
    · have snoc : settings ++ [made] = (before ++ s :: after) ++ [last] := by simpa using split
      obtain ⟨rfl, same⟩ := List.append_inj' snoc rfl
      obtain rfl : made = last := (List.cons.inj same).1
      refine .inr ⟨(others made (by simp)).symm, before, after, rfl, fun later behind => ?_⟩
      exact others later (by simp [behind])
  · rintro (rfl | ⟨other, before, after, rfl, others⟩)
    · exact ⟨settings, [], rfl, nofun⟩
    · refine ⟨before, after ++ [made], by simp, fun later behind => ?_⟩
      rcases List.mem_append.mp behind with behind | isMade
      · exact others later behind
      · rw [List.mem_singleton.mp isMade]
        exact other.symm

/-- In a list that sets no member twice every setting is the last of its member. -/
theorem isLastIn_iff_mem {settings : List Setting} (once : (settings.map member).Nodup)
    (s : Setting) : s.IsLastIn settings ↔ s ∈ settings := by
  constructor
  · rintro ⟨before, after, rfl, -⟩
    simp
  · intro listed
    obtain ⟨before, after, rfl⟩ := List.append_of_mem listed
    rw [List.map_append, List.map_cons, List.nodup_append, List.nodup_cons] at once
    refine ⟨before, after, rfl, fun later behind same => ?_⟩
    exact once.2.1.1 (same ▸ List.mem_map_of_mem behind)

end Setting

namespace ChartConfig

theorem setAll_concat (config : ChartConfig) (settings : List Setting) (s : Setting) :
    config.setAll (settings ++ [s]) = (config.setAll settings).set s :=
  List.foldl_concat ..

@[simp] theorem kind_setAll (config : ChartConfig) (settings : List Setting) :
    (config.setAll settings).kind = config.kind := by
  induction settings using List.reverseRecOn with
  | nil => rfl
  | append_singleton settings s ih => rw [setAll_concat, kind_set, ih]

/-- A configuration that starts out with a kind at most sets in the end what the
last setting of every member says, and nothing else. -/
theorem mem_settings_setAll (kind : Option ChartKind) (settings : List Setting) (s : Setting) :
    s ∈ (setAll { kind } settings).settings ↔ s.IsLastIn settings := by
  induction settings using List.reverseRecOn with
  | nil =>
    have unset : s ∉ (setAll { kind } []).settings := List.not_mem_nil
    exact iff_of_false unset s.not_isLastIn_nil
  | append_singleton settings made ih =>
    rw [setAll_concat, mem_settings_set, Setting.isLastIn_concat, ih]

/-- The settings of a configuration, made in any order, give it back. -/
theorem setAll_of_perm {config : ChartConfig} {settings : List Setting}
    (perm : settings.Perm config.settings) : setAll { kind := config.kind } settings = config := by
  have once : (settings.map Setting.member).Nodup :=
    (perm.map Setting.member).nodup_iff.mpr config.nodup_member_settings
  apply eq_of_mem_settings
  · rw [kind_setAll]
  · intro s
    rw [mem_settings_setAll, Setting.isLastIn_iff_mem once, perm.mem_iff]

end ChartConfig

end ChartCompiler
