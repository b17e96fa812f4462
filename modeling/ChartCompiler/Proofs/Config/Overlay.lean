import Mathlib
import ChartCompiler.Proofs.Config.Eligible
import ChartCompiler.Proofs.Config.Setting

/-!
Laying one configuration over another. Member by member there is one rule for all
(`ChartConfig.setting?_overlay`): what the top sets wins and everything else stays, where a
channel that holds the empty text is not set. So overlays may be taken together in any grouping
(`ChartConfig.overlay_assoc`), and neither a configuration over itself nor nothing over it makes
a difference (`ChartConfig.overlay_self`, `ChartConfig.overlay_empty`). No channel is unbound on
the way, and what a kind requires stays bound as long as it stays the kind
(`ChartConfig.hasRequiredBindings_overlay`).
-/

namespace ChartCompiler

/-- The setting wins over what is below. A channel that is set to the empty text is not bound. -/
def Setting.counts : Setting → Bool
  | field _ name => name ≠ ""
  | _ => true

/-! ## What counts, over what is there -/

section Over

variable {α : Type} (p : α → Bool) (top base : Option α)

theorem filter_or_self : (base.filter p).or base = base := by
  cases base with
  | none => rfl
  | some a => cases counts : p a <;> simp [Option.filter_some, counts]

theorem filter_filter_or : ((top.filter p).or base).filter p =
    (top.filter p).or (base.filter p) := by
  cases top with
  | none => rfl
  | some a => cases counts : p a <;> simp [Option.filter_some, counts]

theorem filter_map_of_forall {β : Type} {f : β → α} (all : ∀ b, p (f b)) (found : Option β) :
    (found.map f).filter p = found.map f := by
  cases found with
  | none => rfl
  | some b => exact Option.filter_some_pos (all b)

end Over

namespace ChartConfig

/-! ## Member by member -/

theorem kind_overlay (base top : ChartConfig) :
    (base.overlay top).kind = top.kind.or base.kind :=
  rfl

theorem get_overlay (base top : ChartConfig) (channel : Channel) :
    (base.overlay top).bindings.get channel =
      (top.field channel).or (base.bindings.get channel) :=
  Bindings.get_ofFn _ channel

/-- What is laid on top wins where it is bound. -/
theorem field_overlay (base top : ChartConfig) (channel : Channel) :
    (base.overlay top).field channel = (top.field channel).or (base.field channel) := by
  rw [field, get_overlay]
  exact filter_filter_or (fun name : String => name ≠ "") _ _

/-- What is laid on top wins where it counts, whatever the member. -/
theorem setting?_overlay (base top : ChartConfig) (m : ConfigMember) :
    (base.overlay top).setting? m =
      ((top.setting? m).filter Setting.counts).or (base.setting? m) := by
  cases m with
  | channel channel =>
    rw [setting?, setting?, setting?, get_overlay, Option.map_or, Option.filter_map]
    rfl
  | _ =>
    -- a flag or a scale counts whenever it is set
    rw [setting?, setting?, filter_map_of_forall Setting.counts fun _ => rfl]
    exact Option.map_or

theorem setting?_empty (m : ConfigMember) : ({} : ChartConfig).setting? m = none := by
  cases m with
  | channel channel => cases channel <;> rfl
  | _ => rfl

/-! ## The laws -/

theorem overlay_assoc (base middle top : ChartConfig) :
    (base.overlay middle).overlay top = base.overlay (middle.overlay top) := by
  refine ext_setting? Option.or_assoc.symm fun m => ?_
  rw [setting?_overlay, setting?_overlay, setting?_overlay, setting?_overlay, filter_filter_or,
    Option.or_assoc]

theorem overlay_self (config : ChartConfig) : config.overlay config = config := by
  refine ext_setting? Option.or_self fun m => ?_
  rw [setting?_overlay, filter_or_self]

theorem overlay_empty (base : ChartConfig) : base.overlay {} = base := by
  refine ext_setting? rfl fun m => ?_
  rw [setting?_overlay, setting?_empty, Option.filter_none, Option.none_or]

/-- What was laid over a base already may be laid over it again. -/
theorem overlay_overlay (base top : ChartConfig) :
    base.overlay (base.overlay top) = base.overlay top := by
  rw [← overlay_assoc, overlay_self]

/-- Laying a configuration over another twice is laying it over once. -/
theorem overlay_overlay_self (base top : ChartConfig) :
    (base.overlay top).overlay top = base.overlay top := by
  rw [overlay_assoc, overlay_self]

/-! ## Bound channels -/

theorem binds_overlay {base top : ChartConfig} {channel : Channel} (binds : base.Binds channel) :
    (base.overlay top).Binds channel := by
  unfold Binds at binds ⊢
  rw [field_overlay, Option.isSome_or, binds, Bool.or_true]

/-- What the kind requires is still bound under anything that leaves the kind alone. -/
theorem hasRequiredBindings_overlay {base top : ChartConfig} (required : base.hasRequiredBindings)
    (own : top.kind.or base.kind = base.kind) : (base.overlay top).hasRequiredBindings := by
  obtain ⟨kind, isKind, requires⟩ := hasRequiredBindings_iff.mp required
  refine hasRequiredBindings_iff.mpr ⟨kind, ?_, requires.mono fun _ => binds_overlay⟩
  rw [kind_overlay, own, isKind]

/-- **Overlays act from the right.** Laying two configurations over a third in turn is laying
one over the other first; a configuration over itself and the empty configuration over any make
no difference. Each member is what the top sets it to, or else what it was; so no channel is
unbound, and a configuration that has what its kind requires keeps it under any other that names
no kind or the same one. -/
theorem overlay_acts (base middle top : ChartConfig) :
    (base.overlay middle).overlay top = base.overlay (middle.overlay top) ∧
    base.overlay base = base ∧ base.overlay {} = base ∧
    (base.overlay top).kind = top.kind.or base.kind ∧
    (∀ m, (base.overlay top).setting? m =
      ((top.setting? m).filter Setting.counts).or (base.setting? m)) ∧
    (∀ channel, base.Binds channel → (base.overlay top).Binds channel) ∧
    (base.hasRequiredBindings → top.kind = none ∨ top.kind = base.kind →
      (base.overlay top).hasRequiredBindings) := by
  refine ⟨overlay_assoc base middle top, overlay_self base, overlay_empty base,
    kind_overlay base top, setting?_overlay base top, fun _ => binds_overlay,
    fun required own => hasRequiredBindings_overlay required ?_⟩
  rcases own with noKind | same
  · rw [noKind, Option.none_or]
  · rw [same, Option.or_self]

/-- A treemap with an empty text in one channel, under a configuration of its own kind that has
the empty text in another. -/
theorem overlay_acts_nameless :
    let base : ChartConfig :=
      { kind := some .treemap, bindings := { x := "region", y := "", size := "revenue" } }
    let top : ChartConfig :=
      { kind := some .treemap, bindings := { x := "", size := "cost", color := "segment" }
        hideLegend := true }
    (base.hasRequiredBindings ∧ top.kind = base.kind ∧ base.Binds .x) ∧
      base.overlay top =
        { kind := some .treemap
          bindings := { x := "region", y := "", size := "cost", color := "segment" }
          hideLegend := true } ∧
      (base.overlay top).Binds .x ∧ (base.overlay top).hasRequiredBindings := by
  intro base top
  obtain ⟨-, -, -, -, -, bound, required⟩ := overlay_acts base {} top
  exact ⟨⟨rfl, rfl, rfl⟩, rfl, bound .x rfl, required rfl (.inr rfl)⟩

end ChartConfig

end ChartCompiler
