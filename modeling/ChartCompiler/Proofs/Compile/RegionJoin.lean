import Mathlib
import ChartCompiler.Proofs.Compile.Drawing

/-!
The join of rows to regions. A map of regions embeds its rows once more, each with the code of
its region in front, and a layer looks the bound fields up in them by that code. Codes are those
of the tables: a label has the code of an entry that it names, blanks and case apart, and no two
entries are named alike (`Chart.Outline.code?_eq_some_iff`). `region_join_keeps` says that no row
is lost and that every bound field keeps its values, with one exception: the member `id` is the
key of the join, so that a bound field of this name gives way to the code.
-/

namespace ChartCompiler

/-! ## Naming a region -/

namespace Geo

/-- The label is the abbreviation or the name of the state, blanks at its ends and the case of
its letters apart. -/
def State.IsNamedBy (state : State) (label : String) : Prop :=
  Text.lower state.abbreviation = Text.lower (Text.trim label) ∨
    Text.lower state.name = Text.lower (Text.trim label)

instance (state : State) (label : String) : Decidable (state.IsNamedBy label) :=
  inferInstanceAs (Decidable (_ ∨ _))

/-- The label is the given name of a country, blanks at its ends and the case of its letters
apart. -/
def IsCountryName (name label : String) : Prop :=
  countryKey name = countryKey (Text.trim label)

/-- A search for an entry of which there is one at most finds it. -/
theorem find?_eq_some_iff_of_unique {α : Type} {entries : List α} {wanted : α → Bool} {entry : α}
    (unique : ∀ other ∈ entries, ∀ entry ∈ entries, wanted other → wanted entry → other = entry) :
    entries.find? wanted = some entry ↔ entry ∈ entries ∧ wanted entry := by
  constructor
  · intro found
    exact ⟨List.mem_of_find?_eq_some found, List.find?_some found⟩
  · rintro ⟨inside, isWanted⟩
    obtain ⟨other, found⟩ := Option.isSome_iff_exists.mp
      (List.find?_isSome.mpr ⟨entry, inside, isWanted⟩)
    rw [found, unique other (List.mem_of_find?_eq_some found) entry inside
      (List.find?_some found) isWanted]

/-- No two abbreviations or names of states are the same, whatever their case. -/
theorem nodup_stateNames :
    (states.flatMap fun s => [Text.lower s.abbreviation, Text.lower s.name]).Nodup := by
  decide +kernel

/-- No two names of countries are the same, whatever their case. -/
theorem nodup_countryKeys : (countryCodes.map fun entry => countryKey entry.1).Nodup := by
  decide +kernel

/-- A label names one state at most. -/
theorem State.IsNamedBy.unique {label : String} {a b : State} (first : a ∈ states)
    (second : b ∈ states) (isA : a.IsNamedBy label) (isB : b.IsNamedBy label) : a = b := by
  by_contra distinct
  have symmetric : Std.Symm (Function.onFun List.Disjoint
      fun s : State => [Text.lower s.abbreviation, Text.lower s.name]) :=
    ⟨fun _ _ => List.Disjoint.symm⟩
  have apart := (List.nodup_flatMap.mp nodup_stateNames).2.forall first second distinct
  have named : ∀ state : State, state.IsNamedBy label →
      Text.lower (Text.trim label) ∈ [Text.lower state.abbreviation, Text.lower state.name] := by
    rintro state (isAbbreviation | isName)
    · simp [isAbbreviation]
    · simp [isName]
  exact apart (named a isA) (named b isB)

theorem findState?_eq_some_iff {label : String} {state : State} :
    findState? label = some state ↔ state ∈ states ∧ state.IsNamedBy label := by
  have unique : ∀ other ∈ states, ∀ state ∈ states,
      decide (other.IsNamedBy label) → decide (state.IsNamedBy label) → other = state := by
    intro other otherInside state inside isOther isState
    exact State.IsNamedBy.unique otherInside inside (of_decide_eq_true isOther)
      (of_decide_eq_true isState)
  rw [← decide_eq_true_iff (p := state.IsNamedBy label)]
  exact find?_eq_some_iff_of_unique unique

theorem findCountry?_eq_some_iff {label : String} {code : Nat} : findCountry? label = some code ↔
    ∃ name, (name, code) ∈ countryCodes ∧ IsCountryName name label := by
  have unique : ∀ other ∈ countryCodes, ∀ entry ∈ countryCodes,
      decide (countryKey other.1 = countryKey (Text.trim label)) →
      decide (countryKey entry.1 = countryKey (Text.trim label)) → other = entry := by
    intro other otherInside entry inside isOther isEntry
    exact List.inj_on_of_nodup_map nodup_countryKeys otherInside inside
      ((of_decide_eq_true isOther).trans (of_decide_eq_true isEntry).symm)
  unfold findCountry?
  simp only [Option.map_eq_some_iff, find?_eq_some_iff_of_unique unique]
  simp [IsCountryName]

end Geo

namespace Chart

/-- The label names a region of the outline with that code. -/
def Outline.Names (outline : Outline) (label : String) (code : Nat) : Prop :=
  match outline with
  | states => ∃ state ∈ Geo.states, state.code = code ∧ state.IsNamedBy label
  | countries => ∃ name, (name, code) ∈ Geo.countryCodes ∧ Geo.IsCountryName name label

theorem Outline.code?_eq_some_iff {outline : Outline} {label : String} {code : Nat} :
    outline.code? label = some code ↔ outline.Names label code := by
  cases outline with
  | states =>
    simp only [code?, Names, Option.map_eq_some_iff, Geo.findState?_eq_some_iff]
    grind
  | countries => exact Geo.findCountry?_eq_some_iff

/-- The key of a label in the join: the code of the region that it names, and nothing if it
names none. -/
inductive Outline.Keys (outline : Outline) (label : String) : Json → Prop
  | region {code : Nat} (names : outline.Names label code) : Keys outline label (.int code)
  | unknown (nameless : ∀ code, ¬ outline.Names label code) : Keys outline label .null

/-! ## Keyed rows -/

/-- What a row says of its region. -/
def regionLabel (geo : String) (row : Row) : String :=
  ((Entries.get? row geo).map Json.label).getD ""

/-- The row of the join: the key of the row's region under `id` in front, and in the fields of
any other name whatever the row holds. -/
structure IsKeyed (outline : Outline) (geo : String) (fields : List String) (row keyed : Row) :
    Prop where
  key : ∃ key rest, keyed = ("id", key) :: rest ∧ outline.Keys (regionLabel geo row) key
  value : ∀ field ∈ fields, field ≠ "id" → Entries.get? keyed field = Entries.get? row field

/-- The code of the region that a label names, as a member of a row. -/
def Outline.key (outline : Outline) (label : String) : Json :=
  match outline.code? label with
  | some code => .int code
  | none => .null

/-- A row of the join as its members. -/
def keyedMembers (outline : Outline) (geo : String) (row : Row) : Row :=
  ("id", outline.key (regionLabel geo row)) :: Entries.erase row "id"

theorem keyedRow_eq (outline : Outline) (geo : String) (row : Row) :
    keyedRow outline geo row = .object (keyedMembers outline geo row) :=
  rfl

theorem Outline.keys_key (outline : Outline) (label : String) :
    outline.Keys label (outline.key label) := by
  unfold key
  split
  next code found => exact .region (Outline.code?_eq_some_iff.mp found)
  next unfound =>
    refine .unknown fun code names => ?_
    rw [← Outline.code?_eq_some_iff, unfound] at names
    cases names

theorem isKeyed_keyedMembers (outline : Outline) (geo : String) (fields : List String)
    (row : Row) : IsKeyed outline geo fields row (keyedMembers outline geo row) where
  key := ⟨_, _, rfl, outline.keys_key _⟩
  value := by
    intro field _ other
    rw [keyedMembers, Entries.get?_cons, if_neg other, Entries.get?_erase, if_neg other]

end Chart

/-! ## The document -/

/-- The second layer of the document looks the fields up by `id` in a table of rows. -/
def Json.LooksUp (document : Json) (fields : List String) (rows : List Row) : Prop :=
  ∃ land regions, document.member? "layer" = some (.array [land, regions]) ∧
    regions.member? "transform" = some (.array
      [.object
         [("lookup", "id"),
          ("from", .object
            [("data", .object [("values", .array (rows.map .object))]),
             ("key", "id"),
             ("fields", .strings fields)])]])

/-- The fields that a map of regions brings along. -/
def ChartConfig.joinedFields (config : ChartConfig) : List String :=
  [Channel.color, .size, .geo].filterMap config.field

/-- The regions look the bound fields up in the keyed rows. -/
theorem Chart.looksUp_choropleth (ctx : ChartContext) (outline : Outline) (geo : String) :
    (choropleth ctx outline geo).toJson.LooksUp ctx.config.joinedFields
      (ctx.data.rows.map (keyedMembers outline geo)) := by
  refine ⟨_, _, rfl, ?_⟩
  rw [List.map_map, Function.comp_def, ← funext (keyedRow_eq outline geo)]
  rfl

/-- A map is never repeated for the values of a field. -/
theorem ChartRequest.document_usaMap (request : ChartRequest) (config : ChartConfig)
    (chart : Fragment) :
    request.document config .usaMap chart = (baseDocument request.data).merge chart := by
  simp [document, ChartKind.isLowLevel, ChartKind.supportsTrellis]

/-- The document of a map of regions looks the bound fields up in the keyed rows. -/
theorem exists_looksUp_of_compile {request : ChartRequest} {resolved : ChartConfig}
    {document : Json}
    (isResolved : resolveConfig request.config request.data request.schema = .ok resolved)
    (isMap : resolved.kind = some .usaMap)
    (unplaced : resolved.field .x = none ∨ resolved.field .y = none)
    (compiled : request.compile = .ok document) :
    ∃ geo outline, resolved.field .geo = some geo ∧
      Chart.outlineOf? (request.context resolved .usaMap) geo = some outline ∧
      document.LooksUp resolved.joinedFields
        (request.data.rows.map (Chart.keyedMembers outline geo)) := by
  obtain ⟨other, kind, chart, isOther, isKind, built, rfl⟩ :=
    ChartRequest.exists_chart_of_compile compiled
  obtain rfl : resolved = other := Except.ok.inj (isResolved.symm.trans isOther)
  obtain rfl : .usaMap = kind := Option.some.inj (isMap.symm.trans isKind)
  have untitled := request.untitled_document resolved built
  rcases Chart.map_eq_ok built with
    ⟨longitude, latitude, isX, isY, -⟩ | ⟨-, outline, geo, isGeo, isOutline, rfl⟩
  · rcases unplaced with noX | noY
    · exact absurd (noX.symm.trans isX) nofun
    · exact absurd (noY.symm.trans isY) nofun
  obtain ⟨land, regions, inLayer, joins⟩ :=
    Chart.looksUp_choropleth (request.context resolved .usaMap) outline geo
  refine ⟨geo, outline, isGeo, isOutline, land, regions, ?_, joins⟩
  rw [Fragment.toJson, request.members_compose_shownTitle resolved untitled,
    request.document_usaMap]
  exact inLayer

/-- **The join loses no row and no value.** A map that compiles without both coordinates is a
map of regions: its document looks the bound colour, size and region up in a table with one row
for each row of the data, in their order, keyed by the code of the row's region. Of the fields
that are looked up, only one named `id` may differ from the data, as this is where the key
stands. -/
theorem region_join_keeps {request : ChartRequest} {resolved : ChartConfig} {document : Json}
    (isResolved : resolveConfig request.config request.data request.schema = .ok resolved)
    (isMap : resolved.kind = some .usaMap)
    (unplaced : resolved.field .x = none ∨ resolved.field .y = none)
    (compiled : request.compile = .ok document) :
    ∃ geo outline rows, resolved.field .geo = some geo ∧
      Chart.outlineOf? (request.context resolved .usaMap) geo = some outline ∧
      document.LooksUp resolved.joinedFields rows ∧
      List.Forall₂ (Chart.IsKeyed outline geo resolved.joinedFields) request.data.rows rows := by
  obtain ⟨geo, outline, isGeo, isOutline, looksUp⟩ :=
    exists_looksUp_of_compile isResolved isMap unplaced compiled
  refine ⟨geo, outline, _, isGeo, isOutline, looksUp, ?_⟩
  rw [List.forall₂_map_right_iff, List.forall₂_same]
  exact fun row _ => Chart.isKeyed_keyedMembers outline geo resolved.joinedFields row

/-- Three rows of a map, which name a state, no state, and nothing at all. -/
theorem region_join_keeps_nameless :
    let request : ChartRequest :=
      { schema := ⟨[{ name := "place", type := .string, traits := ["geo.us_state"] },
          { name := "total", type := .money }], by decide⟩
        data := ⟨[[("total", .int 7), ("place", " new YORK")], [("place", "Atlantis")],
          [("total", .null)]]⟩
        config := ((ChartConfig.ofKind .usaMap).setField .geo "place").setField .color "total" }
    ∃ document rows, request.compile = .ok document ∧
      document.LooksUp ["total", "place"] rows ∧
      List.Forall₂ (Chart.IsKeyed .states "place" ["total", "place"]) request.data.rows rows := by
  intro request
  obtain ⟨document, compiled⟩ : ∃ document, request.compile = .ok document := ⟨_, rfl⟩
  have isResolved : resolveConfig request.config request.data request.schema =
      .ok request.config := rfl
  obtain ⟨geo, outline, rows, isGeo, isOutline, looksUp, keyed⟩ :=
    region_join_keeps isResolved rfl (.inl rfl) compiled
  obtain rfl : "place" = geo := Option.some.inj isGeo
  obtain rfl : .states = outline := Option.some.inj isOutline
  exact ⟨document, rows, compiled, looksUp, keyed⟩

/-- A document tells which rows it looks up. -/
theorem Json.LooksUp.unique {document : Json} {fields : List String} {a b : List Row}
    (first : document.LooksUp fields a) (second : document.LooksUp fields b) : a = b := by
  obtain ⟨land, regions, inLayer, joinsA⟩ := first
  obtain ⟨otherLand, otherRegions, inOtherLayer, joinsB⟩ := second
  rw [inLayer] at inOtherLayer
  obtain ⟨rfl, rfl⟩ : land = otherLand ∧ regions = otherRegions := by simpa using inOtherLayer
  rw [joinsA] at joinsB
  have same : a.map Json.object = b.map Json.object := by simpa using joinsB
  exact List.map_injective_iff.mpr (fun _ _ => Json.object.inj) same

/-- Not every value is kept: an amount that is called `id` gives way to the code of the row's
state. -/
theorem not_region_join_keeps_id :
    ¬ ∀ (request : ChartRequest) (resolved : ChartConfig) (document : Json),
      resolveConfig request.config request.data request.schema = .ok resolved →
      resolved.kind = some .usaMap → resolved.field .x = none ∨ resolved.field .y = none →
      request.compile = .ok document → ∃ rows, document.LooksUp resolved.joinedFields rows ∧
        List.Forall₂ (fun row keyed => ∀ field ∈ resolved.joinedFields,
          Entries.get? keyed field = Entries.get? row field) request.data.rows rows := by
  intro keeps
  let request : ChartRequest :=
    { schema := ⟨[{ name := "state", type := .string, traits := ["geo.us_state_short"] },
        { name := "id", type := .money }], by decide⟩
      data := ⟨[[("state", "CA"), ("id", .int 7)]]⟩
      config := ((ChartConfig.ofKind .usaMap).setField .geo "state").setField .color "id" }
  obtain ⟨document, compiled⟩ : ∃ document, request.compile = .ok document := ⟨_, rfl⟩
  have isResolved : resolveConfig request.config request.data request.schema =
      .ok request.config := rfl
  obtain ⟨rows, looksUp, keeps⟩ :=
    keeps request request.config document isResolved rfl (.inl rfl) compiled
  obtain ⟨geo, outline, isGeo, isOutline, keyed⟩ :=
    exists_looksUp_of_compile isResolved rfl (.inl rfl) compiled
  obtain rfl : "state" = geo := Option.some.inj isGeo
  obtain rfl : .states = outline := Option.some.inj isOutline
  rw [looksUp.unique keyed] at keeps
  cases keeps with
  | cons kept _ => exact absurd (kept "id" (by decide)) (by decide +kernel)

end ChartCompiler
