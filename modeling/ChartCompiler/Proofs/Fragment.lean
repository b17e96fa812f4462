import Mathlib
import ChartCompiler.Proofs.Entries

/-!
Fragments as ordered maps. A fragment is determined by its keys, in order, and by its values
(`Fragment.ext_get?`), and merging is known by what it does to both (`Fragment.keys_merge`,
`Fragment.get?_merge`). With the empty fragment it is a monoid, of which composing is the
product, and the product writes all members one fragment after the other
(`Fragment.compose_eq_ofMembers`). So where a key stands is decided by the first fragment that
has it, and what stands under it by the last (`Fragment.compose_folds_merge`). A property of
all members (`Fragment.All`) passes through every way to write a fragment.
-/

namespace ChartCompiler.Fragment

variable {f g : Fragment} {key : String}

/-! ## Keys and values -/

theorem member?_toJson (f : Fragment) (name : String) : f.toJson.member? name = f.get? name :=
  rfl

theorem ext_members (same : f.members = g.members) : f = g := by
  cases f
  cases g
  cases same
  rfl

/-- Fragments are determined by their keys, in order, and by their values. -/
theorem ext_get? (order : Entries.keys f.members = Entries.keys g.members)
    (same : ∀ name, f.get? name = g.get? name) : f = g :=
  ext_members (Entries.ext_get? order f.distinct same)

theorem get?_set (f : Fragment) (key name : String) (value : Json) :
    (f.set key value).get? name = if name = key then some value else f.get? name :=
  Entries.get?_insert ..

theorem isEmpty_set (f : Fragment) (key : String) (value : Json) :
    (f.set key value).isEmpty = false := by
  have found := f.get?_set key key value
  rw [if_pos rfl] at found
  have inside : (key, value) ∈ (f.set key value).members := Entries.mem_of_get? found
  rw [isEmpty, List.isEmpty_eq_false_iff]
  exact List.ne_nil_of_mem inside

theorem get?_merge (f top : Fragment) (name : String) :
    (f.merge top).get? name = (top.get? name).or (f.get? name) :=
  Entries.get?_merge top.distinct f.members name

theorem keys_merge (f top : Fragment) : Entries.keys (f.merge top).members =
    Entries.keys f.members ++
      (Entries.keys top.members).filter fun name => name ∉ Entries.keys f.members :=
  Entries.keys_merge top.distinct f.members

theorem mem_keys_merge (f top : Fragment) (name : String) :
    name ∈ Entries.keys (f.merge top).members ↔
      name ∈ Entries.keys f.members ∨ name ∈ Entries.keys top.members := by
  rw [keys_merge, List.mem_append, List.mem_filter, decide_eq_true_iff]
  tauto

/-! ## Merging -/

theorem merge_assoc (f g h : Fragment) : (f.merge g).merge h = f.merge (g.merge h) := by
  apply ext_get?
  case order =>
    -- a key of the last fragment is new if neither of the others has it, on both sides
    have fresh : ∀ name ∈ Entries.keys h.members,
        decide (name ∉ Entries.keys (f.merge g).members) =
          (decide (name ∉ Entries.keys f.members) && decide (name ∉ Entries.keys g.members)) :=
      fun name _ => by simp [mem_keys_merge]
    rw [keys_merge (f.merge g), List.filter_congr fresh, keys_merge f g, keys_merge f (g.merge h),
      keys_merge g h, List.filter_append, List.filter_filter, List.append_assoc]
  case same =>
    intro name
    rw [get?_merge, get?_merge, get?_merge, get?_merge, Option.or_assoc]

theorem empty_merge (f : Fragment) : empty.merge f = f :=
  ext_members (Entries.ofPairs_of_distinct f.distinct)

theorem merge_empty (f : Fragment) : f.merge empty = f :=
  rfl

/-- Fragments multiply by merging, the right one on top. -/
instance : Monoid Fragment where
  mul := merge
  mul_assoc := merge_assoc
  one := empty
  one_mul := empty_merge
  mul_one := merge_empty

/-! ## Composing -/

theorem compose_concat (fs : List Fragment) (f : Fragment) :
    compose (fs ++ [f]) = (compose fs).merge f :=
  List.foldl_concat ..

theorem compose_pair (f g : Fragment) : compose [f, g] = f.merge g :=
  congrArg (merge · g) (empty_merge f)

theorem compose_eq_prod (fs : List Fragment) : compose fs = fs.prod :=
  List.prod_eq_foldl.symm

theorem compose_append (fs gs : List Fragment) :
    compose (fs ++ gs) = (compose fs).merge (compose gs) := by
  rw [compose_eq_prod, compose_eq_prod, compose_eq_prod]
  exact List.prod_append

/-- Composing writes all members, one fragment after the other. -/
theorem compose_eq_ofMembers (fs : List Fragment) :
    compose fs = ofMembers (fs.flatMap members) := by
  induction fs using List.reverseRecOn with
  | nil => rfl
  | append_singleton fs f ih =>
    rw [compose_concat, ih, List.flatMap_append, List.flatMap_singleton]
    exact ext_members (Entries.ofPairs_append _ _).symm

theorem keys_compose (fs : List Fragment) : Entries.keys (compose fs).members =
    (fs.flatMap fun f => Entries.keys f.members).eraseDups := by
  rw [compose_eq_ofMembers]
  refine (Entries.keys_ofPairs _).trans ?_
  rw [Entries.keys, List.map_flatMap]
  rfl

theorem get?_compose (fs : List Fragment) (key : String) :
    (compose fs).get? key = fs.reverse.findSome? fun f => f.get? key := by
  induction fs using List.reverseRecOn with
  | nil => rfl
  | append_singleton fs f ih =>
    rw [compose_concat, get?_merge, ih, List.reverse_concat, List.findSome?_cons]
    cases f.get? key <;> rfl

/-- What stands under a key comes from the last fragment that has the key. -/
theorem get?_compose_eq_some_iff {fs : List Fragment} {value : Json} :
    (compose fs).get? key = some value ↔
      ∃ before f after, fs = before ++ f :: after ∧ f.get? key = some value ∧
        ∀ later ∈ after, later.get? key = none := by
  rw [get?_compose, List.findSome?_eq_some_iff]
  constructor
  · rintro ⟨after, f, before, reversed, found, without⟩
    refine ⟨before.reverse, f, after.reverse, ?_, found, fun later behind => ?_⟩
    · rw [← List.reverse_reverse fs, reversed]
      simp
    · exact without later (List.mem_reverse.mp behind)
  · rintro ⟨before, f, after, rfl, found, without⟩
    refine ⟨after.reverse, f, before.reverse, by simp, found, fun later behind => ?_⟩
    exact without later (List.mem_reverse.mp behind)

theorem get?_compose_eq_none_iff {fs : List Fragment} :
    (compose fs).get? key = none ↔ ∀ f ∈ fs, f.get? key = none := by
  rw [get?_compose, List.findSome?_eq_none_iff]
  simp only [List.mem_reverse]

/-! ## All members -/

/-- All members of the fragment have the property. -/
def All (p : String × Json → Prop) (f : Fragment) : Prop :=
  ∀ member ∈ f.members, p member

variable {p : String × Json → Prop}

@[simp] theorem all_empty : empty.All p :=
  nofun

theorem all_ofMembers {members : List (String × Json)} (all : ∀ member ∈ members, p member) :
    (ofMembers members).All p := by
  intro member inside
  rcases Entries.mem_of_mem_merge inside with old | new
  · cases old
  · exact all member new

theorem all_ofMembers_iff {members : List (String × Json)}
    (distinct : (Entries.keys members).Nodup) :
    (ofMembers members).All p ↔ ∀ member ∈ members, p member := by
  have written : (ofMembers members).members = members := Entries.ofPairs_of_distinct distinct
  rw [All, written]

theorem All.set {value : Json} (all : f.All p) (written : p (key, value)) :
    (f.set key value).All p := by
  intro member inside
  rcases Entries.mem_of_mem_insert inside with rfl | old
  · exact written
  · exact all member old

theorem All.setSome {value : Option Json} (all : f.All p) (written : ∀ v ∈ value, p (key, v)) :
    (f.setSome key value).All p := by
  cases value with
  | none => exact all
  | some v => exact all.set (written v rfl)

/-- What is merged comes from the top, or from below where nothing is written over it. -/
theorem all_merge_iff : (f.merge g).All p ↔
    (∀ member ∈ f.members, member.1 ∉ Entries.keys g.members → p member) ∧ g.All p := by
  simp only [All, merge, Entries.mem_merge_iff f.distinct g.distinct, or_imp, forall_and, and_imp]

theorem All.merge (all : f.All p) (top : g.All p) : (f.merge g).All p :=
  all_merge_iff.mpr ⟨fun member inside _ => all member inside, top⟩

theorem all_compose {fs : List Fragment} (all : ∀ f ∈ fs, f.All p) : (compose fs).All p := by
  rw [compose_eq_ofMembers]
  refine all_ofMembers fun member inside => ?_
  obtain ⟨f, listed, own⟩ := List.mem_flatMap.mp inside
  exact all f listed member own

/-! ## The laws -/

/-- What a list of fragments comes to. -/
structure Composes (fs : List Fragment) (whole : Fragment) : Prop where
  /-- no key occurs twice -/
  once : (Entries.keys whole.members).Nodup
  /-- the keys stand in the order in which they first occur -/
  first : Entries.keys whole.members = (fs.flatMap fun f => Entries.keys f.members).eraseDups
  /-- the value of a key is the one in the last fragment that has the key -/
  last : ∀ key value, whole.get? key = some value ↔
    ∃ before f after, fs = before ++ f :: after ∧ f.get? key = some value ∧
      ∀ later ∈ after, later.get? key = none
  /-- there is none if no fragment has the key -/
  absent : ∀ key, whole.get? key = none ↔ ∀ f ∈ fs, f.get? key = none

theorem composes_compose (fs : List Fragment) : Composes fs (compose fs) where
  once := (compose fs).distinct
  first := keys_compose fs
  last _ _ := get?_compose_eq_some_iff
  absent _ := get?_compose_eq_none_iff

/-- **Fragments are a monoid, and composing is its fold.** Merging is associative, with the
empty fragment on either side doing nothing, as to values and as to the order of keys. What is
composed of two lists is the two compositions merged; it has the keys in the order in which they
first occur, each with its last value. Removing a key afterwards leaves the others where they
stand, with their values. -/
theorem compose_folds_merge (f g h : Fragment) (fs gs : List Fragment) (key : String) :
    (f.merge g).merge h = f.merge (g.merge h) ∧ empty.merge f = f ∧ f.merge empty = f ∧
    compose fs = fs.prod ∧ compose (fs ++ gs) = (compose fs).merge (compose gs) ∧
    Composes fs (compose fs) ∧
    Entries.keys ((compose fs).erase key).members = (Entries.keys (compose fs).members).erase key ∧
    ∀ name, ((compose fs).erase key).get? name =
      if name = key then none else (compose fs).get? name := by
  refine ⟨merge_assoc f g h, empty_merge f, merge_empty f, compose_eq_prod fs,
    compose_append fs gs, composes_compose fs, ?_, fun name => ?_⟩
  · exact Entries.keys_erase (compose fs).distinct key
  · exact Entries.get?_erase (compose fs).members key name

end ChartCompiler.Fragment
