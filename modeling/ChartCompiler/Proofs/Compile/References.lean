import Mathlib
import ChartCompiler.Fragment
import ChartCompiler.Proofs.Fragment

/-!
Names in documents. A document declares names in its lists of parameters, scales and data
sets, and uses them in members that name one of these; `Json.declared` and `Json.used` collect
both over the whole tree, except for embedded rows and for the values that parameters and
signals start with, which are the user's. A value is `Quiet` if it declares nothing and uses
nothing but given names, and it `Introduces` the names it declares; both are put together
member by member and survive merging.
-/

namespace ChartCompiler

/-! ## Collecting names -/

/-- What a name in a document stands for. -/
inductive NameSort where
  | parameter
  | scale
  | dataSet
deriving DecidableEq, Repr

/-- A name with what it stands for. -/
abbrev DocumentName := NameSort × String

namespace NameSort

/-- The sort of names that the items of a list declare, by the key of the list. -/
def ofListKey? (key : String) : Option NameSort :=
  if key = "params" then some parameter
  else if key = "scales" then some scale
  else if key = "data" then some dataSet
  else none

/-- The sort of the name that a text uses, by the key of the text. -/
def ofUseKey? (key : String) : Option NameSort :=
  if key = "param" then some parameter
  else if key = "scale" then some scale
  else if key = "data" then some dataSet
  else none

end NameSort

namespace Json

/-- The items below the key are declarations with a value to start with. -/
def seeds (key : String) : Bool :=
  key = "params" || key = "signals"

/-- The member holds what the user brought along: rows, or the value that a declaration
starts with. -/
def isUserMember (declaration : Bool) (key : String) : Bool :=
  key = "values" || (declaration && key = "value")

mutual

/-- The members of a value at any depth, without what is inside the user's. -/
def allMembers (declaration : Bool) : Json → List (String × Json)
  | .array items => itemsMembers declaration items
  | .object members => membersMembers declaration members
  | .null | .bool _ | .number _ | .string _ => []

/-- The members at any depth of the items of an array. -/
def itemsMembers (declaration : Bool) : List Json → List (String × Json)
  | [] => []
  | item :: rest => item.allMembers declaration ++ itemsMembers declaration rest

/-- The members of an object and those below them. -/
def membersMembers (declaration : Bool) : List (String × Json) → List (String × Json)
  | [] => []
  | (key, value) :: rest =>
    (key, value) :: ((if isUserMember declaration key then [] else value.allMembers (seeds key)) ++
      membersMembers declaration rest)

end

/-- The names that a member declares: those of the items of its list. -/
def declaredBy (member : String × Json) : List DocumentName :=
  match NameSort.ofListKey? member.1, member.2 with
  | some sort, .array items =>
    items.filterMap fun item => ((item.member? "name").bind asString?).map (sort, ·)
  | _, _ => []

/-- The name that a member uses, if it is the text of one. -/
def usedBy (member : String × Json) : List DocumentName :=
  match NameSort.ofUseKey? member.1, member.2 with
  | some sort, .string name => [(sort, name)]
  | _, _ => []

/-- The names that are declared in a document, at any depth. -/
def declared (document : Json) : List DocumentName :=
  (document.allMembers false).flatMap declaredBy

/-- The names that are used in a document, at any depth. -/
def used (document : Json) : List DocumentName :=
  (document.allMembers false).flatMap usedBy

/-- No name is declared twice, and no name dangles. -/
structure Closed (document : Json) : Prop where
  distinct : document.declared.Nodup
  resolved : ∀ name ∈ document.used, name ∈ document.declared

/-! ## Going through the tree -/

variable {declaration : Bool} {uses names : List DocumentName} {members : List (String × Json)}

/-- A member and those below it, without what is inside the user's. -/
def withInner (declaration : Bool) (member : String × Json) : List (String × Json) :=
  member :: if isUserMember declaration member.1 then [] else member.2.allMembers (seeds member.1)

theorem allMembers_array (declaration : Bool) (items : List Json) :
    (array items).allMembers declaration = items.flatMap (allMembers declaration) := by
  rw [allMembers]
  induction items with
  | nil => rfl
  | cons item rest ih => rw [itemsMembers, ih, List.flatMap_cons]

theorem allMembers_object (declaration : Bool) (members : List (String × Json)) :
    (object members).allMembers declaration = members.flatMap (withInner declaration) := by
  rw [allMembers]
  induction members with
  | nil => rfl
  | cons member rest ih => rw [membersMembers, ih, List.flatMap_cons, withInner, List.cons_append]

/-! ## Values that declare nothing -/

/-- The member itself declares nothing, and uses nothing but the given names. -/
def QuietHere (uses : List DocumentName) (member : String × Json) : Prop :=
  declaredBy member = [] ∧ ∀ name ∈ usedBy member, name ∈ uses

/-- Nothing in the value declares a name, or uses a name other than the given ones. -/
def Quiet (declaration : Bool) (uses : List DocumentName) (value : Json) : Prop :=
  ∀ member ∈ value.allMembers declaration, QuietHere uses member

/-- Nothing in the member declares a name, or uses a name other than the given ones. -/
def QuietMember (declaration : Bool) (uses : List DocumentName) (member : String × Json) : Prop :=
  ∀ inner ∈ withInner declaration member, QuietHere uses inner

@[simp] theorem quiet_null : Quiet declaration uses .null :=
  nofun

@[simp] theorem quiet_bool (value : Bool) : Quiet declaration uses (.bool value) :=
  nofun

@[simp] theorem quiet_number (value : Number) : Quiet declaration uses (.number value) :=
  nofun

@[simp] theorem quiet_string (value : String) : Quiet declaration uses (.string value) :=
  nofun

@[simp] theorem quiet_ofNat (n : Nat) : Quiet declaration uses (no_index (OfNat.ofNat n)) :=
  nofun

@[simp] theorem quiet_int (n : Int) : Quiet declaration uses (.int n) :=
  nofun

@[simp] theorem quiet_ofFloat (x : Float) : Quiet declaration uses (.ofFloat x) := by
  unfold ofFloat
  split
  next => exact quiet_number _
  next => exact quiet_null

@[simp] theorem quiet_ofScientific (mantissa : Nat) (negative : Bool) (exponent : Nat) :
    Quiet declaration uses (OfScientific.ofScientific mantissa negative exponent) :=
  quiet_ofFloat _

@[simp] theorem quiet_array (items : List Json) :
    Quiet declaration uses (.array items) ↔ ∀ item ∈ items, Quiet declaration uses item := by
  unfold Quiet
  rw [allMembers_array]
  simp only [List.mem_flatMap]
  grind

@[simp] theorem quiet_object (members : List (String × Json)) :
    Quiet declaration uses (.object members) ↔
      ∀ member ∈ members, QuietMember declaration uses member := by
  unfold Quiet QuietMember
  rw [allMembers_object]
  simp only [List.mem_flatMap]
  grind

@[simp] theorem quiet_strings (items : List String) : Quiet declaration uses (.strings items) := by
  simp [strings]

@[simp] theorem quiet_ite {condition : Prop} [Decidable condition] {a b : Json} :
    Quiet declaration uses (if condition then a else b) ↔
      (condition → Quiet declaration uses a) ∧ (¬ condition → Quiet declaration uses b) := by
  split <;> simp_all

theorem quietMember_iff {key : String} {value : Json} :
    QuietMember declaration uses (key, value) ↔ QuietHere uses (key, value) ∧
      (isUserMember declaration key = false → Quiet (seeds key) uses value) := by
  unfold QuietMember withInner
  rw [List.forall_mem_cons]
  refine and_congr_right fun _ => ?_
  cases isUserMember declaration key <;> simp [Quiet]

/-- Keys that neither declare nor use names and do not hold what is the user's. -/
@[simp] theorem quietMember_plain {key : String} {value : Json}
    (plain : key ∉ ["params", "signals", "scales", "data", "param", "scale", "values"])
    (ordinary : key ≠ "value") :
    QuietMember declaration uses (key, value) ↔ Quiet false uses value := by
  rw [quietMember_iff]
  simp only [List.mem_cons, List.not_mem_nil, or_false, not_or] at plain
  simp [QuietHere, declaredBy, usedBy, NameSort.ofListKey?, NameSort.ofUseKey?, isUserMember, seeds,
    plain, ordinary]

section

variable {key : String} {value : Json}

/-- A member whose key tells which names it uses. -/
theorem quietMember_of_key (declares : declaredBy (key, value) = [])
    (isUses : usedBy (key, value) = names) :
    QuietMember declaration uses (key, value) ↔ (∀ name ∈ names, name ∈ uses) ∧
      (isUserMember declaration key = false → Quiet (seeds key) uses value) := by
  rw [quietMember_iff, QuietHere, declares, isUses, eq_self, true_and]

theorem quietMember_of_user (declares : declaredBy (key, value) = [])
    (isUses : usedBy (key, value) = []) (user : isUserMember declaration key = true) :
    QuietMember declaration uses (key, value) := by
  rw [quietMember_of_key declares isUses, user]
  exact ⟨List.forall_mem_nil _, nofun⟩

theorem quietMember_of_inner (declares : declaredBy (key, value) = [])
    (isUses : usedBy (key, value) = []) (inner : isUserMember declaration key = false) :
    QuietMember declaration uses (key, value) ↔ Quiet (seeds key) uses value := by
  rw [quietMember_of_key declares isUses]
  exact ⟨fun quiet => quiet.2 inner, fun quiet => ⟨List.forall_mem_nil _, fun _ => quiet⟩⟩

theorem quietMember_of_use {sort : NameSort} {name : String}
    (declares : declaredBy (key, .string name) = [])
    (isUses : usedBy (key, .string name) = [(sort, name)]) :
    QuietMember declaration uses (key, .string name) ↔ (sort, name) ∈ uses := by
  rw [quietMember_of_key declares isUses, List.forall_mem_singleton]
  exact and_iff_left fun _ => quiet_string name

theorem isUserMember_of_ne (notRows : key ≠ "values") (notStart : key ≠ "value") :
    isUserMember declaration key = false := by
  simp [isUserMember, notRows, notStart]

end

@[simp] theorem quietMember_seed (value : Json) : QuietMember true uses ("value", value) :=
  quietMember_of_user rfl rfl rfl

@[simp] theorem quietMember_value {value : Json} :
    QuietMember false uses ("value", value) ↔ Quiet false uses value :=
  quietMember_of_inner rfl rfl rfl

@[simp] theorem quietMember_values (value : Json) :
    QuietMember declaration uses ("values", value) :=
  quietMember_of_user rfl rfl rfl

@[simp] theorem quietMember_signals {items : List Json} :
    QuietMember declaration uses ("signals", .array items) ↔ ∀ item ∈ items, Quiet true uses item :=
  (quietMember_of_inner rfl rfl (isUserMember_of_ne (by decide) (by decide))).trans
    (quiet_array items)

@[simp] theorem quietMember_param {name : String} :
    QuietMember declaration uses ("param", .string name) ↔ (.parameter, name) ∈ uses :=
  quietMember_of_use rfl rfl

@[simp] theorem quietMember_scale {name : String} :
    QuietMember declaration uses ("scale", .string name) ↔ (.scale, name) ∈ uses :=
  quietMember_of_use rfl rfl

@[simp] theorem quietMember_scale_object {members : List (String × Json)} :
    QuietMember declaration uses ("scale", .object members) ↔
      ∀ member ∈ members, QuietMember false uses member :=
  (quietMember_of_inner rfl rfl (isUserMember_of_ne (by decide) (by decide))).trans
    (quiet_object members)

@[simp] theorem quietMember_data {name : String} :
    QuietMember declaration uses ("data", .string name) ↔ (.dataSet, name) ∈ uses :=
  quietMember_of_use rfl rfl

@[simp] theorem quietMember_data_object {members : List (String × Json)} :
    QuietMember declaration uses ("data", .object members) ↔
      ∀ member ∈ members, QuietMember false uses member :=
  (quietMember_of_inner rfl rfl (isUserMember_of_ne (by decide) (by decide))).trans
    (quiet_object members)

/-! ## Values that declare names -/

/-- Members that declare the names, in some order, and use nothing but the given names. -/
structure Collects (uses names : List DocumentName) (members : List (String × Json)) : Prop where
  declared : (members.flatMap declaredBy).Perm names
  used : ∀ name ∈ members.flatMap usedBy, name ∈ uses

/-- The value declares the names, and uses nothing but the given names. -/
def Introduces (uses names : List DocumentName) (value : Json) : Prop :=
  Collects uses names (value.allMembers false)

/-- The members declare the names, and use nothing but the given names. -/
def MembersIntroduce (uses names : List DocumentName) (members : List (String × Json)) : Prop :=
  Collects uses names (members.flatMap (withInner false))

variable {value : Json} {more : List DocumentName} {items : List Json}

theorem Collects.append {later : List (String × Json)} (first : Collects uses names members)
    (second : Collects uses more later) : Collects uses (names ++ more) (members ++ later) where
  declared := by
    rw [List.flatMap_append]
    exact first.declared.append second.declared
  used := by
    intro name inside
    rw [List.flatMap_append] at inside
    rcases List.mem_append.mp inside with inside | inside
    · exact first.used name inside
    · exact second.used name inside

theorem Collects.of_quiet (quiet : ∀ member ∈ members, QuietHere uses member) :
    Collects uses [] members where
  declared := by
    rw [List.flatMap_eq_nil_iff.mpr fun member inside => (quiet member inside).1]
  used := by
    intro name inside
    obtain ⟨member, inside, isUsed⟩ := List.mem_flatMap.mp inside
    exact (quiet member inside).2 name isUsed

theorem Quiet.introduces (quiet : Quiet false uses value) : Introduces uses [] value :=
  Collects.of_quiet quiet

theorem MembersIntroduce.of_quiet (quiet : ∀ member ∈ members, QuietMember false uses member) :
    MembersIntroduce uses [] members := by
  refine Collects.of_quiet fun inner inside => ?_
  obtain ⟨member, inside, isInner⟩ := List.mem_flatMap.mp inside
  exact quiet member inside inner isInner

/-- Quiet members after all others. -/
theorem MembersIntroduce.append_quiet {later : List (String × Json)}
    (introduced : MembersIntroduce uses names members)
    (quiet : ∀ member ∈ later, QuietMember false uses member) :
    MembersIntroduce uses names (members ++ later) := by
  have both := Collects.append introduced (MembersIntroduce.of_quiet quiet)
  rwa [List.append_nil, ← List.flatMap_append] at both

theorem MembersIntroduce.perm {others : List (String × Json)}
    (introduced : MembersIntroduce uses names members) (order : members.Perm others) :
    MembersIntroduce uses names others where
  declared := by
    have inner := order.flatMap_right (withInner false)
    exact (inner.flatMap_right declaredBy).symm.trans introduced.declared
  used := by
    intro name inside
    have inner := order.flatMap_right (withInner false)
    exact introduced.used name ((inner.flatMap_right usedBy).mem_iff.mpr inside)

theorem MembersIntroduce.object (introduced : MembersIntroduce uses names members) :
    Introduces uses names (.object members) := by
  rw [Introduces, allMembers_object]
  exact introduced

/-- A quiet member in front. -/
theorem MembersIntroduce.cons_quiet {member : String × Json}
    (quiet : QuietMember false uses member) (rest : MembersIntroduce uses names members) :
    MembersIntroduce uses names (member :: members) :=
  (Collects.of_quiet quiet).append rest

/-- A member in front under a key that means nothing. -/
theorem MembersIntroduce.cons_plain (key : String)
    (plain : key ∉ ["params", "signals", "scales", "data", "param", "scale", "values"])
    (introduced : Introduces uses names value) (rest : MembersIntroduce uses more members) :
    MembersIntroduce uses (names ++ more) ((key, value) :: members) := by
  simp only [List.mem_cons, List.not_mem_nil, or_false, not_or] at plain
  have here : Collects uses [] [(key, value)] := by
    refine Collects.of_quiet fun member inside => ?_
    rw [List.mem_singleton.mp inside]
    simp [QuietHere, declaredBy, usedBy, NameSort.ofListKey?, NameSort.ofUseKey?, plain]
  have inner : withInner false (key, value) = [(key, value)] ++ value.allMembers false := by
    simp [withInner, isUserMember, seeds, plain]
  rw [MembersIntroduce, List.flatMap_cons, inner]
  exact (here.append introduced).append rest

/-- A list of declarations in front, which are quiet themselves. -/
theorem MembersIntroduce.cons_list (key : String) (ordinary : key ≠ "values")
    (named : declaredBy (key, .array items) = names)
    (quiet : ∀ item ∈ items, Quiet (seeds key) uses item)
    (rest : MembersIntroduce uses more members) :
    MembersIntroduce uses (names ++ more) ((key, .array items) :: members) := by
  have unused : usedBy (key, .array items) = [] := by
    unfold usedBy
    split
    next same => cases same
    next => rfl
  have here : Collects uses names [(key, .array items)] := by
    refine ⟨?_, ?_⟩
    · rw [List.flatMap_singleton, named]
    · rw [List.flatMap_singleton, unused]
      nofun
  have inner : withInner false (key, .array items) =
      [(key, .array items)] ++ (array items).allMembers (seeds key) := by
    simp [withInner, isUserMember, ordinary]
  have below : Collects uses [] ((array items).allMembers (seeds key)) :=
    Collects.of_quiet ((quiet_array items).mpr quiet)
  rw [MembersIntroduce, List.flatMap_cons, inner]
  have both := (here.append below).append rest
  rwa [List.append_nil] at both

/-- A member in front under a key that means nothing, and quiet ones after it. -/
theorem MembersIntroduce.of_head (key : String)
    (plain : key ∉ ["params", "signals", "scales", "data", "param", "scale", "values"])
    (introduced : Introduces uses names value)
    (rest : ∀ member ∈ members, QuietMember false uses member) :
    MembersIntroduce uses names ((key, value) :: members) := by
  have both := MembersIntroduce.cons_plain key plain introduced (.of_quiet rest)
  rwa [List.append_nil] at both

/-- A list of declarations in front, and quiet members after it. -/
theorem MembersIntroduce.of_list (key : String) (ordinary : key ≠ "values")
    (named : declaredBy (key, .array items) = names)
    (quiet : ∀ item ∈ items, Quiet (seeds key) uses item)
    (rest : ∀ member ∈ members, QuietMember false uses member) :
    MembersIntroduce uses names ((key, .array items) :: members) := by
  have both := MembersIntroduce.cons_list key ordinary named quiet (.of_quiet rest)
  rwa [List.append_nil] at both

theorem Introduces.cons (first : Introduces uses names value)
    (rest : Introduces uses more (.array items)) :
    Introduces uses (names ++ more) (.array (value :: items)) := by
  rw [Introduces, allMembers_array] at rest ⊢
  exact first.append rest

/-- An item in front that declares names, and quiet ones after it. -/
theorem Introduces.of_head (first : Introduces uses names value)
    (rest : ∀ item ∈ items, Quiet false uses item) :
    Introduces uses names (.array (value :: items)) := by
  have both := first.cons (Quiet.introduces ((quiet_array items).mpr rest))
  rwa [List.append_nil] at both

end Json

/-! ## Fragments -/

namespace Fragment

variable {uses names : List DocumentName} {f g : Fragment}

/-- Nothing in the fragment declares a name, or uses a name other than the given ones. -/
def Quiet (uses : List DocumentName) (f : Fragment) : Prop :=
  ∀ member ∈ f.members, Json.QuietMember false uses member

/-- The fragment declares the names, and uses nothing but the given names. -/
def Introduces (uses names : List DocumentName) (f : Fragment) : Prop :=
  Json.MembersIntroduce uses names f.members

@[simp] theorem quiet_toJson : Json.Quiet false uses f.toJson ↔ f.Quiet uses :=
  Json.quiet_object f.members

@[simp] theorem quiet_empty : empty.Quiet uses :=
  nofun

theorem Quiet.merge (quiet : f.Quiet uses) (top : g.Quiet uses) : (f.merge g).Quiet uses :=
  All.merge quiet top

theorem quiet_compose {fs : List Fragment} (quiet : ∀ f ∈ fs, f.Quiet uses) :
    (compose fs).Quiet uses :=
  all_compose quiet

@[simp] theorem quiet_ofMembers {members : List (String × Json)}
    (quiet : ∀ member ∈ members, Json.QuietMember false uses member) :
    (ofMembers members).Quiet uses :=
  all_ofMembers quiet

theorem Quiet.set {key : String} {value : Json} (quiet : f.Quiet uses)
    (written : Json.QuietMember false uses (key, value)) : (f.set key value).Quiet uses :=
  All.set quiet written

theorem Quiet.setSome {key : String} {value : Option Json} (quiet : f.Quiet uses)
    (written : ∀ v ∈ value, Json.QuietMember false uses (key, v)) :
    (f.setSome key value).Quiet uses :=
  All.setSome quiet written

theorem introduces_ofMembers {members : List (String × Json)}
    (distinct : (Entries.keys members).Nodup)
    (introduced : Json.MembersIntroduce uses names members) :
    (ofMembers members).Introduces uses names := by
  have written : (ofMembers members).members = members := Entries.ofPairs_of_distinct distinct
  rw [Introduces, written]
  exact introduced

/-- A quiet fragment below one that declares names. -/
theorem Quiet.merge_introduces (quiet : f.Quiet uses) (top : g.Introduces uses names) :
    (f.merge g).Introduces uses names := by
  have kept : Json.MembersIntroduce uses []
      (f.members.filter fun entry => entry.1 ∉ Entries.keys g.members) :=
    .of_quiet fun member inside => quiet member (List.mem_of_mem_filter inside)
  have both : Json.MembersIntroduce uses names
      ((f.members.filter fun entry => entry.1 ∉ Entries.keys g.members) ++ g.members) := by
    rw [Json.MembersIntroduce, List.flatMap_append]
    exact Json.Collects.append kept top
  exact both.perm (Entries.merge_perm f.distinct g.distinct).symm

theorem Quiet.erase (quiet : f.Quiet uses) (key : String) : (f.erase key).Quiet uses :=
  fun member inside => quiet member (List.mem_of_mem_filter inside)

/-- A value that declares names, written into a quiet fragment. -/
theorem Quiet.set_introduces {key : String} {value : Json}
    (plain : key ∉ ["params", "signals", "scales", "data", "param", "scale", "values"])
    (quiet : f.Quiet uses) (introduced : Json.Introduces uses names value) :
    (f.set key value).Introduces uses names := by
  have top : (ofMembers [(key, value)]).Introduces uses names :=
    introduces_ofMembers (List.nodup_singleton key)
      (.of_head key plain introduced (List.forall_mem_nil _))
  exact quiet.merge_introduces top

end Fragment

end ChartCompiler
