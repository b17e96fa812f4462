import ChartCompiler.Json.Basic

/-!
Fragments: pieces of a chart document, and the one rule by which they are
combined. Merging lays a later fragment over an earlier one; its members
replace those of the same key where they stand, new members go to the end, and
nested objects are replaced whole.
-/

namespace ChartCompiler

namespace Entries

variable {α : Type}

theorem mem_keys_insert {entries : List (String × α)} {key name : String} {value : α} :
    name ∈ keys (insert entries key value) ↔ name ∈ keys entries ∨ name = key := by
  induction entries with
  | nil => simp [insert, keys]
  | cons entry rest ih =>
    obtain ⟨k, v⟩ := entry
    simp only [keys, insert, List.map_cons, List.mem_cons] at ih ⊢
    split
    next h => simp only [List.map_cons, List.mem_cons]; grind
    next h => simp only [List.map_cons, List.mem_cons, ih]; grind

theorem nodup_keys_insert {entries : List (String × α)} (key : String) (value : α)
    (h : (keys entries).Nodup) : (keys (insert entries key value)).Nodup := by
  induction entries with
  | nil => simp [insert, keys]
  | cons entry rest ih =>
    obtain ⟨k, v⟩ := entry
    simp only [keys, List.map_cons, List.nodup_cons] at h
    unfold insert
    split
    next hk =>
      simp only [keys, List.map_cons, List.nodup_cons]
      exact h
    next hk =>
      simp only [keys, List.map_cons, List.nodup_cons]
      refine ⟨fun hmem => ?_, ih h.2⟩
      rcases mem_keys_insert.1 hmem with hmem | heq
      · exact h.1 hmem
      · exact hk heq

theorem nodup_keys_merge {entries : List (String × α)} (later : List (String × α))
    (h : (keys entries).Nodup) : (keys (merge entries later)).Nodup := by
  induction later generalizing entries with
  | nil => exact h
  | cons entry rest ih => exact ih (nodup_keys_insert entry.1 entry.2 h)

theorem nodup_keys_erase {entries : List (String × α)} (key : String)
    (h : (keys entries).Nodup) : (keys (erase entries key)).Nodup := by
  have hsub : (keys (erase entries key)).Sublist (keys entries) :=
    List.Sublist.map Prod.fst List.filter_sublist
  exact List.Nodup.sublist hsub h

end Entries

/-- A piece of a document: members with distinct keys, in order. -/
structure Fragment where
  members : List (String × Json)
  distinct : (Entries.keys members).Nodup
deriving DecidableEq

namespace Fragment

/-- The fragment without members. -/
def empty : Fragment :=
  ⟨[], List.nodup_nil⟩

instance : Inhabited Fragment := ⟨empty⟩

/-- The fragment of some members; a repeated key keeps its first place and its
last value. -/
def ofMembers (members : List (String × Json)) : Fragment :=
  ⟨Entries.ofPairs members, Entries.nodup_keys_merge members List.nodup_nil⟩

/-- The fragment of an object; any other value has no members. -/
def ofJson (value : Json) : Fragment :=
  ofMembers (value.asObject?.getD [])

/-- The object that holds the members. -/
def toJson (f : Fragment) : Json :=
  .object f.members

/-- Writes a member. -/
def set (f : Fragment) (key : String) (value : Json) : Fragment :=
  ⟨Entries.insert f.members key value, Entries.nodup_keys_insert key value f.distinct⟩

/-- Writes a member if there is a value for it. -/
def setSome (f : Fragment) (key : String) (value : Option Json) : Fragment :=
  match value with
  | some v => f.set key v
  | none => f

/-- The value of a member. -/
def get? (f : Fragment) (key : String) : Option Json :=
  Entries.get? f.members key

/-- Removes a member; the others keep their order. -/
def erase (f : Fragment) (key : String) : Fragment :=
  ⟨Entries.erase f.members key, Entries.nodup_keys_erase key f.distinct⟩

/-- There are no members. -/
def isEmpty (f : Fragment) : Bool :=
  f.members.isEmpty

/-- Lays `top` on top of the fragment. -/
def merge (f top : Fragment) : Fragment :=
  ⟨Entries.merge f.members top.members, Entries.nodup_keys_merge top.members f.distinct⟩

/-- Merges fragments from the first to the last. -/
def compose (fs : List Fragment) : Fragment :=
  fs.foldl merge empty

end Fragment

end ChartCompiler
