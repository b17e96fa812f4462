import Mathlib
import ChartCompiler.Fragment

/-!
Ordered entries. Writing a key changes what is stored under that key and nothing else
(`get?_insert`), keeps a key that is present where it stands and puts a new one at the end
(`keys_insert`). So a list of pairs is read into entries whose keys stand in the order in
which they first came (`keys_ofPairs`), each with the last value that came under it
(`get?_ofPairs`), and entries whose keys are all new are simply appended (`merge_of_fresh`).
Entries with distinct keys are determined by their keys, in order, and by what is stored under
them (`ext_get?`).
-/

namespace ChartCompiler.Entries

variable {α : Type} {entries later : List (String × α)} {key name : String} {value : α}

/-! ## Writing one entry -/

theorem get?_cons (entry : String × α) (entries : List (String × α)) (name : String) :
    get? (entry :: entries) name = if name = entry.1 then some entry.2 else get? entries name := by
  by_cases same : name = entry.1
  · simp [get?, List.lookup, same]
  · simp [get?, List.lookup, same, beq_false_of_ne same]

theorem keys_cons (entry : String × α) (entries : List (String × α)) :
    keys (entry :: entries) = entry.1 :: keys entries :=
  rfl

theorem contains_iff_mem_keys {entries : List (String × α)} {name : String} :
    contains entries name = true ↔ name ∈ keys entries := by
  induction entries with
  | nil => simp [contains, get?, keys]
  | cons entry rest ih =>
    rw [contains, get?_cons, keys_cons, List.mem_cons, ← ih, contains]
    split
    next same => simp [same]
    next other => simp [other]

theorem get?_eq_none_iff : get? entries name = none ↔ name ∉ keys entries := by
  rw [← contains_iff_mem_keys, contains, Option.isSome_iff_ne_none, not_not]

/-- Entries are determined by their keys, in order, and by what is stored under them. -/
theorem ext_get? {a b : List (String × α)} (order : keys a = keys b) (distinct : (keys a).Nodup)
    (same : ∀ name, get? a name = get? b name) : a = b := by
  induction a generalizing b with
  | nil => exact (List.map_eq_nil_iff.mp order.symm).symm
  | cons entry rest ih =>
    cases b with
    | nil => cases order
    | cons other others =>
      rw [keys_cons, keys_cons] at order
      obtain ⟨first, order⟩ := List.cons.inj order
      obtain ⟨apart, distinct⟩ := List.nodup_cons.mp distinct
      have stored : entry.2 = other.2 := by
        have found := same entry.1
        rw [get?_cons, get?_cons, if_pos rfl, if_pos first] at found
        exact Option.some.inj found
      have below : ∀ name, get? rest name = get? others name := by
        intro name
        by_cases taken : name = entry.1
        · -- the key of the head is in neither of the tails
          rw [taken, get?_eq_none_iff.mpr apart, get?_eq_none_iff.mpr (order ▸ apart)]
        · have found := same name
          rwa [get?_cons, get?_cons, if_neg taken, if_neg (first ▸ taken)] at found
      rw [ih order distinct below, Prod.ext first stored]

theorem get?_insert (entries : List (String × α)) (key name : String) (value : α) :
    get? (insert entries key value) name =
      if name = key then some value else get? entries name := by
  induction entries with
  | nil => exact get?_cons _ _ _
  | cons entry rest ih =>
    unfold insert
    split
    next same =>
      subst same
      by_cases found : name = entry.1 <;> simp [get?_cons, found]
    next other =>
      by_cases found : name = entry.1
      · subst found
        simp [get?_cons, other]
      · simp [get?_cons, found, ih]

theorem keys_insert (entries : List (String × α)) (key : String) (value : α) :
    keys (insert entries key value) =
      if key ∈ keys entries then keys entries else keys entries ++ [key] := by
  induction entries with
  | nil => rfl
  | cons entry rest ih =>
    unfold insert
    split
    next same => simp [keys_cons, same]
    next other =>
      rw [keys_cons, keys_cons, ih]
      by_cases inside : key ∈ keys rest
      · simp [inside]
      · simp [inside, Ne.symm other]

theorem get?_erase (entries : List (String × α)) (key name : String) :
    get? (erase entries key) name = if name = key then none else get? entries name := by
  induction entries with
  | nil => simp [erase, get?]
  | cons entry rest ih =>
    unfold erase at ih ⊢
    by_cases erased : entry.1 = key
    · rw [List.filter_cons_of_neg (by simp [erased]), ih, get?_cons, erased]
      split <;> rfl
    · rw [List.filter_cons_of_pos (by simp [erased]), get?_cons, ih, get?_cons]
      by_cases found : name = entry.1
      · simp [found, erased]
      · simp [found]

theorem keys_erase (distinct : (keys entries).Nodup) (key : String) :
    keys (erase entries key) = (keys entries).erase key := by
  rw [distinct.erase_eq_filter, keys, erase, keys, List.filter_map]
  refine congrArg _ (List.filter_congr fun entry _ => ?_)
  simp only [Function.comp_apply, bne, decide_not]
  rfl

theorem insert_of_fresh (fresh : key ∉ keys entries) :
    insert entries key value = entries ++ [(key, value)] := by
  induction entries with
  | nil => rfl
  | cons entry rest ih =>
    obtain ⟨other, fresh⟩ := List.ne_and_not_mem_of_not_mem_cons fresh
    rw [insert, if_neg (Ne.symm other), ih fresh]
    rfl

theorem mem_of_mem_insert {entry : String × α} (inside : entry ∈ insert entries key value) :
    entry = (key, value) ∨ entry ∈ entries := by
  induction entries with
  | nil => exact .inl (List.mem_singleton.mp inside)
  | cons head rest ih =>
    unfold insert at inside
    split at inside
    next same =>
      rcases List.mem_cons.mp inside with written | old
      · exact .inl (same ▸ written)
      · exact .inr (List.mem_cons_of_mem _ old)
    next other =>
      rcases List.mem_cons.mp inside with first | old
      · exact .inr (first ▸ List.mem_cons_self)
      · exact (ih old).imp_right (List.mem_cons_of_mem _)

/-! ## Writing many -/

theorem merge_cons (entries : List (String × α)) (entry : String × α) (later : List (String × α)) :
    merge entries (entry :: later) = merge (insert entries entry.1 entry.2) later :=
  rfl

theorem merge_concat (entries later : List (String × α)) (entry : String × α) :
    merge entries (later ++ [entry]) = insert (merge entries later) entry.1 entry.2 :=
  List.foldl_concat ..

theorem ofPairs_append (pairs later : List (String × α)) :
    ofPairs (pairs ++ later) = merge (ofPairs pairs) later :=
  List.foldl_append

theorem ofPairs_concat (pairs : List (String × α)) (entry : String × α) :
    ofPairs (pairs ++ [entry]) = insert (ofPairs pairs) entry.1 entry.2 :=
  merge_concat ..

/-- What is merged comes from one of the two sides. -/
theorem mem_of_mem_merge {entry : String × α} (inside : entry ∈ merge entries later) :
    entry ∈ entries ∨ entry ∈ later := by
  induction later generalizing entries with
  | nil => exact .inl inside
  | cons head rest ih =>
    rcases ih inside with written | old
    · rcases mem_of_mem_insert written with rfl | old
      · exact .inr List.mem_cons_self
      · exact .inl old
    · exact .inr (List.mem_cons_of_mem _ old)

theorem mem_keys_of_merge (inside : name ∈ keys (merge entries later)) :
    name ∈ keys entries ∨ name ∈ keys later := by
  obtain ⟨entry, merged, rfl⟩ := List.mem_map.mp inside
  exact (mem_of_mem_merge merged).imp List.mem_map_of_mem List.mem_map_of_mem

/-- New keys go to the end, in the order in which they are written. -/
theorem keys_merge (distinct : (keys later).Nodup) (entries : List (String × α)) :
    keys (merge entries later) =
      keys entries ++ (keys later).filter fun name => name ∉ keys entries := by
  induction later generalizing entries with
  | nil => exact (List.append_nil _).symm
  | cons entry rest ih =>
    obtain ⟨apart, distinct⟩ := List.nodup_cons.mp distinct
    rw [merge_cons, ih distinct, keys_insert, keys_cons]
    by_cases inside : entry.1 ∈ keys entries
    · rw [if_pos inside, List.filter_cons_of_neg (by simpa using inside)]
    · rw [if_neg inside, List.filter_cons_of_pos (by simpa using inside), List.append_assoc]
      refine congrArg (keys entries ++ entry.1 :: ·) (List.filter_congr fun name listed => ?_)
      have other : name ≠ entry.1 := fun same => apart (same ▸ listed)
      simp [other]

theorem get?_merge (distinct : (keys later).Nodup) (entries : List (String × α)) (name : String) :
    get? (merge entries later) name = (get? later name).or (get? entries name) := by
  induction later generalizing entries with
  | nil => rfl
  | cons entry rest ih =>
    obtain ⟨apart, distinct⟩ := List.nodup_cons.mp distinct
    rw [merge_cons, ih distinct, get?_insert, get?_cons]
    split
    next same =>
      have unwritten : get? rest name = none := get?_eq_none_iff.mpr (same ▸ apart)
      rw [unwritten, Option.none_or, Option.some_or]
    next => rfl

theorem merge_of_fresh (distinct : (keys later).Nodup)
    (fresh : ∀ name ∈ keys later, name ∉ keys entries) : merge entries later = entries ++ later := by
  induction later generalizing entries with
  | nil => exact (List.append_nil _).symm
  | cons entry rest ih =>
    obtain ⟨apart, distinct⟩ := List.nodup_cons.mp distinct
    have first : entry.1 ∉ keys entries := fresh _ List.mem_cons_self
    rw [merge_cons, insert_of_fresh first, ih distinct, List.append_assoc]
    · rfl
    · intro name inside
      have old := fresh name (List.mem_cons_of_mem _ inside)
      have other : name ≠ entry.1 := fun same => apart (same ▸ inside)
      simpa [keys, other] using old

theorem ofPairs_of_distinct (distinct : (keys entries).Nodup) : ofPairs entries = entries :=
  merge_of_fresh distinct fun _ _ => List.not_mem_nil

/-- Keys stand in the order in which they first came. -/
theorem keys_ofPairs (pairs : List (String × α)) : keys (ofPairs pairs) = (keys pairs).eraseDups := by
  induction pairs using List.reverseRecOn with
  | nil => rfl
  | append_singleton pairs entry ih =>
    have concat : keys (pairs ++ [entry]) = keys pairs ++ [entry.1] := List.map_append
    rw [ofPairs_concat, keys_insert, ih, concat, List.eraseDups_append]
    by_cases inside : entry.1 ∈ keys pairs
    · simp [inside, List.removeAll]
    · simp [inside, List.removeAll, List.eraseDups_cons]

theorem get?_ofPairs_concat (pairs : List (String × α)) (entry : String × α) (name : String) :
    get? (ofPairs (pairs ++ [entry])) name =
      if name = entry.1 then some entry.2 else get? (ofPairs pairs) name := by
  rw [ofPairs_concat, get?_insert]

/-- The last value that comes under a key is the one that is stored. -/
theorem get?_ofPairs {before after : List (String × α)} {entry : String × α}
    (last : ∀ other ∈ after, other.1 ≠ entry.1) :
    get? (ofPairs (before ++ entry :: after)) entry.1 = some entry.2 := by
  induction after using List.reverseRecOn with
  | nil => rw [get?_ofPairs_concat, if_pos rfl]
  | append_singleton after other ih =>
    have apart : entry.1 ≠ other.1 := Ne.symm (last other (by simp))
    have shifted : before ++ entry :: (after ++ [other]) = before ++ entry :: after ++ [other] := by
      simp
    rw [shifted, get?_ofPairs_concat, if_neg apart]
    exact ih fun old inside => last old (List.mem_append_left _ inside)

/-! ## Up to order -/

theorem insert_perm (distinct : (keys entries).Nodup) (key : String) (value : α) :
    (insert entries key value).Perm ((key, value) :: erase entries key) := by
  induction entries with
  | nil => exact .refl _
  | cons entry rest ih =>
    obtain ⟨apart, distinct⟩ := List.nodup_cons.mp distinct
    unfold insert
    split
    next same =>
      subst same
      have others : erase (entry :: rest) entry.1 = rest := by
        rw [erase, List.filter_cons_of_neg (by simp)]
        refine List.filter_eq_self.mpr fun other inside => decide_eq_true fun same => apart ?_
        exact same ▸ List.mem_map_of_mem inside
      rw [others]
    next other =>
      have kept : erase (entry :: rest) key = entry :: erase rest key :=
        List.filter_cons_of_pos (decide_eq_true other)
      rw [kept]
      exact ((ih distinct).cons entry).trans (.swap ..)

/-- Merging drops what is written over and keeps all that is written. -/
theorem merge_perm (distinct : (keys entries).Nodup) (laterDistinct : (keys later).Nodup) :
    (merge entries later).Perm
      ((entries.filter fun entry => entry.1 ∉ keys later) ++ later) := by
  induction later generalizing entries with
  | nil => simp [merge, keys]
  | cons entry rest ih =>
    rw [keys_cons] at laterDistinct
    obtain ⟨apart, restDistinct⟩ := List.nodup_cons.mp laterDistinct
    have kept : ((entry :: erase entries entry.1).filter fun other => other.1 ∉ keys rest) =
        entry :: entries.filter fun other => other.1 ∉ keys (entry :: rest) := by
      rw [List.filter_cons, if_pos (decide_eq_true apart), erase, List.filter_filter]
      refine congrArg _ (List.filter_congr fun other _ => ?_)
      simp [keys_cons, Bool.and_comm]
    have written : ((insert entries entry.1 entry.2).filter fun other => other.1 ∉ keys rest).Perm
        (entry :: entries.filter fun other => other.1 ∉ keys (entry :: rest)) :=
      kept ▸ (insert_perm distinct entry.1 entry.2).filter fun other => other.1 ∉ keys rest
    refine (ih (nodup_keys_insert _ _ distinct) restDistinct).trans ?_
    refine (written.append_right rest).trans ?_
    exact List.perm_middle.symm

theorem mem_merge_iff (distinct : (keys entries).Nodup) (laterDistinct : (keys later).Nodup)
    {entry : String × α} :
    entry ∈ merge entries later ↔ (entry ∈ entries ∧ entry.1 ∉ keys later) ∨ entry ∈ later := by
  rw [(merge_perm distinct laterDistinct).mem_iff, List.mem_append, List.mem_filter,
    decide_eq_true_iff]

/-- What is found under a key is an entry. -/
theorem mem_of_get? (found : get? entries name = some value) : (name, value) ∈ entries := by
  induction entries with
  | nil => cases found
  | cons entry rest ih =>
    rw [get?_cons] at found
    split at found
    next same =>
      cases found
      exact same ▸ List.mem_cons_self
    next => exact List.mem_cons_of_mem _ (ih found)

end ChartCompiler.Entries
