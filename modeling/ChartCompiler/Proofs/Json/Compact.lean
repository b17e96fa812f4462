import Mathlib
import ChartCompiler.Data.Dataset
import ChartCompiler.Proofs.Json.FlatRecord
import ChartCompiler.Proofs.Number.Parts
import ChartCompiler.Proofs.Render.Failure

/-!
Compact texts stand for values. Where a compact text ends can be told from the text and one
character behind it, so two texts of which one goes on where the other ends are texts of one value
(`chars_append_inj`). By the same induction this holds of items and of members, whose texts end
with a bracket. So values with the same compact text are the same, and what is compared by texts is
compared by value: the document that is asked for with the visible one
(`Renderer.answered_unchanged_iff_shown`), and the values of a field with each other
(`Dataset.uniqueCount_eq`).
-/

namespace ChartCompiler

namespace Json

variable {r r' : List Char}

/-! ## How a text begins -/

/-- What sort of value it is. -/
inductive Shape where
  | null | bool | number | string | array | object

/-- The sort of a value. -/
def shape : Json → Shape
  | .null => .null
  | .bool _ => .bool
  | .number _ => .number
  | .string _ => .string
  | .array _ => .array
  | .object _ => .object

/-- The sort of the values whose texts begin with a character. -/
def shapeOf (c : Char) : Shape :=
  if c = 'n' then .null
  else if c = 't' ∨ c = 'f' then .bool
  else if c = '"' then .string
  else if c = '[' then .array
  else if c = '\x7b' then .object
  else .number

theorem shapeOf_of_startsNumeral {c : Char} (starts : startsNumeral c = true) :
    shapeOf c = .number ∧ c ≠ ']' := by
  have other : ∀ d, startsNumeral d = false → c ≠ d := by
    intro d notNumeral same
    rw [same, notNumeral] at starts
    cases starts
  unfold shapeOf
  rw [if_neg (other _ rfl), if_neg (not_or.mpr ⟨other _ rfl, other _ rfl⟩), if_neg (other _ rfl),
    if_neg (other _ rfl), if_neg (other _ rfl)]
  exact ⟨rfl, other _ rfl⟩

theorem Number.exists_head_chars (n : Number) :
    ∃ c cs, n.chars = c :: cs ∧ startsNumeral c = true := by
  have numeral := n.isNumeral_chars
  generalize n.chars = text at numeral ⊢
  obtain ⟨starts, -⟩ := numeral
  exact ⟨_, _, rfl, starts⟩

/-- The first character of a text tells the sort of the value. -/
theorem exists_head_chars (v : Json) :
    ∃ c cs, v.chars = c :: cs ∧ shapeOf c = v.shape ∧ c ≠ ']' := by
  cases v with
  | null => exact ⟨'n', _, rfl, rfl, by decide⟩
  | bool b =>
    cases b with
    | true => exact ⟨'t', _, rfl, rfl, by decide⟩
    | false => exact ⟨'f', _, rfl, rfl, by decide⟩
  | number n =>
    obtain ⟨c, cs, text, starts⟩ := n.exists_head_chars
    exact ⟨c, cs, text, shapeOf_of_startsNumeral starts⟩
  | string s => exact ⟨'"', _, rfl, rfl, by decide⟩
  | array items =>
    cases items with
    | nil => exact ⟨'[', _, rfl, rfl, by decide⟩
    | cons item items => exact ⟨'[', _, rfl, rfl, by decide⟩
  | object members =>
    cases members with
    | nil => exact ⟨'\x7b', _, rfl, rfl, by decide⟩
    | cons member members => exact ⟨'\x7b', _, rfl, rfl, by decide⟩

theorem shape_eq_of_append {v w : Json} (same : v.chars ++ r = w.chars ++ r') :
    v.shape = w.shape := by
  obtain ⟨c, cs, left, shape, -⟩ := v.exists_head_chars
  obtain ⟨d, ds, right, shape', -⟩ := w.exists_head_chars
  rw [left, right] at same
  rw [← shape, ← shape', (List.cons.inj same).1]

/-! ## Where a text ends -/

theorem stringChars_append_inj {s t : String}
    (same : stringChars s ++ r = stringChars t ++ r') : s = t ∧ r = r' := by
  rw [stringChars_append, stringChars_append] at same
  have read := congrArg (readString .raw []) (List.cons.inj same).2
  have full : ReadMode.raw ≠ .skipped := nofun
  rw [readString_stringChars full, readString_stringChars full, Option.some.injEq] at read
  exact Prod.mk.inj read

theorem boolChars_append_inj {b b' : Bool} (same : boolChars b ++ r = boolChars b' ++ r') :
    b = b' ∧ r = r' := by
  cases b <;> cases b'
  · exact ⟨rfl, List.append_cancel_left same⟩
  · cases (List.cons.inj same).1
  · cases (List.cons.inj same).1
  · exact ⟨rfl, List.append_cancel_left same⟩

theorem Number.chars_append_inj {n m : Number} (ends : Text.Ends isNumeralChar r)
    (ends' : Text.Ends isNumeralChar r') (same : n.chars ++ r = m.chars ++ r') :
    n = m ∧ r = r' := by
  obtain ⟨texts, rest⟩ := Text.append_inj n.isNumeral_chars.isNumeralChar
    m.isNumeral_chars.isNumeralChar ends ends' same
  exact ⟨Number.chars_injective texts, rest⟩

theorem ends_itemsChars (items : List Json) : Text.Ends isNumeralChar (itemsChars items ++ r) := by
  cases items with
  | nil => exact Text.ends_cons rfl
  | cons item items => exact Text.ends_cons rfl

theorem ends_membersChars (members : List (String × Json)) :
    Text.Ends isNumeralChar (membersChars members ++ r) := by
  cases members with
  | nil => exact Text.ends_cons rfl
  | cons member members => exact Text.ends_cons rfl

theorem bracket_ne_item {y : Json} {ys : List Json}
    (same : (array []).chars ++ r = (array (y :: ys)).chars ++ r') : False := by
  obtain ⟨c, cs, text, -, notBracket⟩ := y.exists_head_chars
  simp only [chars, text, List.cons_append, List.cons.injEq, true_and] at same
  exact notBracket same.1.symm

theorem items_of_array {xs ys : List Json}
    (same : (array xs).chars ++ r = (array ys).chars ++ r') :
    itemsChars xs ++ r = itemsChars ys ++ r' := by
  match xs, ys with
  | [], [] => exact (List.cons.inj same).2
  | [], y :: ys => exact (bracket_ne_item same).elim
  | x :: xs, [] => exact (bracket_ne_item same.symm).elim
  | x :: xs, y :: ys => exact congrArg (',' :: ·) (List.cons.inj same).2

theorem members_of_object {xs ys : List (String × Json)}
    (same : (object xs).chars ++ r = (object ys).chars ++ r') :
    membersChars xs ++ r = membersChars ys ++ r' := by
  match xs, ys with
  | [], [] => exact (List.cons.inj same).2
  | [], y :: ys => cases (List.cons.inj (List.cons.inj same).2).1
  | x :: xs, [] => cases (List.cons.inj (List.cons.inj same).2).1
  | x :: xs, y :: ys => exact congrArg (',' :: ·) (List.cons.inj same).2

mutual

/-- A value and what follows it can be told from the text of both, unless what follows a number
goes on like one. -/
theorem chars_append_inj (v w : Json) {r r' : List Char} (ends : Text.Ends isNumeralChar r)
    (ends' : Text.Ends isNumeralChar r') (same : v.chars ++ r = w.chars ++ r') :
    v = w ∧ r = r' := by
  have shape := shape_eq_of_append same
  cases v with
  | null =>
    cases w <;> cases shape
    exact ⟨rfl, List.append_cancel_left same⟩
  | bool b =>
    cases w <;> cases shape
    obtain ⟨rfl, rest⟩ := boolChars_append_inj same
    exact ⟨rfl, rest⟩
  | number n =>
    cases w <;> cases shape
    obtain ⟨rfl, rest⟩ := Number.chars_append_inj ends ends' same
    exact ⟨rfl, rest⟩
  | string s =>
    cases w <;> cases shape
    obtain ⟨rfl, rest⟩ := stringChars_append_inj same
    exact ⟨rfl, rest⟩
  | array xs =>
    cases w <;> cases shape
    obtain ⟨rfl, rest⟩ := itemsChars_append_inj xs _ (items_of_array same)
    exact ⟨rfl, rest⟩
  | object xs =>
    cases w <;> cases shape
    obtain ⟨rfl, rest⟩ := membersChars_append_inj xs _ (members_of_object same)
    exact ⟨rfl, rest⟩

/-- Items and what follows their bracket can be told from the text of both. -/
theorem itemsChars_append_inj (xs ys : List Json) {r r' : List Char}
    (same : itemsChars xs ++ r = itemsChars ys ++ r') : xs = ys ∧ r = r' := by
  match xs, ys with
  | [], [] => exact ⟨rfl, List.append_cancel_left same⟩
  | [], y :: ys => cases (List.cons.inj same).1
  | x :: xs, [] => cases (List.cons.inj same).1
  | x :: xs, y :: ys =>
    simp only [itemsChars, List.cons_append, List.append_assoc, List.cons.injEq, true_and] at same
    obtain ⟨rfl, others⟩ := chars_append_inj x y (ends_itemsChars xs) (ends_itemsChars ys) same
    obtain ⟨rfl, rest⟩ := itemsChars_append_inj xs ys others
    exact ⟨rfl, rest⟩

/-- Members and what follows their bracket can be told from the text of both. -/
theorem membersChars_append_inj (xs ys : List (String × Json)) {r r' : List Char}
    (same : membersChars xs ++ r = membersChars ys ++ r') : xs = ys ∧ r = r' := by
  match xs, ys with
  | [], [] => exact ⟨rfl, List.append_cancel_left same⟩
  | [], y :: ys => cases (List.cons.inj same).1
  | x :: xs, [] => cases (List.cons.inj same).1
  | (key, x) :: xs, (key', y) :: ys =>
    simp only [membersChars, List.cons_append, List.append_assoc, List.cons.injEq, true_and] at same
    obtain ⟨rfl, texts⟩ := stringChars_append_inj same
    obtain ⟨rfl, others⟩ := chars_append_inj x y (ends_membersChars xs) (ends_membersChars ys)
      (List.cons.inj texts).2
    obtain ⟨rfl, rest⟩ := membersChars_append_inj xs ys others
    exact ⟨rfl, rest⟩

end

theorem compact_injective : Function.Injective compact := by
  intro v w same
  have texts : v.chars ++ [] = w.chars ++ [] := by
    rw [List.append_nil, List.append_nil]
    exact String.ofList_injective same
  exact (chars_append_inj v w Text.ends_nil Text.ends_nil texts).1

end Json

/-! ## What is compared by texts -/

theorem nodup_eraseDups {α : Type} [DecidableEq α] (xs : List α) : xs.eraseDups.Nodup := by
  induction xs using List.reverseRecOn with
  | nil => exact List.nodup_nil
  | append_singleton xs x ih =>
    rw [List.eraseDups_append]
    by_cases inside : x ∈ xs
    · simpa [inside, List.removeAll] using ih
    · have fresh : [x].removeAll xs = [x] := by simp [List.removeAll, inside]
      rw [fresh]
      refine List.nodup_append.mpr ⟨ih, by simp [List.eraseDups_cons], ?_⟩
      intro earlier isEarlier last isLast same
      have only : last = x := by simpa [List.eraseDups_cons] using isLast
      exact inside (only ▸ same ▸ List.mem_eraseDups.mp isEarlier)

/-- Distinct texts are counted, and they are the texts of distinct values. -/
theorem Dataset.uniqueCount_eq (data : Dataset) (field : String) (sample : Option Nat) :
    data.uniqueCount field sample =
      {v | ∃ row ∈ data.rows.take (sample.getD data.rows.length),
        Entries.get? row field = some v}.ncard := by
  let sampled : Dataset := ⟨data.rows.take (sample.getD data.rows.length)⟩
  have values : {v | ∃ row ∈ sampled.rows, Entries.get? row field = some v} =
      ((sampled.values field).toFinset : Set Json) := by
    ext v
    simp [Dataset.values]
  have texts : ((sampled.values field).map Json.compact).eraseDups.toFinset =
      (sampled.values field).toFinset.image Json.compact := by
    ext text
    simp
  calc data.uniqueCount field sample
      = ((sampled.values field).map Json.compact).eraseDups.length := rfl
    _ = ((sampled.values field).map Json.compact).eraseDups.toFinset.card :=
        (List.toFinset_card_of_nodup (nodup_eraseDups _)).symm
    _ = (sampled.values field).toFinset.card := by
        rw [texts, Finset.card_image_of_injective _ Json.compact_injective]
    _ = {v | ∃ row ∈ sampled.rows, Entries.get? row field = some v}.ncard := by
        rw [values, Set.ncard_coe_finset]

/-- A request is answered `unchanged` exactly if it is not forced and the operation of the visible
view was started for the very document. -/
theorem Renderer.answered_unchanged_iff_shown (coordinator : Coordinator)
    (events : List RenderEvent) (requester : Requester) (request : RenderRequest) :
    let start := Renderer.fresh coordinator
    let r := (start.run events).1
    .answered requester .unchanged ∈ (r.step (.request requester request)).2 ↔
      request.force = false ∧ ∃ (m : MountedView) (shown : RenderRequest),
        r.slots.get r.active = some m ∧ (m.generation, shown) ∈ start.starts events ∧
        .embed m.generation r.active shown.document shown.theme ∈ (start.run events).2 ∧
        shown.document = request.document := by
  intro start r
  have coh : r.Coherent (start.starts events) (start.run events).2 := .run coordinator events
  constructor
  · intro answered
    obtain ⟨m, shown, mounted, listed, embedded, text⟩ := coh.exists_shown_of_unchanged answered
    refine ⟨((r.answered_unchanged_iff requester request).mp answered).1, m, shown, mounted, listed,
      embedded, Json.compact_injective text⟩
  · intro visible
    obtain ⟨unforced, m, shown, mounted, listed, -, same⟩ := visible
    obtain ⟨starter, alsoListed, -, remembered, -⟩ := coh.shown m mounted
    obtain rfl : starter = shown :=
      (Renderer.Ordered.fresh coordinator).eq_of_mem_starts alsoListed listed
    exact (r.answered_unchanged_iff requester request).mpr ⟨unforced, same ▸ remembered⟩

/-- **Equal texts mean equal values.** Two JSON values have the same compact text exactly if they
are the same ordered tree. So a request is answered `unchanged` exactly if it is not forced and a
view is visible whose operation was started for the very document that is asked for, which the
engine then was given to draw. And the number of distinct values of a field among the first rows,
or among all rows, is the number of JSON values that stand there. -/
theorem equal_texts_equal_values :
    (∀ v w : Json, v.compact = w.compact ↔ v = w) ∧
    (∀ (coordinator : Coordinator) (events : List RenderEvent) (requester : Requester)
        (request : RenderRequest),
      let start := Renderer.fresh coordinator
      let r := (start.run events).1
      .answered requester .unchanged ∈ (r.step (.request requester request)).2 ↔
        request.force = false ∧ ∃ (m : MountedView) (shown : RenderRequest),
          r.slots.get r.active = some m ∧ (m.generation, shown) ∈ start.starts events ∧
          .embed m.generation r.active shown.document shown.theme ∈ (start.run events).2 ∧
          shown.document = request.document) ∧
    (∀ (data : Dataset) (field : String) (sample : Option Nat),
      data.uniqueCount field sample =
        {v | ∃ row ∈ data.rows.take (sample.getD data.rows.length),
          Entries.get? row field = some v}.ncard) :=
  ⟨fun _ _ => Json.compact_injective.eq_iff, Renderer.answered_unchanged_iff_shown,
    Dataset.uniqueCount_eq⟩

/-- A document full of quotes and brackets is asked for again while it is visible. The integer two,
the double two and the text `2` are three values, one of which stands in two rows. -/
theorem equal_texts_equal_values_awkward :
    let two : Json := .number (.double ⟨0x4000000000000000, by decide⟩)
    let document : Json :=
      .object [("],\"", .array ["\x7d\n\\", two, .object []]), ("\"],", .null)]
    let request : RenderRequest := { document }
    let events : List RenderEvent := [.request (.task 0) request, .embedded 1 true, .resume 1,
      .attach 1, .commit 1]
    let r := ((Renderer.fresh { config := {}, schema := .empty }).run events).1
    let data : Dataset :=
      ⟨[[("x", 2)], [("x", two)], [("y", 1)], [("x", "2")], [("x", two)], [("x", .null)]]⟩
    (Json.int 2).compact ≠ two.compact ∧
      .answered (.task 1) .unchanged ∈ (r.step (.request (.task 1) request)).2 ∧
      {v | ∃ row ∈ data.rows.take 5, Entries.get? row "x" = some v}.ncard = 3 := by
  intro two document request events r data
  obtain ⟨texts, unchanged, counts⟩ := equal_texts_equal_values
  refine ⟨?_, (unchanged _ events _ request).mpr ?_, ?_⟩
  · exact mt (texts (.int 2) two).mp (by decide +kernel)
  · exact ⟨rfl, _, request, rfl, .head _, .head _, rfl⟩
  · exact (counts data "x" (some 5)).symm.trans (by decide +kernel)

end ChartCompiler
