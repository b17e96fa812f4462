import Mathlib
import ChartCompiler.Chart.Beeswarm
import ChartCompiler.Proofs.Expression.Token

/-!
The test of a selection. A swarm marks the rows that match the selection by a generated
expression. `Selection.Matches` says what it means for a row to match: there is no record, or
some record has the row's value in every one of its fields. `selectionTest_iff_matches` says that
the expression, evaluated as text, tells exactly that. The text is cut into the tokens of its parts
(`spells_selectionTest`), the tokens are read as the disjunction of the records, each a
conjunction of its fields (`disjunction?_recordTokens`), and the condition holds when the row
matches (`holds_recordCondition`).
-/

namespace ChartCompiler

/-! ## Matching -/

/-- Strict equality of scalars. Numbers are equal when they are equal as floats. -/
def Json.StrictlyEqual : Json → Json → Prop
  | .null, .null => True
  | .bool a, .bool b => a = b
  | .number m, .number n => m.toFloat == n.toFloat
  | .string s, .string t => s = t
  | _, _ => False

/-- The values that a record can ask for: scalars, and arrays of scalars. -/
inductive Json.IsSelectable : Json → Prop
  | scalar {v : Json} : Expression.IsScalar v → IsSelectable v
  | array {items : List Json} : (∀ item ∈ items, Expression.IsScalar item) →
    IsSelectable (.array items)

/-- A value is what was asked for, or one of the items that were asked for. -/
inductive Json.Admits : Json → Json → Prop
  | scalar {v w : Json} : w.StrictlyEqual v → Admits v w
  | item {items : List Json} {v w : Json} : v ∈ items → w.StrictlyEqual v →
    Admits (.array items) w

/-- The row has an admitted value in every field of the record. -/
def Row.MatchesRecord (row record : Row) : Prop :=
  ∀ entry ∈ record, ∃ value, Entries.get? row entry.1 = some value ∧ entry.2.Admits value

/-- Nothing is selected, or the row matches a selected record. -/
def Selection.Matches (selection : Selection) (row : Row) : Prop :=
  selection.records = [] ∨ ∃ record ∈ selection.records, Row.MatchesRecord row record

namespace Expression

open Chart (fieldTest recordTest selectionTest)

/-! ## Tokens -/

/-- The tokens of the test of a field. -/
def fieldTokens (entry : String × Json) : List Token :=
  match entry.2 with
  | .array items =>
    .name "indexof" :: .mark .leftParen :: (arrayTokens items ++ .mark .comma ::
      (datumTokens entry.1.toList ++ [.mark .rightParen, .mark .atLeast, .numeral ['0']]))
  | v => datumTokens entry.1.toList ++ [.mark .same, scalarToken v]

/-- The tokens of the test of a record, in its parentheses. -/
def recordTokens (record : Row) : List Token :=
  .mark .leftParen :: ([Token.mark .both].intercalate (record.map fieldTokens) ++
    [.mark .rightParen])

theorem spells_fieldTest {entry : String × Json} (selectable : entry.2.IsSelectable) :
    Spells (fieldTest entry.1 entry.2).toList (fieldTokens entry) := by
  obtain ⟨field, value⟩ := entry
  intro rest stops
  cases selectable with
  | scalar scalar =>
    have text : (fieldTest field value).toList ++ rest =
        datumChars field.toList ++ (Mark.same.spaced ++ (value.chars ++ rest)) := by
      cases scalar <;> simp [fieldTest, datum, Json.compact, Mark.spaced, Mark.chars]
    have tokens : fieldTokens (field, value) =
        datumTokens field.toList ++ [.mark .same, scalarToken value] := by
      cases scalar <;> rfl
    rw [text, tokens, spells_datumChars _ _ (stops_spaced .same _), tokens?_spaced,
      spells_scalar scalar rest stops, Option.map_map, Option.map_map]
    simp [Function.comp_def]
  | @array items scalars =>
    have text : (fieldTest field (.array items)).toList ++ rest =
        "indexof".toList ++ (Mark.leftParen.chars ++ ((Json.array items).chars ++
          (Mark.comma.chars ++ ' ' :: (datumChars field.toList ++ (Mark.rightParen.chars ++
            (Mark.atLeast.spaced ++ (['0'] ++ rest))))))) := by
      simp [fieldTest, datum, Json.compact, Mark.spaced, Mark.chars]
    rw [text, tokens?_name (w := "indexof".toList) rfl (ends_mark .leftParen _), tokens?_mark,
      tokens?_array scalars, tokens?_mark, tokens?_blank,
      spells_datumChars _ _ (stops_rightParen _), tokens?_mark, tokens?_spaced,
      tokens?_numeral isNumeral_zero stops.numeral]
    simp [Function.comp_def, fieldTokens]

theorem spells_recordTest {record : Row} (some : record ≠ [])
    (selectable : ∀ entry ∈ record, entry.2.IsSelectable) :
    Spells ("(" ++ recordTest record ++ ")").toList (recordTokens record) := by
  cases record with
  | nil => exact absurd rfl some
  | cons entry record =>
    intro rest _
    have inner := Spells.intercalate .both fun e inside => spells_fieldTest (selectable e inside)
    have text : ("(" ++ recordTest (entry :: record) ++ ")").toList ++ rest =
        Mark.leftParen.chars ++ (Mark.both.spaced.intercalate ((entry :: record).map fun e =>
          (fieldTest e.1 e.2).toList) ++ (Mark.rightParen.chars ++ rest)) := by
      have joined : (recordTest (entry :: record)).toList = Mark.both.spaced.intercalate
          ((entry :: record).map fun e => (fieldTest e.1 e.2).toList) := by
        rw [recordTest, String.toList_intercalate, List.map_map]
        rfl
      simp [joined, Mark.chars]
    rw [text, tokens?_mark, inner _ (stops_rightParen _), tokens?_mark, Option.map_map,
      Option.map_map]
    simp [Function.comp_def, recordTokens]

theorem spells_selectionTest {selection : Selection} (some : selection.records ≠ [])
    (filled : ∀ record ∈ selection.records, record ≠ [])
    (selectable : ∀ record ∈ selection.records, ∀ entry ∈ record, entry.2.IsSelectable) :
    Spells (selectionTest selection).toList
      ([Token.mark .either].intercalate (selection.records.map recordTokens)) := by
  have kept : (selection.records.filter fun record => !record.isEmpty) = selection.records :=
    List.filter_eq_self.mpr fun record inside => by simp [filled record inside]
  have text : (selectionTest selection).toList = Mark.either.spaced.intercalate
      (selection.records.map fun record => ("(" ++ recordTest record ++ ")").toList) := by
    rw [selectionTest, kept, if_neg (by simpa using some), String.toList_intercalate, List.map_map]
    rfl
  rw [text]
  cases isRecords : selection.records with
  | nil => exact absurd isRecords some
  | cons record records =>
    rw [isRecords] at filled selectable
    exact Spells.intercalate .either fun r inside =>
      spells_recordTest (filled r inside) (selectable r inside)

/-! ## Conditions -/

/-- The constant that a scalar is read as. -/
def Constant.ofJson : Json → Constant
  | .bool b => .bool b
  | .number n => .number n.chars
  | .string s => .text s
  | _ => .null

/-- The condition that the test of a field is read as. -/
def fieldCondition (entry : String × Json) : Condition :=
  match entry.2 with
  | .array items => .found (items.map Constant.ofJson) (.field entry.1)
  | v => .same (.field entry.1) (.constant (.ofJson v))

/-- Conditions of which all hold. -/
def Condition.all : List Condition → Condition
  | [] => .truth true
  | [c] => c
  | c :: d :: rest => .both c (all (d :: rest))

/-- Conditions of which some holds. -/
def Condition.any : List Condition → Condition
  | [] => .truth false
  | [c] => c
  | c :: d :: rest => .either c (any (d :: rest))

/-- The condition that the test of a record is read as. -/
def recordCondition (record : Row) : Condition :=
  .all (record.map fieldCondition)

theorem constant?_scalarToken {v : Json} (scalar : IsScalar v) :
    constant? (scalarToken v) = some (.ofJson v) := by
  cases scalar with
  | bool b => cases b <;> rfl
  | _ => rfl

theorem operand?_scalarToken {v : Json} (scalar : IsScalar v) (rest : List Token) :
    operand? (scalarToken v :: rest) = some (.constant (.ofJson v), rest) := by
  cases scalar with
  | bool b => cases b <;> rfl
  | _ => rfl

theorem operand?_datumTokens (field : String) (rest : List Token) :
    operand? (datumTokens field.toList ++ rest) = some (.field field, rest) := by
  unfold datumTokens
  split_ifs
  · rw [String.ofList_toList]
    rfl
  · rw [String.ofList_toList]
    rfl

theorem furtherConstants?_itemTokens {items : List Json}
    (scalars : ∀ item ∈ items, IsScalar item) (rest : List Token) :
    furtherConstants? (itemTokens items ++ rest) = some (items.map .ofJson, rest) := by
  induction items with
  | nil => rfl
  | cons item items ih =>
    obtain ⟨scalar, scalars⟩ := List.forall_mem_cons.mp scalars
    rw [itemTokens, List.cons_append, List.cons_append, furtherConstants?,
      constant?_scalarToken scalar, ih scalars]
    rfl

theorem constants?_arrayTokens {items : List Json} (scalars : ∀ item ∈ items, IsScalar item) :
    ∃ ts, arrayTokens items = .mark .leftBracket :: ts ∧
      ∀ rest, constants? (ts ++ rest) = some (items.map .ofJson, rest) := by
  cases items with
  | nil => exact ⟨_, rfl, fun _ => rfl⟩
  | cons item items =>
    obtain ⟨scalar, scalars⟩ := List.forall_mem_cons.mp scalars
    refine ⟨_, rfl, fun rest => ?_⟩
    have notClosed : scalarToken item ≠ .mark .rightBracket := by
      cases scalar <;> exact nofun
    rw [List.cons_append, constants?.eq_2 _ _ fun isClosed => notClosed isClosed,
      constant?_scalarToken scalar, furtherConstants?_itemTokens scalars]
    rfl

/-- A comparison that begins with a field. -/
theorem comparison?_datumTokens (field : String) {b : Operand} {ts rest : List Token}
    (read : operand? ts = some (b, rest)) :
    comparison? (datumTokens field.toList ++ .mark .same :: ts) =
      some (.same (.field field) b, rest) := by
  have notMembership : ∀ others, datumTokens field.toList ++ .mark .same :: ts ≠
      .name "indexof" :: .mark .leftParen :: .mark .leftBracket :: others := by
    intro others
    unfold datumTokens
    split_ifs <;> simp
  rw [comparison?.eq_2 _ fun others same => notMembership others same, operand?_datumTokens]
  simp only [bind, Option.bind, read]
  rfl

theorem comparison?_fieldTokens {entry : String × Json} (selectable : entry.2.IsSelectable)
    (rest : List Token) :
    comparison? (fieldTokens entry ++ rest) = some (fieldCondition entry, rest) := by
  obtain ⟨field, value⟩ := entry
  cases selectable with
  | scalar scalar =>
    have tokens : fieldTokens (field, value) ++ rest =
        datumTokens field.toList ++ .mark .same :: scalarToken value :: rest := by
      cases scalar <;> simp [fieldTokens]
    have condition : fieldCondition (field, value) =
        .same (.field field) (.constant (.ofJson value)) := by
      cases scalar <;> rfl
    rw [tokens, condition]
    exact comparison?_datumTokens field (operand?_scalarToken scalar rest)
  | @array items scalars =>
    obtain ⟨ts, isArray, read⟩ := constants?_arrayTokens scalars
    have tokens : fieldTokens (field, .array items) ++ rest =
        .name "indexof" :: .mark .leftParen :: .mark .leftBracket :: (ts ++ .mark .comma ::
          (datumTokens field.toList ++
            .mark .rightParen :: .mark .atLeast :: .numeral ['0'] :: rest)) := by
      simp [fieldTokens, isArray]
    rw [tokens, comparison?, read]
    simp only [bind, Option.bind, operand?_datumTokens]
    rfl

theorem exists_fieldTokens (entry : String × Json) :
    ∃ name ts, fieldTokens entry = .name name :: ts := by
  have accessor : ∃ ts, datumTokens entry.1.toList = .name "datum" :: ts := by
    unfold datumTokens
    split_ifs <;> exact ⟨_, rfl⟩
  obtain ⟨ts, isAccessor⟩ := accessor
  unfold fieldTokens
  split
  · exact ⟨_, _, rfl⟩
  · rw [isAccessor]
    exact ⟨_, _, rfl⟩

theorem length_fieldTokens_pos (entry : String × Json) : 0 < (fieldTokens entry).length := by
  obtain ⟨name, ts, isName⟩ := exists_fieldTokens entry
  simp [isName]

theorem primary?_fieldTokens {entry : String × Json} (selectable : entry.2.IsSelectable)
    (fuel : Nat) (rest : List Token) :
    primary? (fuel + 1) (fieldTokens entry ++ rest) = some (fieldCondition entry, rest) := by
  obtain ⟨name, ts, isName⟩ := exists_fieldTokens entry
  have read := comparison?_fieldTokens selectable rest
  rw [isName] at read ⊢
  rw [List.cons_append, primary?.eq_3 (.name name :: (ts ++ rest)) fuel nofun]
  exact read

section

variable {fuel : Nat} {ts rest others : List Token} {a b : Condition}

theorem conjunction?_last (read : primary? fuel ts = some (a, rest))
    (ends : ∀ more, rest ≠ .mark .both :: more) :
    conjunction? (fuel + 1) ts = some (a, rest) := by
  rw [conjunction?, read]
  simp only [bind, Option.bind]
  rfl

theorem conjunction?_both (read : primary? fuel ts = some (a, .mark .both :: rest))
    (further : conjunction? fuel rest = some (b, others)) :
    conjunction? (fuel + 1) ts = some (.both a b, others) := by
  rw [conjunction?, read]
  simp only [bind, Option.bind, further]
  rfl

theorem disjunction?_last (read : conjunction? fuel ts = some (a, rest))
    (ends : ∀ more, rest ≠ .mark .either :: more) :
    disjunction? (fuel + 1) ts = some (a, rest) := by
  rw [disjunction?, read]
  simp only [bind, Option.bind]
  rfl

theorem disjunction?_either (read : conjunction? fuel ts = some (a, .mark .either :: rest))
    (further : disjunction? fuel rest = some (b, others)) :
    disjunction? (fuel + 1) ts = some (.either a b, others) := by
  rw [disjunction?, read]
  simp only [bind, Option.bind, further]
  rfl

theorem primary?_parenthesized (read : disjunction? fuel ts = some (a, .mark .rightParen :: rest)) :
    primary? (fuel + 1) (.mark .leftParen :: ts) = some (a, rest) := by
  rw [primary?, read]
  rfl

end

/-- The fields of a record are read one after the other, up to the closing parenthesis. -/
theorem conjunction?_fieldTokens {entry : String × Json} {record : List (String × Json)}
    (selectable : ∀ e ∈ entry :: record, e.2.IsSelectable) {fuel : Nat}
    (enough : ([Token.mark .both].intercalate ((entry :: record).map fieldTokens)).length < fuel)
    (rest : List Token) :
    conjunction? fuel ([Token.mark .both].intercalate ((entry :: record).map fieldTokens) ++
        .mark .rightParen :: rest) =
      some (recordCondition (entry :: record), .mark .rightParen :: rest) := by
  induction record generalizing entry fuel with
  | nil =>
    obtain ⟨first, -⟩ := List.forall_mem_cons.mp selectable
    have someToken := length_fieldTokens_pos entry
    simp only [List.map_cons, List.map_nil, List.intercalate_singleton] at enough ⊢
    obtain ⟨fuel, rfl⟩ := Nat.exists_eq_add_of_le' (show 2 ≤ fuel by omega)
    exact conjunction?_last (primary?_fieldTokens first fuel _) nofun
  | cons next record ih =>
    obtain ⟨first, others⟩ := List.forall_mem_cons.mp selectable
    have someToken := length_fieldTokens_pos entry
    simp only [List.map_cons, List.intercalate_cons_cons, List.length_append, List.length_cons,
      List.length_nil, List.append_assoc] at enough ⊢
    obtain ⟨fuel, rfl⟩ := Nat.exists_eq_add_of_le' (show 2 ≤ fuel by omega)
    refine conjunction?_both (primary?_fieldTokens first fuel _) ?_
    exact ih others (by rw [List.map_cons]; omega)

/-- The test of a record is one primary condition. -/
theorem primary?_recordTokens {record : Row} (filled : record ≠ [])
    (selectable : ∀ entry ∈ record, entry.2.IsSelectable) {fuel : Nat}
    (enough : (recordTokens record).length < fuel) (rest : List Token) :
    primary? fuel (recordTokens record ++ rest) = some (recordCondition record, rest) := by
  cases record with
  | nil => exact absurd rfl filled
  | cons entry record =>
    unfold recordTokens at enough ⊢
    simp only [List.length_cons, List.length_append, List.length_nil] at enough
    obtain ⟨fuel, rfl⟩ := Nat.exists_eq_add_of_le' (show 2 ≤ fuel by omega)
    have short : ([Token.mark .both].intercalate ((entry :: record).map fieldTokens)).length <
        fuel := by omega
    have inner := conjunction?_fieldTokens selectable short rest
    rw [List.cons_append, List.append_assoc]
    exact primary?_parenthesized (disjunction?_last inner nofun)

/-- The records of a selection are read one after the other, up to the end. -/
theorem disjunction?_recordTokens {record : Row} {records : List Row}
    (filled : ∀ r ∈ record :: records, r ≠ [])
    (selectable : ∀ r ∈ record :: records, ∀ entry ∈ r, entry.2.IsSelectable) {fuel : Nat}
    (enough : ([Token.mark .either].intercalate ((record :: records).map recordTokens)).length + 2 <
      fuel) :
    disjunction? fuel ([Token.mark .either].intercalate ((record :: records).map recordTokens)) =
      some (.any ((record :: records).map recordCondition), []) := by
  induction records generalizing record fuel with
  | nil =>
    obtain ⟨some, -⟩ := List.forall_mem_cons.mp filled
    obtain ⟨first, -⟩ := List.forall_mem_cons.mp selectable
    simp only [List.map_cons, List.map_nil, List.intercalate_singleton] at enough ⊢
    obtain ⟨fuel, rfl⟩ := Nat.exists_eq_add_of_le' (show 2 ≤ fuel by omega)
    have short : (recordTokens record).length < fuel := by omega
    have read := primary?_recordTokens some first short []
    rw [List.append_nil] at read
    exact disjunction?_last (conjunction?_last read nofun) nofun
  | cons next records ih =>
    obtain ⟨some, othersFilled⟩ := List.forall_mem_cons.mp filled
    obtain ⟨first, others⟩ := List.forall_mem_cons.mp selectable
    simp only [List.map_cons, List.intercalate_cons_cons, List.length_append, List.length_cons,
      List.length_nil, List.append_assoc] at enough ⊢
    obtain ⟨fuel, rfl⟩ := Nat.exists_eq_add_of_le' (show 2 ≤ fuel by omega)
    have short : (recordTokens record).length < fuel := by omega
    have read := primary?_recordTokens some first short
    refine disjunction?_either (conjunction?_last (read _) nofun) ?_
    exact ih othersFilled others (by rw [List.map_cons]; omega)

/-- The test of a selection spells the disjunction of its records. -/
theorem condition?_selectionTest {selection : Selection} (some : selection.records ≠ [])
    (filled : ∀ record ∈ selection.records, record ≠ [])
    (selectable : ∀ record ∈ selection.records, ∀ entry ∈ record, entry.2.IsSelectable) :
    condition? (selectionTest selection).toList =
      .some (.any (selection.records.map recordCondition)) := by
  have tokens := spells_selectionTest some filled selectable [] stops_nil
  rw [List.append_nil, tokens?_nil] at tokens
  simp only [Option.map_some, List.append_nil] at tokens
  cases isRecords : selection.records with
  | nil => exact absurd isRecords some
  | cons record records =>
    rw [isRecords] at filled selectable tokens
    have someTokens : 2 ≤ ([Token.mark .either].intercalate
        ((record :: records).map recordTokens)).length := by
      have paired : 2 ≤ (recordTokens record).length := by
        simp [recordTokens]
      cases records with
      | nil => simpa using paired
      | cons next records =>
        rw [List.map_cons, List.map_cons, List.intercalate_cons_cons, List.append_assoc,
          List.length_append]
        omega
    rw [condition?, tokens]
    simp only [bind, Option.bind]
    rw [disjunction?_recordTokens filled selectable (by omega)]
    rfl

/-! ## Evaluation -/

section

variable {numeral : List Char → Float} {row : Row}

theorem holds_all (cs : List Condition) :
    (Condition.all cs).holds numeral row = true ↔ ∀ c ∈ cs, c.holds numeral row = true := by
  induction cs with
  | nil => simp [Condition.all, Condition.holds]
  | cons c cs ih =>
    rw [List.forall_mem_cons, ← ih]
    cases cs with
    | nil => simp [Condition.all, Condition.holds]
    | cons d cs => rw [Condition.all, Condition.holds, Bool.and_eq_true]

theorem holds_any (cs : List Condition) :
    (Condition.any cs).holds numeral row = true ↔ ∃ c ∈ cs, c.holds numeral row = true := by
  induction cs with
  | nil => simp [Condition.any, Condition.holds]
  | cons c cs ih =>
    rw [List.exists_mem_cons_iff, ← ih]
    cases cs with
    | nil => simp [Condition.any, Condition.holds]
    | cons d cs => rw [Condition.any, Condition.holds, Bool.or_eq_true]

/-- The engine reads the numerals of a value as the numbers they were written for. -/
def ReadsNumbers (numeral : List Char → Float) (v : Json) : Prop :=
  ∀ n, v = .number n ∨ (∃ items, v = .array items ∧ .number n ∈ items) →
    numeral n.chars = n.toFloat

/-- A field of the row is the same as a constant. -/
theorem same_value_iff {v : Json} (scalar : IsScalar v) (reads : ReadsNumbers numeral v)
    (field : String) :
    ((Operand.field field).value numeral row).same ((Constant.ofJson v).value numeral) = true ↔
      ∃ w, Entries.get? row field = some w ∧ w.StrictlyEqual v := by
  rw [Operand.value]
  cases Entries.get? row field with
  | none => cases scalar <;> simp [Constant.ofJson, Constant.value, Value.same]
  | some w =>
    simp only [Option.map_some, Option.getD_some, Option.some.injEq, exists_eq_left']
    cases scalar with
    | number n =>
      have read := reads n (.inl rfl)
      cases w <;> simp [Constant.ofJson, Constant.value, Value.ofJson, Value.same,
        Json.StrictlyEqual, read]
    | _ =>
      cases w <;> simp [Constant.ofJson, Constant.value, Value.ofJson, Value.same,
        Json.StrictlyEqual]

theorem indexOf_nonneg_iff (items : List Value) (x : Value) :
    0 ≤ indexOf items x ↔ ∃ item ∈ items, x.same item = true := by
  unfold indexOf
  split
  next i found =>
    obtain ⟨inside, same, -⟩ := List.findIdx?_eq_some_iff_getElem.mp found
    exact iff_of_true (Int.natCast_nonneg i) ⟨_, List.getElem_mem inside, same⟩
  next missing =>
    refine iff_of_false (by decide) ?_
    rintro ⟨item, inside, same⟩
    exact Bool.false_ne_true ((List.findIdx?_eq_none_iff.mp missing item inside).symm.trans same)

/-- The test of a field holds when the row has an admitted value in it. -/
theorem holds_fieldCondition {entry : String × Json} (selectable : entry.2.IsSelectable)
    (reads : ReadsNumbers numeral entry.2) :
    (fieldCondition entry).holds numeral row = true ↔
      ∃ value, Entries.get? row entry.1 = some value ∧ entry.2.Admits value := by
  obtain ⟨field, value⟩ := entry
  cases selectable with
  | scalar scalar =>
    have condition : fieldCondition (field, value) =
        .same (.field field) (.constant (.ofJson value)) := by
      cases scalar <;> rfl
    have admits : ∀ w, value.Admits w ↔ w.StrictlyEqual value := by
      intro w
      refine ⟨fun admits => ?_, .scalar⟩
      cases admits with
      | scalar same => exact same
      | item => cases scalar
    simp only [condition, Condition.holds, admits]
    exact same_value_iff scalar reads field
  | @array items scalars =>
    have admits : ∀ w, (Json.array items).Admits w ↔ ∃ item ∈ items, w.StrictlyEqual item := by
      intro w
      refine ⟨fun admits => ?_, fun ⟨item, inside, same⟩ => .item inside same⟩
      cases admits with
      | scalar same => cases w <;> cases same
      | item inside same => exact ⟨_, inside, same⟩
    have each : ∀ item ∈ items,
        ((Operand.field field).value numeral row).same ((Constant.ofJson item).value numeral) = true ↔
          ∃ w, Entries.get? row field = some w ∧ w.StrictlyEqual item := by
      intro item inside
      refine same_value_iff (scalars item inside) (fun n isNumber => reads n (.inr ?_)) field
      rcases isNumber with rfl | ⟨others, rfl, -⟩
      · exact ⟨items, rfl, inside⟩
      · cases scalars _ inside
    simp only [fieldCondition, Condition.holds, decide_eq_true_eq, indexOf_nonneg_iff, admits,
      List.map_map, List.mem_map]
    constructor
    · rintro ⟨-, ⟨item, inside, rfl⟩, same⟩
      obtain ⟨w, found, same⟩ := (each item inside).mp same
      exact ⟨w, found, item, inside, same⟩
    · rintro ⟨w, found, item, inside, same⟩
      exact ⟨_, ⟨item, inside, rfl⟩, (each item inside).mpr ⟨w, found, same⟩⟩

theorem holds_recordCondition {record : Row}
    (selectable : ∀ entry ∈ record, entry.2.IsSelectable)
    (reads : ∀ entry ∈ record, ReadsNumbers numeral entry.2) :
    (recordCondition record).holds numeral row = true ↔ row.MatchesRecord record := by
  rw [recordCondition, holds_all, List.forall_mem_map]
  exact forall₂_congr fun entry inside =>
    holds_fieldCondition (selectable entry inside) (reads entry inside)

end

theorem condition?_true : condition? "true".toList = some (.truth true) := by
  have identifier : isIdentifier "true".toList = true := rfl
  have tokens := tokens?_name identifier stops_nil.name
  rw [List.append_nil, tokens?_nil, String.ofList_toList] at tokens
  rw [condition?, tokens]
  rfl

/-- **The test of a selection means the selection.** Evaluated on a row by an engine that reads
the numerals of the selection as its numbers, the generated expression has a truth value, and it
is true exactly on the rows that match the selection. -/
theorem selectionTest_iff_matches (numeral : List Char → Float) (selection : Selection) (row : Row)
    (filled : ∀ record ∈ selection.records, record ≠ [])
    (selectable : ∀ record ∈ selection.records, ∀ entry ∈ record, entry.2.IsSelectable)
    (reads : ∀ record ∈ selection.records, ∀ entry ∈ record, ReadsNumbers numeral entry.2) :
    ∃ b, evaluate? numeral row (selectionTest selection) = some b ∧
      (b = true ↔ selection.Matches row) := by
  by_cases none : selection.records = []
  · refine ⟨true, ?_, iff_of_true rfl (.inl none)⟩
    have text : selectionTest selection = "true" := by
      simp [selectionTest, none]
    rw [evaluate?, text, condition?_true]
    rfl
  · refine ⟨_, by rw [evaluate?, condition?_selectionTest none filled selectable]; rfl, ?_⟩
    rw [holds_any, Selection.Matches, or_iff_right none]
    simp only [List.mem_map, exists_exists_and_eq_and]
    exact exists_congr fun record => and_congr_right fun inside =>
      holds_recordCondition (selectable record inside) (reads record inside)

/-- An array of admitted values under a name that closes its own quotes and goes on as a
condition, and a record with a number that is written as an integer and stands in the row as a
double. The row matches the second record only. -/
theorem selectionTest_iff_matches_awkward :
    let numeral (cs : List Char) : Float := (readFloat? cs).getD 0.0
    let first : Row := [("x'] || true", .array ["a\"] || [\"", .null])]
    let second : Row := [("n", 2), ("label", "'\\) || (")]
    let row : Row := [("n", 2.0), ("label", "'\\) || (")]
    (∀ record ∈ [first, second], record ≠ []) ∧
      (∀ record ∈ [first, second], ∀ entry ∈ record, entry.2.IsSelectable) ∧
      (∀ record ∈ [first, second], ∀ entry ∈ record, ReadsNumbers numeral entry.2) ∧
      evaluate? numeral row (selectionTest ⟨[first, second]⟩) = some true := by
  intro numeral first second row
  have filled : ∀ record ∈ [first, second], record ≠ [] := by decide
  have selectable : ∀ record ∈ [first, second], ∀ entry ∈ record, entry.2.IsSelectable := by
    simp only [List.forall_mem_cons, first, second]
    refine ⟨⟨.array ?_, nofun⟩, ⟨.scalar (.number _), .scalar (.string _), nofun⟩, nofun⟩
    simp only [List.forall_mem_cons]
    exact ⟨.string _, .null, nofun⟩
  have reads : ∀ record ∈ [first, second], ∀ entry ∈ record, ReadsNumbers numeral entry.2 := by
    have two : numeral (Json.Number.integer 2).chars = (Json.Number.integer 2).toFloat := by
      decide +kernel
    simp only [List.forall_mem_cons, first, second]
    refine ⟨⟨?_, nofun⟩, ⟨?_, ?_, nofun⟩, nofun⟩
    · rintro n (isNumber | ⟨items, isArray, inside⟩)
      · cases isNumber
      · cases isArray
        simp at inside
    · rintro n (isNumber | ⟨items, isArray, inside⟩)
      · cases isNumber
        exact two
      · cases isArray
    · rintro n (isNumber | ⟨items, isArray, inside⟩)
      · cases isNumber
      · cases isArray
  refine ⟨filled, selectable, reads, ?_⟩
  obtain ⟨b, evaluated, isTrue⟩ :=
    selectionTest_iff_matches numeral ⟨[first, second]⟩ row filled selectable reads
  have double : (2.0 : Json) = .number (.double ⟨0x4000000000000000, by decide⟩) := by
    decide +kernel
  have equal : (2.0 : Json).StrictlyEqual 2 := by
    rw [double]
    have same : (Double.toFloat ⟨0x4000000000000000, by decide⟩ ==
      (Json.Number.integer 2).toFloat) = true := by decide +kernel
    exact same
  have matched : Row.MatchesRecord row second := by
    simp only [Row.MatchesRecord, second, List.forall_mem_cons]
    exact ⟨⟨2.0, rfl, .scalar equal⟩, ⟨"'\\) || (", rfl, .scalar rfl⟩, nofun⟩
  rw [evaluated, isTrue.mpr (.inr ⟨second, by simp, matched⟩)]

end Expression

end ChartCompiler
