import Mathlib
import ChartCompiler.Proofs.Shorthand.Token

/-!
Reading arguments. An argument goes through two passes: the first one only sees a key and
a value (`argument`), the second one gives it its meaning (`apply`). `Takes` says which
setting an argument makes, and ties what the first pass reads to the arguments of the
grammar.
-/

namespace ChartCompiler.Shorthand

open Text (Ends ends_cons)

variable {text rest : List Char}

/-! ## What arguments set -/

/-- The value is one that the setting can be given by. -/
def Admits (s : Setting) (v : Value) : Prop :=
  match s with
  | .field _ name => v.text? = some name
  | .hideLegend b | .showTitle b => v = .truth b
  | .scaleX scale | .scaleY scale => v.text? = some scale.name

/-- The argument makes the setting. -/
def Takes (a : Argument) (s : Setting) : Prop :=
  a.1 = memberKey s.member ∧ Admits s a.2

theorem find?_channelKey (channel : Channel) :
    Channel.all.find? (channelKey · = channelKey channel) = some channel := by
  cases channel <;> decide

theorem truthValue_ok {key : String} {v : Value} {b : Bool} (read : truthValue key v = .ok b) :
    v = .truth b := by
  cases v with
  | truth c =>
    cases read
    rfl
  | _ => cases read

theorem scaleValue_ok {key : String} {v : Value} {scale : ScaleType}
    (read : scaleValue key v = .ok scale) : v.text? = some scale.name := by
  unfold scaleValue at read
  cases named : v.text? with
  | none =>
    rw [named] at read
    cases read
  | some s =>
    rw [named] at read
    cases found : ScaleType.ofName? s with
    | none => simp [ScaleType.ofName, found, UnknownName.orElse, Except.mapError] at read
    | some other =>
      simp only [ScaleType.ofName, found, UnknownName.orElse, Except.mapError] at read
      cases read
      rw [ScaleType.name_of_ofName? found]

theorem scaleValue_of_text {key : String} {v : Value} {scale : ScaleType}
    (named : v.text? = some scale.name) : scaleValue key v = .ok scale := by
  simp only [scaleValue, named, ScaleType.ofName, ScaleType.ofName?_name, UnknownName.orElse,
    Except.mapError]

theorem apply_of_takes {a : Argument} {s : Setting} (takes : Takes a s) (config : ChartConfig) :
    apply config a = .ok (config.set s) := by
  obtain ⟨key, v⟩ := a
  obtain ⟨rfl, admits⟩ := takes
  cases s with
  | field channel name =>
    change apply config (channelKey channel, v) = _
    simp only [apply, find?_channelKey]
    rw [show v.text? = some name from admits]
    rfl
  | hideLegend b =>
    obtain rfl : v = .truth b := admits
    rfl
  | showTitle b =>
    obtain rfl : v = .truth b := admits
    rfl
  | scaleX scale =>
    change (scaleValue "scale_x" v).map (fun s => { config with scaleX := some s }) = _
    rw [scaleValue_of_text admits]
    rfl
  | scaleY scale =>
    change (scaleValue "scale_y" v).map (fun s => { config with scaleY := some s }) = _
    rw [scaleValue_of_text admits]
    rfl

/-- Every argument that is applied makes a setting. -/
theorem exists_takes_of_apply {a : Argument} {config result : ChartConfig}
    (applied : apply config a = .ok result) : ∃ s, Takes a s ∧ result = config.set s := by
  obtain ⟨key, v⟩ := a
  unfold apply at applied
  simp only at applied
  split at applied
  · next channel found =>
    have isKey := List.find?_some found
    split at applied
    · next name named =>
      cases applied
      exact ⟨.field channel name, ⟨(of_decide_eq_true isKey).symm, named⟩, rfl⟩
    · cases applied
  · split at applied
    · obtain ⟨b, read, rfl⟩ := ok_of_map applied
      exact ⟨.hideLegend b, ⟨rfl, truthValue_ok read⟩, rfl⟩
    · obtain ⟨b, read, rfl⟩ := ok_of_map applied
      exact ⟨.showTitle b, ⟨rfl, truthValue_ok read⟩, rfl⟩
    · obtain ⟨scale, read, rfl⟩ := ok_of_map applied
      exact ⟨.scaleX scale, ⟨rfl, scaleValue_ok read⟩, rfl⟩
    · obtain ⟨scale, read, rfl⟩ := ok_of_map applied
      exact ⟨.scaleY scale, ⟨rfl, scaleValue_ok read⟩, rfl⟩
    · cases applied

theorem foldlM_apply_of_takes {arguments : List Argument} {settings : List Setting}
    (takes : List.Forall₂ Takes arguments settings) (config : ChartConfig) :
    arguments.foldlM apply config = .ok (config.setAll settings) := by
  induction takes generalizing config with
  | nil => rfl
  | @cons a s _ settings first _ ih =>
    rw [List.foldlM_cons, apply_of_takes first]
    exact ih (config.set s)

theorem exists_takes_of_foldlM {arguments : List Argument} {config result : ChartConfig}
    (applied : arguments.foldlM apply config = .ok result) :
    ∃ settings, List.Forall₂ Takes arguments settings ∧ result = config.setAll settings := by
  induction arguments generalizing config with
  | nil =>
    cases applied
    exact ⟨[], .nil, rfl⟩
  | cons a others ih =>
    rw [List.foldlM_cons] at applied
    obtain ⟨next, first, applied⟩ := ok_of_bind applied
    obtain ⟨s, takes, rfl⟩ := exists_takes_of_apply first
    obtain ⟨settings, followed, rfl⟩ := ih applied
    exact ⟨s :: settings, .cons takes followed, rfl⟩

/-! ## Values -/

theorem quotedText_eq_error {c : Char} (other : c ≠ '"') (text : List Char) :
    quotedText (c :: text) = .error ⟨.character, c :: text⟩ := by
  unfold quotedText
  split
  · next same => exact absurd (List.cons.inj same).1 other
  · rfl

theorem bareName_of_all {w : List Char} (start : w.head?.any isNameStart = true)
    (others : w.tail.all isNameChar = true) : BareName w := by
  cases w with
  | nil => cases start
  | cons c w =>
    refine .mk (isNameStart_iff.mp start) fun d inside => ?_
    exact isNameChar_iff.mp (List.all_eq_true.mp others d inside)

theorem bareName_truthName (b : Bool) : BareName (truthName b).toList := by
  cases b <;> exact bareName_of_all (by decide) (by decide)

theorem bareName_memberKey (m : ConfigMember) : BareName (memberKey m).toList := by
  cases m with
  | channel channel => cases channel <;> exact bareName_of_all (by decide) (by decide)
  | _ => exact bareName_of_all (by decide) (by decide)

theorem ofName_truthName (b : Bool) : Value.ofName (truthName b) = .truth b := by
  cases b <;> decide

/-- A bare name is read as the value that it denotes. -/
theorem value_bare {w : List Char} (bare : BareName w) (ends : Ends isNameChar rest) :
    value (w ++ rest) = .ok (Value.ofName (String.ofList w), rest) := by
  have unquoted : ∃ e, quotedText (w ++ rest) = .error e := by
    cases bare with
    | @mk c w start others =>
      refine ⟨_, quotedText_eq_error ?_ _⟩
      rintro rfl
      exact absurd (isNameStart_iff.mpr start) (by decide)
  obtain ⟨e, unquoted⟩ := unquoted
  unfold value
  rw [unquoted]
  simp only
  rw [name_append bare ends]
  rfl

theorem value_quoted {w t : List Char} (quoted : Quoted w t) (rest : List Char) :
    value ('"' :: (w ++ ['"']) ++ rest) = .ok (.quoted (String.ofList t), rest) := by
  have read : quotedText ('"' :: (w ++ ['"']) ++ rest) = .ok (t, rest) := by
    simpa [quotedText] using quotedRest_append quoted [] rest
  unfold value
  rw [read]

theorem value_ok {v : Value} (read : value text = .ok (v, rest)) :
    (∃ w, BareName w ∧ text = w ++ rest ∧ v = Value.ofName (String.ofList w)) ∨
      ∃ w t, Quoted w t ∧ text = '"' :: (w ++ ['"']) ++ rest ∧ v = .quoted (String.ofList t) := by
  unfold value at read
  split at read
  · next t behind found =>
    cases read
    unfold quotedText at found
    split at found
    · next inner =>
      obtain ⟨w, t, quoted, rfl, rfl⟩ := quotedRest_ok found
      exact .inr ⟨w, t, quoted, by simp, rfl⟩
    · cases found
  · obtain ⟨⟨w, behind⟩, found, equal⟩ := ok_of_map read
    cases equal
    obtain ⟨bare, split⟩ := name_ok found
    exact .inl ⟨w, bare, split, rfl⟩

theorem Value.ofName_cases (s : String) :
    (∃ b, s = truthName b ∧ Value.ofName s = .truth b) ∨
      (∀ b, s ≠ truthName b) ∧ Value.ofName s = .name s := by
  unfold Value.ofName
  split
  · next isTrue => exact .inl ⟨true, isTrue, rfl⟩
  · next notTrue =>
    split
    · next isFalse => exact .inl ⟨false, isFalse, rfl⟩
    · next notFalse =>
      refine .inr ⟨fun b => ?_, rfl⟩
      cases b
      · exact notFalse
      · exact notTrue

/-- A value that reads as a text is one of the grammar. -/
theorem textValue_of_ok {v : Value} {t : String} (read : value text = .ok (v, rest))
    (named : v.text? = some t) : ∃ w, text = w ++ rest ∧ TextValue t w := by
  rcases value_ok read with ⟨w, bare, rfl, rfl⟩ | ⟨w, u, quoted, rfl, rfl⟩
  · rcases Value.ofName_cases (String.ofList w) with ⟨b, -, isTruth⟩ | ⟨notTruth, isName⟩
    · rw [isTruth] at named
      cases named
    · rw [isName] at named
      cases named
      exact ⟨w, rfl, .bare bare notTruth⟩
  · cases named
    exact ⟨_, rfl, .quoted quoted⟩

theorem eq_truthName_of_ok {b : Bool} (read : value text = .ok (.truth b, rest)) :
    text = (truthName b).toList ++ rest := by
  rcases value_ok read with ⟨w, bare, rfl, denotes⟩ | ⟨w, u, quoted, rfl, denotes⟩
  · rcases Value.ofName_cases (String.ofList w) with ⟨c, isName, isTruth⟩ | ⟨-, isName⟩
    · rw [isTruth] at denotes
      cases denotes
      rw [← isName, String.toList_ofList]
    · rw [isName] at denotes
      cases denotes
  · cases denotes

theorem value_of_textValue {t : String} {w : List Char} (written : TextValue t w)
    (ends : Ends isNameChar rest) : ∃ v, v.text? = some t ∧ value (w ++ rest) = .ok (v, rest) := by
  cases written with
  | bare bare notTruth =>
    refine ⟨_, ?_, value_bare bare ends⟩
    rcases Value.ofName_cases (String.ofList w) with ⟨b, isTruth, -⟩ | ⟨-, isName⟩
    · exact absurd isTruth (notTruth b)
    · rw [isName]
      rfl
  | quoted quoted => exact ⟨_, rfl, value_quoted quoted rest⟩

/-- The values that a setting admits are those of the grammar. -/
theorem valueText_of_ok {s : Setting} {v : Value} (read : value text = .ok (v, rest))
    (admits : Admits s v) : ∃ w, text = w ++ rest ∧ ValueText s w := by
  cases s with
  | field channel name => exact textValue_of_ok read admits
  | hideLegend b =>
    obtain rfl : v = .truth b := admits
    exact ⟨_, eq_truthName_of_ok read, rfl⟩
  | showTitle b =>
    obtain rfl : v = .truth b := admits
    exact ⟨_, eq_truthName_of_ok read, rfl⟩
  | scaleX scale => exact textValue_of_ok read admits
  | scaleY scale => exact textValue_of_ok read admits

theorem value_of_valueText {s : Setting} {w : List Char} (written : ValueText s w)
    (ends : Ends isNameChar rest) : ∃ v, Admits s v ∧ value (w ++ rest) = .ok (v, rest) := by
  have truth : ∀ b, ∃ v : Value, v = .truth b ∧
      value ((truthName b).toList ++ rest) = .ok (v, rest) := by
    intro b
    refine ⟨_, rfl, ?_⟩
    rw [value_bare (bareName_truthName b) ends, String.ofList_toList, ofName_truthName]
  cases s with
  | field channel name => exact value_of_textValue written ends
  | hideLegend b =>
    obtain rfl : w = (truthName b).toList := written
    exact truth b
  | showTitle b =>
    obtain rfl : w = (truthName b).toList := written
    exact truth b
  | scaleX scale => exact value_of_textValue written ends
  | scaleY scale => exact value_of_textValue written ends

/-- No value starts with white space. -/
theorem ValueText.ends {s : Setting} {w : List Char} (written : ValueText s w) :
    Ends isSpace (w ++ rest) := by
  have text : ∀ {t}, TextValue t w → Ends isSpace (w ++ rest) := by
    intro t written
    cases written with
    | bare bare _ => exact bare.ends fun _ => isSpace_of_isNameStart
    | quoted quoted => exact ends_cons rfl
  have truth : ∀ {b}, w = (truthName b).toList → Ends isSpace (w ++ rest) := by
    rintro b rfl
    exact (bareName_truthName b).ends fun _ => isSpace_of_isNameStart
  cases s with
  | field channel name => exact text written
  | hideLegend b => exact truth written
  | showTitle b => exact truth written
  | scaleX scale => exact text written
  | scaleY scale => exact text written

/-! ## Arguments -/

theorem Space.append_argument {a w : List Char} {s : Setting} (space : Space a)
    (written : ArgumentText s w) : ArgumentText s (a ++ w) := by
  cases written with
  | mk spaceA spaceB spaceC value spaceD =>
    rw [← List.append_assoc]
    exact .mk (space.append spaceA) spaceB spaceC value spaceD

theorem argument_ok {a : Argument} {s : Setting} (read : argument text = .ok (a, rest))
    (takes : Takes a s) : skipSpace rest = rest ∧ ∃ w, text = w ++ rest ∧ ArgumentText s w := by
  unfold argument at read
  obtain ⟨⟨key, afterKey⟩, readKey, read⟩ := ok_of_bind read
  obtain ⟨⟨⟨⟩, afterColon⟩, colon, read⟩ := ok_of_bind read
  obtain ⟨⟨v, afterValue⟩, readValue, done⟩ := ok_of_bind read
  cases done
  obtain ⟨isKey, admits⟩ := takes
  obtain ⟨a, before, _, b, spaceA, spaceB, rfl, rfl, -, found⟩ := spaced_ok readKey
  obtain ⟨-, rfl⟩ := name_ok found
  obtain rfl := character_ok colon
  obtain ⟨c, before, _, d, spaceC, spaceD, rfl, rfl, skipped, found⟩ := spaced_ok readValue
  obtain ⟨w, rfl, written⟩ := valueText_of_ok found admits
  obtain rfl : key = (memberKey s.member).toList := by rw [← isKey, String.toList_ofList]
  exact ⟨skipped, _, by simp, .mk spaceA spaceB spaceC written spaceD⟩

theorem argument_append {s : Setting} {w : List Char} (written : ArgumentText s w)
    (ends : Ends isNameChar rest) :
    ∃ a, Takes a s ∧ argument (w ++ rest) = .ok (a, skipSpace rest) := by
  cases written with
  | @mk a b c v d spaceA spaceB spaceC written spaceD =>
    have bare := bareName_memberKey s.member
    have token : name ((memberKey s.member).toList ++ (b ++ ':' :: (c ++ (v ++ (d ++ rest))))) =
        .ok ((memberKey s.member).toList, b ++ ':' :: (c ++ (v ++ (d ++ rest)))) :=
      name_append bare (spaceB.ends (by decide) (ends_cons rfl))
    have readKey := spaced_append spaceA spaceB (bare.ends fun _ => isSpace_of_isNameStart) token
    rw [skipSpace_of_ends (ends_cons rfl)] at readKey
    obtain ⟨value, admits, read⟩ := value_of_valueText written (spaceD.ends (by decide) ends)
    have readValue := spaced_append spaceC spaceD written.ends read
    refine ⟨(memberKey s.member, value), ⟨rfl, admits⟩, ?_⟩
    simp only [List.append_assoc, List.cons_append]
    unfold argument
    rw [readKey]
    simp only [bind, Except.bind, character_cons]
    rw [readValue]
    simp only [String.ofList_toList]
    rfl

end ChartCompiler.Shorthand
