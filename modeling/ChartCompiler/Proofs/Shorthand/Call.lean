import Mathlib
import ChartCompiler.Proofs.Shorthand.Argument

/-!
Reading calls. The list of arguments ends in front of a comma that no argument follows
and leaves it to the closing parenthesis to fail there. `parse_iff_callText` says that a
text is read if and only if it is a call of the grammar, and what it is read as.
-/

namespace ChartCompiler.Shorthand

open Text (Ends ends_cons)

variable {text rest : List Char}

/-! ## Lists of arguments -/

theorem Space.append_arguments {a w : List Char} {settings : List Setting} (space : Space a)
    (written : ArgumentsText settings w) : ArgumentsText settings (a ++ w) := by
  cases written with
  | none spaceW => exact .none (space.append spaceW)
  | some first further =>
    rw [← List.append_assoc]
    exact .some (space.append_argument first) further

theorem furtherArguments_ok {fuel : Nat} {arguments : List Argument} {settings : List Setting}
    (read : furtherArguments fuel text = (arguments, rest)) (skipped : skipSpace text = text)
    (takes : List.Forall₂ Takes arguments settings) :
    skipSpace rest = rest ∧ ∃ w, text = w ++ rest ∧ FurtherText settings w := by
  induction fuel generalizing text arguments settings with
  | zero =>
    cases read
    cases takes
    exact ⟨skipped, [], rfl, .nil⟩
  | succ fuel ih =>
    unfold furtherArguments at read
    split at read
    · cases read
      cases takes
      exact ⟨skipped, [], rfl, .nil⟩
    · next afterComma comma =>
      split at read
      · cases read
        cases takes
        exact ⟨skipped, [], rfl, .nil⟩
      · next a afterArgument argument =>
        cases read
        cases takes with
        | @cons _ s _ settings first others =>
          obtain ⟨b, before, _, d, spaceB, spaceD, split, rfl, -, found⟩ := spaced_ok comma
          obtain rfl := character_ok found
          obtain rfl := eq_of_skipped skipped spaceB rfl split
          obtain ⟨skippedNext, w, rfl, written⟩ := argument_ok argument first
          obtain ⟨skippedRest, v, splitNext, further⟩ := ih rfl skippedNext others
          refine ⟨skippedRest, _, ?_, .cons (spaceD.append_argument written) further⟩
          conv_lhs => rw [splitNext]
          simp

theorem arguments_ok {arguments : List Argument} {settings : List Setting}
    (read : Shorthand.arguments text = (arguments, rest)) (skipped : skipSpace text = text)
    (takes : List.Forall₂ Takes arguments settings) :
    skipSpace rest = rest ∧ ∃ w, text = w ++ rest ∧ ArgumentsText settings w := by
  unfold Shorthand.arguments at read
  split at read
  · cases read
    cases takes
    exact ⟨skipped, [], rfl, .none .nil⟩
  · next a afterArgument argument =>
    cases read
    cases takes with
    | cons first others =>
      obtain ⟨skippedNext, w, rfl, written⟩ := argument_ok argument first
      obtain ⟨skippedRest, v, splitNext, further⟩ := furtherArguments_ok rfl skippedNext others
      refine ⟨skippedRest, _, ?_, .some written further⟩
      conv_lhs => rw [splitNext]
      simp

/-- A list of arguments goes on with a comma or ends with the parenthesis. -/
theorem FurtherText.ends {p : Char → Bool} {settings : List Setting} {w : List Char}
    (further : FurtherText settings w) (comma : p ',' = false) (closing : p ')' = false) :
    Ends p (w ++ ')' :: rest) := by
  cases further with
  | nil => exact ends_cons closing
  | cons => exact ends_cons comma

theorem FurtherText.length_le {settings : List Setting} {w : List Char}
    (further : FurtherText settings w) : settings.length ≤ w.length := by
  induction further with
  | nil => exact Nat.le_refl _
  | cons _ _ ih =>
    simp only [List.length_cons, List.length_append]
    omega

theorem argument_skipSpace (text : List Char) : argument (skipSpace text) = argument text := by
  unfold argument spaced
  rw [skipSpace_skipSpace]

theorem furtherArguments_append {fuel : Nat} {settings : List Setting} {w : List Char}
    (further : FurtherText settings w) (enough : settings.length ≤ fuel) (rest : List Char) :
    ∃ arguments, List.Forall₂ Takes arguments settings ∧
      furtherArguments fuel (w ++ ')' :: rest) = (arguments, ')' :: rest) := by
  induction further generalizing fuel with
  | nil =>
    refine ⟨[], .nil, ?_⟩
    cases fuel with
    | zero => rfl
    | succ fuel => rfl
  | @cons s settings w v written further ih =>
    cases fuel with
    | zero => cases enough
    | succ fuel =>
      obtain ⟨arguments, takes, read⟩ := ih (Nat.le_of_succ_le_succ enough)
      obtain ⟨a, first, readFirst⟩ := argument_append written (further.ends rfl rfl)
      rw [skipSpace_of_ends (further.ends rfl rfl)] at readFirst
      refine ⟨a :: arguments, .cons first takes, ?_⟩
      have comma : spaced (character ',') (',' :: (w ++ (v ++ ')' :: rest))) =
          .ok ((), skipSpace (w ++ (v ++ ')' :: rest))) :=
        spaced_append .nil .nil (ends_cons rfl) (character_cons ',' _)
      simp only [List.cons_append, List.append_assoc]
      unfold furtherArguments
      rw [comma]
      simp only [argument_skipSpace]
      rw [readFirst]
      simp only [read]

theorem arguments_append {settings : List Setting} {w : List Char}
    (written : ArgumentsText settings w) (rest : List Char) :
    ∃ arguments, List.Forall₂ Takes arguments settings ∧
      Shorthand.arguments (skipSpace (w ++ ')' :: rest)) = (arguments, ')' :: rest) := by
  cases written with
  | none space =>
    refine ⟨[], .nil, ?_⟩
    rw [skipSpace_append space, skipSpace_of_ends (ends_cons rfl)]
    rfl
  | @some s settings w v first further =>
    obtain ⟨a, takesFirst, readFirst⟩ := argument_append first (further.ends rfl rfl)
    rw [skipSpace_of_ends (further.ends rfl rfl)] at readFirst
    have enough : settings.length ≤ (v ++ ')' :: rest).length := by
      have := further.length_le
      simp only [List.length_append]
      omega
    obtain ⟨arguments, takes, read⟩ := furtherArguments_append further enough rest
    refine ⟨a :: arguments, .cons takesFirst takes, ?_⟩
    unfold Shorthand.arguments
    rw [argument_skipSpace, List.append_assoc, readFirst]
    simp only [read]

/-! ## Calls -/

theorem callText_of_ok {c : Call} {settings : List Setting} (read : call text = .ok c)
    (takes : List.Forall₂ Takes c.arguments settings) : CallText c.kind settings text := by
  unfold call at read
  obtain ⟨⟨kind, afterKind⟩, readKind, read⟩ := ok_of_bind read
  obtain ⟨⟨⟨⟩, afterOpening⟩, opening, read⟩ := ok_of_bind read
  rcases readArguments : arguments afterOpening with ⟨arguments, afterArguments⟩
  simp only [readArguments] at read
  obtain ⟨⟨⟨⟩, afterClosing⟩, closing, read⟩ := ok_of_bind read
  simp only at read
  split at read
  · cases read
    obtain ⟨a, before, _, b, spaceA, spaceB, rfl, rfl, -, found⟩ := spaced_ok readKind
    obtain rfl := kind_ok found
    obtain ⟨e, before, _, c, spaceE, spaceC, rfl, rfl, skipped, found⟩ := spaced_ok opening
    obtain rfl := character_ok found
    obtain ⟨skippedRest, w, rfl, written⟩ := arguments_ok readArguments skipped takes
    obtain ⟨f, before, _, d, spaceF, spaceD, split, rfl, -, found⟩ := spaced_ok closing
    obtain rfl := character_ok found
    obtain rfl := eq_of_skipped skippedRest spaceF rfl split
    have whole := @CallText.mk kind settings _ _ _ _ spaceA (spaceB.append spaceE)
      (spaceC.append_arguments written) spaceD
    simpa using whole
  · cases read

theorem call_of_callText {kind : ChartKind} {settings : List Setting}
    (written : CallText kind settings text) :
    ∃ arguments, List.Forall₂ Takes arguments settings ∧ call text = .ok ⟨kind, arguments⟩ := by
  cases written with
  | @mk a b w d spaceA spaceB written spaceD =>
    obtain ⟨arguments, takes, readArguments⟩ := arguments_append written d
    have token : Shorthand.kind (kind.name.toList ++ (b ++ '(' :: (w ++ ')' :: d))) =
        .ok (kind, b ++ '(' :: (w ++ ')' :: d)) :=
      kind_append kind (spaceB.ends (by decide) (ends_cons rfl))
    have readKind := spaced_append spaceA spaceB (ends_name kind) token
    rw [skipSpace_of_ends (ends_cons rfl)] at readKind
    have opening : spaced (character '(') ('(' :: (w ++ ')' :: d)) =
        .ok ((), skipSpace (w ++ ')' :: d)) :=
      spaced_append .nil .nil (ends_cons rfl) (character_cons '(' _)
    have last : character ')' (')' :: d) = .ok ((), d ++ []) := by
      rw [List.append_nil, character_cons]
    have closing : spaced (character ')') (')' :: d) = .ok ((), skipSpace []) :=
      spaced_append .nil spaceD (ends_cons rfl) last
    refine ⟨arguments, takes, ?_⟩
    unfold call
    rw [readKind]
    simp only [bind, Except.bind]
    rw [opening]
    simp only [readArguments]
    rw [closing]
    rfl

/-! ## Configurations -/

theorem parse_of_callText {kind : ChartKind} {settings : List Setting} {text : String}
    (written : CallText kind settings text.toList) :
    parse text = .ok ((ChartConfig.ofKind kind).setAll settings) := by
  obtain ⟨arguments, takes, read⟩ := call_of_callText written
  unfold parse
  rw [read]
  exact foldlM_apply_of_takes takes (.ofKind kind)

theorem exists_callText_of_parse {text : String} {config : ChartConfig}
    (read : parse text = .ok config) :
    ∃ kind settings, CallText kind settings text.toList := by
  unfold parse at read
  split at read
  · next c readCall =>
    obtain ⟨settings, takes, -⟩ := exists_takes_of_foldlM read
    exact ⟨c.kind, settings, callText_of_ok readCall takes⟩
  · cases read

/-- The shorthand always names a kind. -/
theorem exists_kind_of_parse {text : String} {config : ChartConfig}
    (read : parse text = .ok config) : ∃ kind, config.kind = some kind := by
  obtain ⟨kind, settings, written⟩ := exists_callText_of_parse read
  rw [parse_of_callText written] at read
  cases read
  exact ⟨kind, ChartConfig.kind_setAll _ settings⟩

/-- **The shorthand is its grammar.** A text is read if and only if it is a call of the
grammar. It is then read as the configuration of its kind with the settings made from
left to right: of several settings of one member the last one stays, and nothing else
is set. -/
theorem parse_iff_callText (text : String) :
    ((∃ config, parse text = .ok config) ↔
      ∃ kind settings, CallText kind settings text.toList) ∧
    ∀ kind settings, CallText kind settings text.toList →
      let config := (ChartConfig.ofKind kind).setAll settings
      parse text = .ok config ∧ config.kind = some kind ∧
        ∀ s, s ∈ config.settings ↔ s.IsLastIn settings := by
  refine ⟨⟨?_, ?_⟩, fun kind settings written => ⟨?_, ?_, fun s => ?_⟩⟩
  · rintro ⟨config, read⟩
    exact exists_callText_of_parse read
  · rintro ⟨kind, settings, written⟩
    exact ⟨_, parse_of_callText written⟩
  · exact parse_of_callText written
  · exact ChartConfig.kind_setAll _ settings
  · exact ChartConfig.mem_settings_setAll (some kind) settings s

/-- Of two fields for one channel the second one stays, and the first one's text is
quoted with an escape. -/
theorem parse_repeated_channel :
    CallText .bar [.field .x "a\"b", .field .x "c.d"] " bar( x:\"a\\\"b\" ,x : c.d)".toList ∧
    parse " bar( x:\"a\\\"b\" ,x : c.d)" =
      .ok { kind := some .bar, bindings := { x := some "c.d" } } := by
  have blank : Space [' '] := by simp [Space]
  have quoted : Quoted ['a', '\\', '"', 'b'] ['a', '"', 'b'] :=
    .plain (by decide) (by decide) (.escaped (.inl rfl) (.plain (by decide) (by decide) .nil))
  have bare : BareName ['c', '.', 'd'] := bareName_of_all (by decide) (by decide)
  have first : ArgumentText (.field .x "a\"b") _ :=
    .mk blank .nil .nil (TextValue.quoted quoted) blank
  have second : ArgumentText (.field .x "c.d") _ :=
    .mk .nil blank blank (TextValue.bare bare (by decide)) .nil
  have written : CallText .bar [.field .x "a\"b", .field .x "c.d"]
      " bar( x:\"a\\\"b\" ,x : c.d)".toList :=
    .mk blank .nil (.some first (.cons second .nil)) .nil
  exact ⟨written, ((parse_iff_callText _).2 _ _ written).1⟩

end ChartCompiler.Shorthand
