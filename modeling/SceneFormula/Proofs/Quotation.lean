import SceneFormula.Proofs.SingleCall
import SceneFormula.Proofs.StandardEngine

set_option autoImplicit false

namespace SceneFormula

theorem Term.written_ofText (content : Text) :
    Term.Written (.literal content) (Literal.ofText content) :=
  .literal (Literal.stands_escaped content)

theorem Draft.scan_of_quote (isBuiltin : Name → Bool) {front : Text}
    (blank : front.isAllBlank = true) (previous : Option Char) (position : Nat) (rest : Text) :
    (scan isBuiltin previous position (front ++ Literal.quote :: rest)).calls = [] ∧
      (scan isBuiltin previous position (front ++ Literal.quote :: rest)).fault? =
        some .literalInFormula := by
  induction front generalizing previous position with
  | nil =>
    rw [List.nil_append, scan, if_pos rfl]
    exact ⟨rfl, rfl⟩
  | cons c front ih =>
    have own : isBlank c = true := Text.isBlank_of_mem blank List.mem_cons_self
    have later : Text.isAllBlank front = true := List.all_eq_true.mpr fun d member =>
      Text.isBlank_of_mem blank (List.mem_cons_of_mem c member)
    have unquoted : c ≠ Literal.quote := by
      rintro rfl
      exact absurd own (by decide)
    have nameless : ¬ Name.startsAfter previous (c :: (front ++ Literal.quote :: rest)) = true := by
      rw [Name.startsAfter_cons, isNameStart_eq_false_of_isBlank own, Bool.false_and]
      exact Bool.false_ne_true
    rw [List.cons_append, scan, if_neg unquoted]
    split
    · exact ih later (some c) (position + 1)
    · rename_i named
      rw [if_neg nameless] at named
      cases named

theorem Plan.prepare_number_of_quote (functions : Registry) (engine : FormulaEngine) {front : Text}
    (blank : front.isAllBlank = true) (rest : Text) :
    (prepare functions engine .number (front ++ Literal.quote :: rest)).result =
      .error (.fault .literalInFormula) := by
  obtain ⟨uncalled, fault⟩ :=
    Draft.scan_of_quote (isBuiltinCall functions) blank none 0 rest
  rw [prepare, Draft.ofText, uncalled, fault]
  rfl

theorem Segment.joined_literals (who : Participants) (place : Place) (index : Nat)
    (contents : List Text) :
    joined who place index (contents.map .literal) = pure contents.flatten := by
  induction contents generalizing index with
  | nil => rfl
  | cons content rest ih =>
    rw [List.map_cons, joined, ih, List.flatten_cons]
    rfl

namespace Plan

variable {functions : Registry} {engine : FormulaEngine} {contents raws : List Text}

/-- Literals with plus signs between them and blanks around each are a text expression. -/
theorem prepare_text_quoted (filled : contents ≠ [])
    (each : List.Forall₂ (fun content raw => (Literal.ofText content).Pads raw) contents raws) :
    (prepare functions engine .text (List.intercalate ['+'] raws)).result =
      .ok (.text (contents.map .literal)) := by
  have some_raw : raws ≠ [] := by
    rintro rfl
    cases each
    exact filled rfl
  refine prepare_text_eq_ok_iff_concatenated.mpr
    ⟨contents.map .literal, contents.map .literal, ⟨raws, some_raw, rfl, ?_⟩, rfl, ?_⟩
  · rw [List.forall₂_map_right_iff]
    exact each.flip.imp fun raw content pads => ⟨_, pads, Term.written_ofText content⟩
  · rw [List.forall₂_map_left_iff, List.forall₂_map_right_iff, List.forall₂_same]
    exact fun content _ => rfl

theorem prepare_number_quoted (filled : contents ≠ [])
    (each : List.Forall₂ (fun content raw => (Literal.ofText content).Pads raw) contents raws) :
    (prepare functions engine .number (List.intercalate ['+'] raws)).result =
      .error (.fault .literalInFormula) := by
  cases each with
  | nil => exact absurd rfl filled
  | @cons content raw _ more pads _ =>
    obtain ⟨front, back, frontBlank, -, rfl⟩ := pads
    obtain ⟨rest, whole⟩ : ∃ rest, List.intercalate ['+']
        ((front ++ (Literal.ofText content ++ back)) :: more) =
          front ++ Literal.quote :: rest := by
      cases more with
      | nil => exact ⟨_, by rw [List.intercalate_singleton]; rfl⟩
      | cons next more => exact ⟨_, by simp [List.intercalate, Literal.ofText]; rfl⟩
    rw [whole]
    exact prepare_number_of_quote functions engine frontBlank rest

end Plan

/-- Quoting is transparent. Texts that are quoted, with plus signs between them and blanks around
each, are prepared as a text expression with any functions, and joined to what they are without
quotes. The length of a quoted text is prepared as a formula if the library's function for it is
there and a slot by itself is a formula, and gives the number of code points that the text has
without quotes. -/
theorem Expression.content_quoted (functions : Registry) (engine : FormulaEngine) (place : Place)
    (who : Participants) (scene : Scene) :
    (∀ contents raws : List Text, contents ≠ [] →
      List.Forall₂ (fun content raw => (Literal.ofText content).Pads raw) contents raws →
      let attempt :=
        (ofText place (List.intercalate ['+'] raws)).prepare functions engine
      attempt.1.kind? = some .text ∧
        (attempt.2.1.content who).runIn scene = (.ok contents.flatten, scene)) ∧
    (functions.get? LibraryFunction.textLength.declared.key =
        some LibraryFunction.textLength.declared → engine.ComputesSlots →
      ∀ content : Text,
      let attempt := (ofText place
        (Text.lit "StrLength(" ++ (Literal.ofText content ++ [')']))).prepare functions engine
      attempt.1.kind? = some .number ∧
        (attempt.2.1.number who).runIn scene = (.ok (Double.ofInt content.length), scene)) := by
  constructor
  · intro contents raws filled each attempt
    obtain ⟨kind, same⟩ := prepare_ofText_of_text place
      (Plan.prepare_number_quoted filled each) (Plan.prepare_text_quoted filled each)
    refine ⟨kind, ?_⟩
    rw [same, Expression.content]
    change (Plan.content who place _ (.text (contents.map .literal))).runIn scene = _
    rw [Plan.content, Segment.joined_literals]
    rfl
  · intro known computes content attempt
    have success : (Plan.prepare functions engine .text (Literal.ofText content)).result =
        .ok (.text [.literal content]) := by
      have pads : (Literal.ofText content).Pads (Literal.ofText content) :=
        ⟨[], [], rfl, rfl, (List.append_nil _).symm⟩
      have one : List.intercalate ['+'] [Literal.ofText content] = Literal.ofText content :=
        List.intercalate_singleton
      rw [← one]
      exact Plan.prepare_text_quoted (List.cons_ne_nil _ _) (.cons pads .nil)
    obtain ⟨kind, value⟩ := number_textLength place computes known success
    refine ⟨kind, (congrArg (·.runIn scene) (value who content)).trans ?_⟩
    have literal :
        Plan.content who (1 :: 0 :: place) content (.text [.literal content]) = pure content := by
      rw [Plan.content]
      simpa using Segment.joined_literals who (1 :: 0 :: place) 0 [content]
    rw [literal]
    rfl

/-- Signs, commas, quotes and parentheses between quotes. -/
theorem Expression.content_quoted_signs :
    let functions := Registry.empty.insertLibrary
    let scene := Scene.start (Text.lit "scene") (Identifiers.empty true 1) .standard 0
    let who : Participants := ⟨none, none⟩
    let joined := (ofText [0] (Text.lit " \"a+\" + \"\\\\\\\"\"")).prepare functions .standard
    let long := (ofText [1] (Text.lit "StrLength(\",)\\\"(\")")).prepare functions .standard
    joined.1.kind? = some .text ∧
      (joined.2.1.content who).runIn scene = (.ok (Text.lit "a+\\\""), scene) ∧
      long.1.kind? = some .number ∧
      (long.2.1.number who).runIn scene = (.ok (Double.ofInt 4), scene) := by
  intro functions scene who joined long
  have known : functions.get? LibraryFunction.textLength.declared.key =
      some LibraryFunction.textLength.declared := rfl
  have pads : List.Forall₂ (fun content raw => (Literal.ofText content).Pads raw)
      [Text.lit "a+", Text.lit "\\\""] [Text.lit " \"a+\" ", Text.lit " \"\\\\\\\"\""] :=
    .cons ⟨[' '], [' '], rfl, rfl, rfl⟩ (.cons ⟨[' '], [], rfl, rfl, rfl⟩ .nil)
  obtain ⟨kind, value⟩ := (content_quoted functions .standard [0] who scene).1 _ _
    (List.cons_ne_nil _ _) pads
  obtain ⟨number, length⟩ := (content_quoted functions .standard [1] who scene).2 known
    FormulaEngine.standard_computesSlots (Text.lit ",)\"(")
  exact ⟨kind, value, number, length⟩

end SceneFormula
