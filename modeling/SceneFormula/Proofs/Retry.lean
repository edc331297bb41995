import SceneFormula.Formula.Standard
import SceneFormula.Proofs.Usage

set_option autoImplicit false

namespace SceneFormula

def Event.isPreparationFailed : Event → Bool
  | preparationFailed .. => true
  | _ => false

namespace Attempt

variable {α β : Type}

/-- Whether an attempt reports nothing of a failed preparation, whatever it comes to. -/
def Quiet (attempt : Attempt α) : Prop :=
  ∀ event ∈ attempt.events, event.isPreparationFailed = false

theorem quiet_pure (value : α) : (Pure.pure value : Attempt α).Quiet := nofun

theorem quiet_fail (fault : SyntaxFault) : (fail fault : Attempt α).Quiet := nofun

theorem Quiet.bind {first : Attempt α} {next : α → Attempt β} (quiet : first.Quiet)
    (others : ∀ value, (next value).Quiet) : (first >>= next).Quiet := by
  intro event member
  change event ∈ (Attempt.bind first next).events at member
  unfold Attempt.bind at member
  split at member
  · exact quiet event member
  · rename_i value _
    rcases List.mem_append.mp member with front | later
    · exact quiet event front
    · exact others value event later

theorem quiet_forEach {xs : List α} {attempt : (x : α) → x ∈ xs → Attempt β}
    (each : ∀ x member, (attempt x member).Quiet) : (forEach xs attempt).Quiet := by
  induction xs with
  | nil => exact nofun
  | cons x rest ih =>
    rw [forEach]
    refine Quiet.bind (each x List.mem_cons_self) fun y => ?_
    exact Quiet.bind (ih fun z member => each z (List.mem_cons_of_mem _ member)) fun ys =>
      quiet_pure _

end Attempt

theorem Instruction.quiet_ofCall {functions : Registry} {returns : ValueKind} {cut : Call}
    {prepare : (argument : Text) → argument ∈ cut.arguments → ValueKind → Attempt Plan}
    (each : ∀ argument member kind, (prepare argument member kind).Quiet) :
    (ofCall functions returns cut prepare).Quiet := by
  unfold ofCall
  split
  · exact Attempt.quiet_fail _
  · split
    · exact Attempt.quiet_fail _
    · refine Attempt.Quiet.bind (Attempt.quiet_forEach fun pair member => ?_) fun arguments =>
        Attempt.quiet_pure _
      split
      · exact Attempt.quiet_pure _
      · exact (each _ _ _).bind fun plan => Attempt.quiet_pure _

theorem Compiled.quiet_attempt (engine : FormulaEngine) (text : Text) (count : Nat) :
    (attempt engine text count).Quiet := by
  unfold attempt
  split
  · exact Attempt.quiet_fail _
  · exact fun event member => nomatch member
  · intro event member
    rcases List.mem_append.mp member with reported | none
    · rw [List.mem_singleton.mp reported]
      rfl
    · cases none

theorem Plan.quiet_prepare (functions : Registry) (engine : FormulaEngine) (kind : ValueKind)
    (text : Text) : (prepare functions engine kind text).Quiet := by
  induction size : text.length using Nat.strongRecOn generalizing kind text with
  | ind size ih =>
    subst size
    cases kind with
    | number =>
      rw [prepare]
      refine Attempt.Quiet.bind (Attempt.quiet_forEach fun cut member => ?_) fun calls => ?_
      · exact Instruction.quiet_ofCall fun argument among kind =>
          ih _ (Draft.length_lt_of_mem_calls member among) kind argument rfl
      · split
        · exact Attempt.quiet_fail _
        · exact (Compiled.quiet_attempt _ _ _).bind fun compiled => Attempt.quiet_pure _
    | text =>
      rw [prepare]
      split
      · exact Attempt.quiet_fail _
      · rename_i parts cut
        refine Attempt.Quiet.bind (Attempt.quiet_forEach fun part member => ?_) fun segments =>
          Attempt.quiet_pure _
        split
        · exact Attempt.quiet_fail _
        · exact Attempt.quiet_pure _
        · rename_i called known
          refine Attempt.Quiet.bind (Instruction.quiet_ofCall fun argument among kind => ?_)
            fun instruction => Attempt.quiet_pure _
          exact ih _ (Nat.lt_of_lt_of_le (Term.length_lt_of_ofPart known among)
            (Term.length_le_of_mem_parts cut member)) kind argument rfl

namespace Expression

variable {functions : Registry} {engine : FormulaEngine} {expression : Expression}

theorem countP_of_quiet {α : Type} {attempt : Attempt α} (quiet : attempt.Quiet) :
    attempt.events.countP Event.isPreparationFailed = 0 := by
  rw [List.countP_eq_zero]
  intro event member
  rw [quiet event member]
  nofun

/-- A failed attempt warns unless one has before, and no other does. -/
theorem countP_prepare (functions : Registry) (engine : FormulaEngine) (expression : Expression) :
    (expression.prepare functions engine).2.2.countP Event.isPreparationFailed =
      if (expression.prepare functions engine).1.isFailed = true ∧
        expression.failureReported = false then 1 else 0 := by
  have quiet (kind : ValueKind) :=
    countP_of_quiet (Plan.quiet_prepare functions engine kind expression.plain)
  cases attempted functions engine expression with
  | prepared plan held => simp [prepare_of_prepared held, Outcome.isFailed]
  | formula plan unprepared formula =>
    simp [prepare_of_formula unprepared formula, quiet, Outcome.isFailed,
      Event.isPreparationFailed]
  | breakdown name unprepared formula =>
    simp [prepare_of_breakdown unprepared formula, quiet, Outcome.isFailed]
  | text _ plan unprepared formula text =>
    simp [prepare_of_text unprepared formula text, quiet, Outcome.isFailed,
      Event.isPreparationFailed]
  | textBreakdown _ _ unprepared formula text =>
    simp [prepare_of_text_breakdown unprepared formula text, quiet, Outcome.isFailed]
  | faults _ _ unprepared formula text =>
    cases reported : expression.failureReported <;>
      simp [prepare_of_faults unprepared formula text, quiet, reported, Outcome.isFailed,
        Event.isPreparationFailed]

theorem failureReported_prepare (functions : Registry) (engine : FormulaEngine)
    (expression : Expression) :
    (expression.prepare functions engine).2.1.failureReported =
      (expression.failureReported || (expression.prepare functions engine).1.isFailed) := by
  cases attempted functions engine expression with
  | prepared plan held => simp [prepare_of_prepared held, Outcome.isFailed]
  | formula plan unprepared formula =>
    simp [prepare_of_formula unprepared formula, Outcome.isFailed]
  | breakdown name unprepared formula =>
    simp [prepare_of_breakdown unprepared formula, Outcome.isFailed]
  | text _ plan unprepared formula text =>
    simp [prepare_of_text unprepared formula text, Outcome.isFailed]
  | textBreakdown _ _ unprepared formula text =>
    simp [prepare_of_text_breakdown unprepared formula text, Outcome.isFailed]
  | faults _ _ unprepared formula text =>
    simp [prepare_of_faults unprepared formula text, Outcome.isFailed]

/-- Whether a failure has been reported decides nothing but whether the next one is. -/
theorem prepare_with_failureReported (functions : Registry) (engine : FormulaEngine)
    (reported : Bool) (expression : Expression) :
    let other := { expression with failureReported := reported }
    (other.prepare functions engine).1 = (expression.prepare functions engine).1 ∧
      ∃ later, (other.prepare functions engine).2.1 =
        { (expression.prepare functions engine).2.1 with failureReported := later } := by
  intro other
  cases attempted functions engine expression with
  | prepared plan held =>
    rw [prepare_of_prepared held, prepare_of_prepared (show other.plan? = some plan from held)]
    exact ⟨rfl, reported, rfl⟩
  | formula plan unprepared formula =>
    have open_ : other.plan? = none := unprepared
    rw [prepare_of_formula unprepared formula, prepare_of_formula open_ formula]
    exact ⟨rfl, reported, rfl⟩
  | breakdown name unprepared formula =>
    have open_ : other.plan? = none := unprepared
    rw [prepare_of_breakdown unprepared formula, prepare_of_breakdown open_ formula]
    exact ⟨rfl, reported, rfl⟩
  | text _ plan unprepared formula text =>
    have open_ : other.plan? = none := unprepared
    rw [prepare_of_text unprepared formula text, prepare_of_text open_ formula text]
    exact ⟨rfl, reported, rfl⟩
  | textBreakdown _ _ unprepared formula text =>
    have open_ : other.plan? = none := unprepared
    rw [prepare_of_text_breakdown unprepared formula text,
      prepare_of_text_breakdown open_ formula text]
    exact ⟨rfl, reported, rfl⟩
  | faults _ _ unprepared formula text =>
    have open_ : other.plan? = none := unprepared
    rw [prepare_of_faults unprepared formula text, prepare_of_faults open_ formula text]
    exact ⟨rfl, true, rfl⟩

end Expression

namespace Usage

variable {usage : Usage}

/-- An attempt without success leaves the expression as it was, but for a failure having been
reported, and the scene but for what is reported. -/
theorem take_prepare_of_kind?_eq_none (fruitless : usage.attempt.1.kind? = none) :
    usage.take .prepare =
      ⟨{ usage.expression with
          failureReported := usage.expression.failureReported || usage.attempt.1.isFailed },
        usage.scene.report usage.attempt.2.2⟩ := by
  have same := (Expression.prepare_of_kind?_eq_none fruitless).2
  rw [take, attempt, same]

theorem failureReported_take {use : Use} (other : use ≠ .prepare) :
    (usage.take use).expression.failureReported = usage.expression.failureReported := by
  cases use with
  | prepare => exact absurd rfl other
  | add binding =>
    rw [take, Expression.add?]
    split <;> rfl
  | number | content | identify | meanwhile => rfl

/-- The attempts of a run warn once if some of them fails, and not at all otherwise or if there has
been a warning before. The induction carries whether there has been one. -/
theorem countP_attempts (usage : Usage) (uses : List Use) :
    ((usage.attempts uses).flatMap (·.2)).countP Event.isPreparationFailed =
      if usage.expression.failureReported = false ∧
        (usage.attempts uses).any (·.1.isFailed) = true then 1 else 0 := by
  induction uses generalizing usage with
  | nil => simp [attempts]
  | cons use rest ih =>
    by_cases attempted : use = .prepare
    · subst attempted
      have here : usage.attempt.2.2.countP Event.isPreparationFailed =
          if usage.attempt.1.isFailed = true ∧ usage.expression.failureReported = false then 1
          else 0 :=
        Expression.countP_prepare _ _ _
      have flag : (usage.take .prepare).expression.failureReported =
          (usage.expression.failureReported || usage.attempt.1.isFailed) :=
        Expression.failureReported_prepare _ _ _
      rw [attempts, List.flatMap_cons, List.countP_append, here, ih, flag, List.any_cons]
      cases usage.expression.failureReported <;> cases usage.attempt.1.isFailed <;>
        simp only [Bool.false_or, Bool.true_or, Bool.or_true, Bool.or_false, reduceCtorEq, and_true,
          true_and, and_false, false_and, if_true, if_false, Nat.zero_add, Nat.add_zero]
    · have same : usage.attempts (use :: rest) = (usage.take use).attempts rest := by
        cases use <;> first | rfl | exact absurd rfl attempted
      rw [same, ih, failureReported_take attempted]

theorem run_map_add (usage : Usage) (unprepared : usage.expression.plan? = none)
    (bindings : List Binding) :
    (usage.run (bindings.map .add)).expression =
      { usage.expression with added := usage.expression.added ++ bindings } := by
  induction bindings generalizing usage with
  | nil => simp [run]
  | cons binding rest ih =>
    have first := take_add_of_unprepared unprepared binding
    rw [List.map_cons, run, ih _ (by rw [first]; exact unprepared), first]
    simp

/-- Whatever an expression has been used for, and whatever its scene has become: an attempt without
success, failed or broken off, changes nothing about it but that a failure is known, and nothing of
the scene but what has been reported; an attempt comes to what the first attempt does of an
expression with the same text and the same bindings added; and all attempts together warn once if
one of them fails, and never otherwise. -/
theorem attempt_as_first (place : Place) (plain : Text) (scene : Scene) (uses : List Use) :
    let start := Usage.start place plain scene
    let used := (start.run uses).expression
    let fresh := (start.run ((uses.filterMap Use.binding?).map .add)).expression
    (∀ current, let usage := Usage.mk used current
      usage.attempt.1.kind? = none →
      ∃ events, usage.take .prepare =
        ⟨{ used with failureReported := used.failureReported || usage.attempt.1.isFailed },
          current.report events⟩) ∧
    (used.plan? = none → ∀ functions engine,
      let attempted := used.prepare functions engine
      let first := fresh.prepare functions engine
      attempted.1 = first.1 ∧ attempted.2.1.plan? = first.2.1.plan? ∧
        attempted.2.1.bindings = first.2.1.bindings) ∧
    ((start.attempts uses).flatMap (·.2)).countP Event.isPreparationFailed =
      if (start.attempts uses).any (·.1.isFailed) then 1 else 0 := by
  intro start used fresh
  refine ⟨fun current fruitless => ?_, fun unprepared functions engine => ?_, ?_⟩
  · exact ⟨_, take_prepare_of_kind?_eq_none fruitless⟩
  · obtain ⟨_, reported, shape⟩ := run_of_unprepared unprepared
    have same : used = { fresh with failureReported := reported } := by
      refine shape.trans ?_
      rw [show fresh = _ from run_map_add start rfl _]
    obtain ⟨outcome, later, after⟩ :=
      Expression.prepare_with_failureReported functions engine reported fresh
    have plans := congrArg Expression.plan? after
    have bindings := congrArg Expression.bindings after
    rw [same]
    exact ⟨outcome, plans, bindings⟩
  · rw [countP_attempts]
    exact if_congr (and_iff_right rfl) rfl rfl

/-- Two attempts without the function that the text calls, and one when it is there: it succeeds as
a first attempt does, after one warning. An attempt that the engine breaks off leaves everything as
it was, without a warning. -/
theorem attempt_as_first_of_missing_function :
    let functions := Registry.empty.insertLibrary
    let scene := Scene.start [] (Identifiers.empty true 1) .standard 0
    let start := Usage.start [3] (Text.lit "Time()") scene
    let uses := [.prepare, .prepare, .meanwhile fun scene => { scene with functions }]
    let used := (start.run uses).expression
    let broken := Usage.start [4] (Text.lit "abs(2^asin(2))") scene
    (used.plan? = none ∧ (used.prepare functions .standard).1.kind? = some .number ∧
      (used.prepare functions .standard).1 = (start.expression.prepare functions .standard).1 ∧
      ((start.attempts uses).flatMap (·.2)).countP Event.isPreparationFailed = 1) ∧
    broken.attempt.1.kind? = none ∧ broken.attempt.1.isFailed = false ∧
      (∃ events, broken.take .prepare = ⟨broken.expression, scene.report events⟩) ∧
      ((broken.attempts [.prepare]).flatMap (·.2)).countP Event.isPreparationFailed = 0 := by
  intro functions scene start uses used broken
  constructor
  · obtain ⟨_, first, warnings⟩ := attempt_as_first [3] (Text.lit "Time()") scene uses
    have unprepared : used.plan? = none := by
      rw [← Option.not_isSome_iff_eq_none]
      decide +kernel
    have failed : (start.attempts uses).any (·.1.isFailed) = true := by decide +kernel
    exact ⟨unprepared, by decide +kernel, (first unprepared functions .standard).1,
      warnings.trans (if_pos failed)⟩
  · obtain ⟨unchanged, -, -⟩ := attempt_as_first [4] (Text.lit "abs(2^asin(2))") scene []
    obtain ⟨-, -, warnings⟩ := attempt_as_first [4] (Text.lit "abs(2^asin(2))") scene [.prepare]
    have fruitless : broken.attempt.1.kind? = none := by decide +kernel
    have untold : broken.attempt.1.isFailed = false := by decide +kernel
    obtain ⟨events, after⟩ := unchanged scene fruitless
    have calm : ¬ (broken.attempts [.prepare]).any (·.1.isFailed) = true := by decide +kernel
    refine ⟨fruitless, untold, ⟨events, after.trans ?_⟩, warnings.trans (if_neg calm)⟩
    change Usage.mk { broken.expression with
      failureReported := broken.expression.failureReported || broken.attempt.1.isFailed } _ = _
    rw [untold]
    rfl

end Usage
end SceneFormula
