import SceneFormula.Proofs.Preparation
import SceneFormula.Scene.Value

set_option autoImplicit false

namespace SceneFormula

/-- A use of an expression, or something else that happens in its scene. -/
inductive Use where
  | add (binding : Binding)
  | prepare
  | number (who : Participants)
  | content (who : Participants)
  | identify
  | meanwhile (change : Scene → Scene)

def Use.binding? : Use → Option Binding
  | add binding => some binding
  | _ => none

/-- An expression and the scene that it is used in. -/
structure Usage where
  expression : Expression
  scene : Scene

namespace Usage

def start (place : Place) (plain : Text) (scene : Scene) : Usage :=
  ⟨Expression.ofText place plain, scene⟩

def attempt (usage : Usage) : Outcome × Expression × List Event :=
  usage.expression.prepare usage.scene.functions usage.scene.engine

/-- Use the expression. A binding that comes too late is not added. -/
def take (usage : Usage) : Use → Usage
  | .add binding =>
    { usage with expression := (usage.expression.add? binding).getD usage.expression }
  | .prepare => ⟨usage.attempt.2.1, usage.scene.report usage.attempt.2.2⟩
  | .number who => { usage with scene := ((usage.expression.number who).runIn usage.scene).2 }
  | .content who => { usage with scene := ((usage.expression.content who).runIn usage.scene).2 }
  | .identify =>
    { usage with
      scene := (usage.scene.identifyAt usage.expression.place usage.expression.plain).2 }
  | .meanwhile change => { usage with scene := change usage.scene }

def run (usage : Usage) : List Use → Usage
  | [] => usage
  | use :: rest => (usage.take use).run rest

def attempts (usage : Usage) : List Use → List (Outcome × List Event)
  | [] => []
  | .prepare :: rest =>
    (usage.attempt.1, usage.attempt.2.2) :: (usage.take .prepare).attempts rest
  | use :: rest => (usage.take use).attempts rest

end Usage

namespace Usage

variable {usage : Usage}

theorem take_of_prepared {plan : Plan} (prepared : usage.expression.plan? = some plan) (use : Use) :
    (usage.take use).expression = usage.expression := by
  cases use with
  | add binding =>
    rw [take, Expression.add?, prepared]
    rfl
  | prepare =>
    rw [take, attempt, Expression.prepare_of_prepared prepared]
  | number | content | identify | meanwhile => rfl

theorem take_add_of_unprepared (unprepared : usage.expression.plan? = none) (binding : Binding) :
    (usage.take (.add binding)).expression =
      { usage.expression with added := usage.expression.added ++ [binding] } := by
  simp [take, Expression.add?, unprepared]

theorem run_of_prepared {plan : Plan} (prepared : usage.expression.plan? = some plan)
    (uses : List Use) : (usage.run uses).expression = usage.expression := by
  induction uses generalizing usage with
  | nil => rfl
  | cons use rest ih =>
    have same := take_of_prepared prepared use
    exact (ih (same ▸ prepared)).trans same

/-- Until it is prepared, an expression differs from what it was by the bindings added since, and
by whether a failure has been reported. -/
theorem take_of_unprepared {use : Use} (unprepared : (usage.take use).expression.plan? = none) :
    usage.expression.plan? = none ∧
      ∃ reported, (usage.take use).expression =
        { usage.expression with
          added := usage.expression.added ++ use.binding?.toList
          failureReported := reported } := by
  have before : usage.expression.plan? = none := by
    cases prepared : usage.expression.plan? with
    | none => rfl
    | some plan =>
      rw [take_of_prepared prepared, prepared] at unprepared
      cases unprepared
  refine ⟨before, ?_⟩
  cases use with
  | add binding =>
    rw [take_add_of_unprepared before]
    exact ⟨usage.expression.failureReported, rfl⟩
  | prepare =>
    have failed : usage.attempt.1.kind? = none := by
      rw [attempt, ← Expression.kind?_prepare, Expression.kind?]
      exact Option.map_eq_none_iff.mpr unprepared
    refine ⟨usage.expression.failureReported || usage.attempt.1.isFailed,
      (Expression.prepare_of_kind?_eq_none failed).2.trans ?_⟩
    simp [Use.binding?, attempt]
  | number | content | identify | meanwhile =>
    exact ⟨usage.expression.failureReported, by simp [take, Use.binding?]⟩

theorem run_of_unprepared {uses : List Use}
    (unprepared : (usage.run uses).expression.plan? = none) :
    usage.expression.plan? = none ∧
      ∃ reported, (usage.run uses).expression =
        { usage.expression with
          added := usage.expression.added ++ uses.filterMap Use.binding?
          failureReported := reported } := by
  induction uses generalizing usage with
  | nil => exact ⟨unprepared, usage.expression.failureReported, by simp [run]⟩
  | cons use rest ih =>
    rw [run] at unprepared
    obtain ⟨next, reported, later⟩ := ih unprepared
    obtain ⟨before, _, first⟩ := take_of_unprepared next
    refine ⟨before, reported, ?_⟩
    rw [run, later, first]
    cases known : use.binding? <;> simp [known]

/-- A run that prepares an expression has one attempt that does; the expression stays as that
attempt leaves it. -/
theorem exists_attempt_of_run {uses : List Use} {plan : Plan}
    (unprepared : usage.expression.plan? = none)
    (prepared : (usage.run uses).expression.plan? = some plan) :
    ∃ before after, uses = before ++ .prepare :: after ∧
      (usage.run before).expression.plan? = none ∧
      (usage.run uses).expression = (usage.run before).attempt.2.1 := by
  induction uses generalizing usage with
  | nil =>
    rw [run, unprepared] at prepared
    cases prepared
  | cons use rest ih =>
    cases next : (usage.take use).expression.plan? with
    | none =>
      obtain ⟨before, after, rfl, open_, final⟩ := ih next prepared
      exact ⟨use :: before, after, rfl, open_, final⟩
    | some first =>
      have attempted : use = .prepare := by
        cases use with
        | prepare => rfl
        | add binding =>
          rw [take_add_of_unprepared unprepared] at next
          cases unprepared.symm.trans next
        | number | content | identify | meanwhile => cases unprepared.symm.trans next
      subst attempted
      exact ⟨[], rest, rfl, unprepared, run_of_prepared next rest⟩

end Usage
end SceneFormula
