import SceneFormula.Proofs.Usage
import SceneFormula.Scene.Session

set_option autoImplicit false

namespace SceneFormula

theorem Usage.run_append (usage : Usage) (first rest : List Use) :
    usage.run (first ++ rest) = (usage.run first).run rest := by
  induction first generalizing usage with
  | nil => rfl
  | cons use others ih => exact ih (usage.take use)

namespace Session

variable {session before after last : Session} {id : Text}

/-- An expression of a session, in use in its scene. -/
def usage? (session : Session) (id : Text) : Option Usage :=
  (session.expression? id).map fun expression => ⟨expression, session.scene⟩

def run (session : Session) : List Step → Session
  | [] => session
  | step :: rest => (session.perform step).2.run rest

theorem expression?_put_self (session : Session) (id : Text) (expression : Expression) :
    (session.put id expression).expression? id = some expression := by
  simp [put, expression?]

theorem expression?_put_of_ne {other : Text} (ne : id ≠ other) (expression : Expression) :
    (session.put other expression).expression? id = session.expression? id := by
  unfold put expression?
  rw [List.find?_cons_of_neg (by simpa using ne.symm), find?_filter_of_ne _ _ ne]

section Cases

variable {P : Session → Prop}

/-- A step about an expression is taken for it, or changes nothing. -/
theorem of_withExpression {step : Expression → Except StepFault Answer × Session}
    (missing : P session)
    (each : ∀ expression, session.expression? id = some expression → P (step expression).2) :
    P (session.withExpression id step).2 := by
  unfold withExpression
  split
  · exact each _ ‹_›
  · exact missing

theorem of_withObject {label : Nat} {step : SceneObject → Except StepFault Answer × Session}
    (missing : P session)
    (each : ∀ object, session.scene.objects[label]? = some object → P (step object).2) :
    P (session.withObject label step).2 := by
  unfold withObject
  split
  · exact each _ ‹_›
  · exact missing

theorem of_withLabels {labels : List Nat} {step : Except StepFault Answer × Session}
    (missing : P session) (taken : P step.2) : P (session.withLabels labels step).2 := by
  unfold withLabels
  split
  · exact taken
  · exact missing

/-- What holds of a session and of those in which one more expression has been prepared holds when
several have been. -/
theorem of_prepareAll (each : ∀ {before after : Session} {id : Text} {outcome : Outcome},
      P before → before.prepare id = some (outcome, after) → P after)
    {ids : List Text} {failed : Except Text (List Text)} (start : P before)
    (done : before.prepareAll ids = some (failed, after)) : P after := by
  induction ids generalizing before failed with
  | nil =>
    cases done
    exact start
  | cons first rest ih =>
    obtain ⟨⟨outcome, between⟩, attempted, done⟩ := Option.bind_eq_some_iff.mp done
    have next := each start attempted
    cases outcome with
    | prepared => exact ih next done
    | failed =>
      obtain ⟨⟨others, _⟩, later, done⟩ := Option.bind_eq_some_iff.mp done
      cases done
      exact ih next later
    | raised name =>
      obtain ⟨_, -, done⟩ := Option.map_eq_some_iff.mp done
      cases done
      exact next

end Cases

theorem evaluate_snd {α : Type} (session : Session) (answer : α → Scene → Answer)
    (evaluation : Evaluation α) : (session.evaluate answer evaluation).2 =
      { session with scene := (evaluation.runIn session.scene).2 } := by
  unfold evaluate
  split <;> rename_i same <;> rw [same]

/-- Whether an expression of a session has become what uses of it come to, in what the scene has
become. -/
def Uses (id : Text) (before after : Session) : Prop :=
  ∀ usage, before.usage? id = some usage → ∃ uses, after.usage? id = some (usage.run uses)

theorem Uses.trans (first : Uses id before after) (rest : Uses id after last) :
    Uses id before last := by
  intro usage held
  obtain ⟨uses, between⟩ := first usage held
  obtain ⟨others, final⟩ := rest _ between
  exact ⟨uses ++ others, by rw [final, Usage.run_append]⟩

/-- Whatever happens to the scene, an expression that stays has not been used. -/
theorem uses_of_expression?_eq (same : after.expression? id = before.expression? id) :
    Uses id before after := by
  intro usage held
  obtain ⟨expression, found, rfl⟩ := Option.map_eq_some_iff.mp held
  exact ⟨[.meanwhile fun _ => after.scene], by rw [usage?, same, found]; rfl⟩

theorem uses_of_expressions_eq (same : after.expressions = before.expressions) :
    Uses id before after :=
  uses_of_expression?_eq (by rw [expression?, expression?, same])

theorem usage?_put_self (session : Session) (id : Text) (expression : Expression)
    (change : Scene → Scene) :
    ((session.put id expression).mapScene change).usage? id =
      some ⟨expression, change session.scene⟩ :=
  congrArg (Option.map fun expression => Usage.mk expression (change session.scene))
    (session.expression?_put_self id expression)

theorem prepare_of_expression? {expression : Expression}
    (found : session.expression? id = some expression) :
    session.prepare id =
      let attempt := Usage.attempt ⟨expression, session.scene⟩
      some (attempt.1, (session.put id attempt.2.1).mapScene (·.report attempt.2.2)) := by
  rw [prepare, found]
  rfl

/-- Preparing an expression uses it, and no other. -/
theorem uses_of_prepare {other : Text} {outcome : Outcome}
    (done : before.prepare other = some (outcome, after)) : Uses id before after := by
  obtain ⟨expression, found, _⟩ := Option.map_eq_some_iff.mp done
  rw [prepare_of_expression? found] at done
  cases done
  by_cases same : id = other
  · subst same
    intro usage held
    obtain ⟨_, own, rfl⟩ := Option.map_eq_some_iff.mp held
    cases found.symm.trans own
    exact ⟨[.prepare], usage?_put_self _ _ _ _⟩
  · exact uses_of_expression?_eq (expression?_put_of_ne same _)

/-- Adding a binding to an expression uses it, and no other. -/
theorem uses_of_add {other : Text} {expression added : Expression} {binding : Binding}
    (found : session.expression? other = some expression)
    (done : expression.add? binding = some added) : Uses id session (session.put other added) := by
  by_cases same : id = other
  · subst same
    intro usage held
    obtain ⟨_, own, rfl⟩ := Option.map_eq_some_iff.mp held
    cases found.symm.trans own
    refine ⟨[.add binding], (session.usage?_put_self id added fun scene => scene).trans ?_⟩
    rw [Usage.run, Usage.run, Usage.take, done]
    rfl
  · exact uses_of_expression?_eq (expression?_put_of_ne same _)

theorem uses_evaluate {α : Type} (answer : α → Scene → Answer) (evaluation : Evaluation α) :
    Uses id session (session.evaluate answer evaluation).2 :=
  uses_of_expressions_eq (by rw [evaluate_snd])

theorem uses_change {α : Type} (answer : α → Answer) (change : Scene → α × Scene) :
    Uses id session (session.change answer change).2 :=
  uses_of_expressions_eq rfl

/-- A step uses the expressions of a session or leaves them as they are; only a definition puts
another in the place of one. -/
theorem uses_take {step : Step} (kept : ∀ plain, step ≠ .define id plain) :
    Uses id session (session.take step).2 := by
  have same : Uses id session session := uses_of_expressions_eq rfl
  -- what a step does to one expression is a use of it, be it asked about or swept along
  cases step with
  | define other plain =>
    have ne : id ≠ other := fun same => kept plain (by rw [same])
    exact uses_of_expression?_eq (expression?_put_of_ne ne _)
  | prepare other =>
    rw [take]
    split
    · exact uses_of_prepare ‹_›
    · exact uses_of_prepare ‹_›
    · exact uses_of_expressions_eq rfl
  | prepareAll ids =>
    have prepared {failed : Except Text (List Text)} {after : Session}
        (done : session.prepareAll ids = some (failed, after)) : Uses id session after :=
      of_prepareAll (fun uses done => uses.trans (uses_of_prepare done)) same done
    rw [take]
    split
    · rename_i done
      exact (prepared done).trans (uses_of_expressions_eq rfl)
    · exact prepared ‹_›
    · exact uses_of_expressions_eq rfl
  | number other who | content other who =>
    exact of_withExpression same fun _ _ => of_withLabels same (uses_evaluate _ _)
  | share taker giver index =>
    refine of_withExpression same fun expression _ => ?_
    split
    · exact same
    · refine of_withExpression same fun expression found => ?_
      split
      · exact uses_of_add found ‹_›
      · exact uses_of_expressions_eq rfl
  | slots other values =>
    refine of_withExpression same fun _ _ => ?_
    split
    · split
      · exact uses_of_expressions_eq rfl
      · exact uses_of_expressions_eq rfl
    · exact uses_of_expressions_eq rfl
  | describe | identifier => exact of_withExpression same fun _ _ => uses_of_expressions_eq rfl
  | register | unregister =>
    rw [take]
    split
    · exact uses_of_expressions_eq rfl
    · exact uses_of_expressions_eq rfl
  | change | inspect | remove => exact of_withObject same fun _ _ => uses_of_expressions_eq rfl
  | setPicked => exact of_withLabels same (uses_change _ _)
  | identify | assign | setVariable | readVariable | create | objects | withOid | advance | pick
  | first | resetPicks => exact uses_of_expressions_eq rfl

theorem uses_perform {step : Step} (kept : ∀ plain, step ≠ .define id plain) :
    Uses id session (session.perform step).2 := by
  have fresh : Uses id session
      (session.mapScene fun scene => { scene with events := [], completed := [] }) :=
    uses_of_expressions_eq rfl
  exact fresh.trans (uses_take kept)

theorem uses_run {steps : List Step} (kept : ∀ step ∈ steps, ∀ plain, step ≠ .define id plain) :
    Uses id session (session.run steps) := by
  induction steps generalizing session with
  | nil => exact uses_of_expressions_eq rfl
  | cons step rest ih =>
    refine (uses_perform (kept step List.mem_cons_self)).trans (ih fun other member => ?_)
    exact kept other (List.mem_cons_of_mem _ member)

/-- From its definition on an expression of a session is in use, whatever steps the session takes
before the expression's name is defined again. -/
theorem exists_uses_of_define (session : Session) (plain : Text) {steps : List Step}
    (kept : ∀ step ∈ steps, ∀ plain, step ≠ .define id plain) :
    ∃ uses, (session.run (.define id plain :: steps)).usage? id =
      some ((Usage.start [session.defined] plain session.scene).run uses) := by
  have defined : (session.perform (.define id plain)).2.usage? id =
      some ((Usage.start [session.defined] plain session.scene).run
        [.meanwhile fun scene => { scene with events := [], completed := [] }]) :=
    session.usage?_put_self id _ fun scene => { scene with events := [], completed := [] }
  obtain ⟨uses, later⟩ := uses_run kept _ defined
  exact ⟨_ ++ uses, by rw [Usage.run_append]; exact later⟩

end Session
end SceneFormula
