import SceneFormula.Proofs.History

set_option autoImplicit false

namespace SceneFormula

/-- Preparing leaves an expression as it is, but for a plan that its text has been prepared as and
for what has been reported. -/
theorem Expression.exists_prepare_eq (functions : Registry) (engine : FormulaEngine)
    (expression : Expression) :
    ∃ plan? failureReported, (expression.prepare functions engine).2.1 =
        { expression with plan?, failureReported } ∧
      (plan? = expression.plan? ∨ expression.plan? = none ∧ ∀ plan, plan? = some plan →
        ∃ kind, (Plan.prepare functions engine kind expression.plain).result = .ok plan) := by
  cases prepared : expression.plan? with
  | some plan =>
    refine ⟨some plan, expression.failureReported, ?_, .inl rfl⟩
    rw [prepare_of_prepared prepared, ← prepared]
  | none =>
    cases known : (expression.prepare functions engine).1.kind? with
    | none =>
      obtain ⟨_, same⟩ := prepare_of_kind?_eq_none known
      rw [prepared] at same
      exact ⟨none, _, same, .inl rfl⟩
    | some kind =>
      obtain ⟨plan, success, same⟩ := prepare_of_kind prepared known
      refine ⟨some plan, expression.failureReported, same, .inr ⟨rfl, ?_⟩⟩
      rintro _ ⟨⟩
      exact ⟨kind, success⟩

theorem SceneFunction.body_of_declare {name returns : Text} {parameters : List Text}
    {isMember : Bool} {body : Body} {function : SceneFunction}
    (declared : declare name returns parameters isMember body = .ok function) :
    function.body = body := by
  unfold declare at declared
  split at declared
  · cases declared
  · split at declared
    · cases declared
    · split at declared <;> cases declared
      rfl

def Step.created : Step → List Text
  | .create name .. => [name]
  | _ => []

/-- Whether a step leaves names and objects to each other: it binds no name to an identifier of
choice, picks for an identifier only objects that have it, and registers no function that makes
changes of its own. -/
def Step.Permitted (session : Session) : Step → Prop
  | .assign .. => False
  | .setPicked reference labels => ∀ label ∈ labels, ∃ object,
    session.scene.objects[label]? = some object ∧
      object.oid = (Session.refer reference session.scene).1
  | .register _ _ _ _ action => action.LeavesWorld
  | _ => True

namespace Session

/-- Whether each of several steps is permitted when it is taken. -/
def Follows (session : Session) : List Step → Prop
  | [] => True
  | step :: rest => step.Permitted session ∧ (session.perform step).2.Follows rest

variable {created : List Text} {history : History} {session : Session} {id : Text}

theorem tied_refer {book : Place → Option Text} {scene : Scene} (tied : scene.Tied created book)
    (reference : ObjectReference) : (refer reference scene).2.Tied created book ∧
      (refer reference scene).2.objects = scene.objects := by
  cases reference with
  | oid n => exact ⟨tied, rfl⟩
  | name t => exact ⟨(tied.identify t).1, rfl⟩

theorem Tied.evaluate {α : Type} (tied : session.Tied created history) (answer : α → Scene → Answer)
    {evaluation : Evaluation α}
    (keeps : evaluation.Agrees (Scene.Stays created history.book) evaluation) :
    (session.evaluate answer evaluation).2.Tied created history := by
  rw [evaluate_snd]
  exact tied.withScene (keeps session.scene session.scene ⟨rfl, tied.scene⟩).2.2

theorem Tied.prepare (tied : session.Tied created history) {outcome : Outcome} {after : Session}
    (done : session.prepare id = some (outcome, after)) : ∃ later, after.Tied created later := by
  obtain ⟨expression, found, _⟩ := Option.map_eq_some_iff.mp done
  rw [prepare_of_expression? found] at done
  cases done
  obtain ⟨plan?, failureReported, same, from_⟩ :=
    expression.exists_prepare_eq session.scene.functions session.scene.engine
  have kept : ∃ later, (session.put id { expression with plan?, failureReported }).Tied created
      later := by
    refine tied.put found rfl rfl (tied.added id expression found) (from_.imp_right ?_)
    rintro ⟨unprepared, each⟩
    refine ⟨unprepared, fun plan held => ?_⟩
    obtain ⟨kind, success⟩ := each plan held
    exact ⟨_, _, kind, tied.scene.functions, success⟩
  obtain ⟨later, after⟩ := kept
  refine ⟨later, ?_⟩
  dsimp only [Usage.attempt]
  rw [same]
  exact after.withScene (after.scene.congr rfl rfl rfl rfl rfl)

theorem Tied.prepareAll {ids : List Text} {failed : Except Text (List Text)} {after : Session}
    (tied : session.Tied created history) (done : session.prepareAll ids = some (failed, after)) :
    ∃ later, after.Tied created later :=
  of_prepareAll (P := fun after => ∃ later, after.Tied created later)
    (fun ⟨_, tied⟩ done => tied.prepare done) ⟨history, tied⟩ done

section Cases

variable (tied : session.Tied created history)
include tied

theorem Tied.withExpression {step : Expression → Except StepFault Answer × Session}
    (each : ∀ expression, session.expression? id = some expression →
      ∃ later, (step expression).2.Tied created later) :
    ∃ later, (session.withExpression id step).2.Tied created later :=
  of_withExpression (P := fun after => ∃ later, after.Tied created later) ⟨history, tied⟩ each

theorem Tied.withObject {label : Nat} {step : SceneObject → Except StepFault Answer × Session}
    (each : ∀ object, session.scene.objects[label]? = some object →
      ∃ later, (step object).2.Tied created later) :
    ∃ later, (session.withObject label step).2.Tied created later :=
  of_withObject (P := fun after => ∃ later, after.Tied created later) ⟨history, tied⟩ each

theorem Tied.withLabels {labels : List Nat} {step : Except StepFault Answer × Session}
    (after : ∃ later, step.2.Tied created later) :
    ∃ later, (session.withLabels labels step).2.Tied created later :=
  of_withLabels (P := fun after => ∃ later, after.Tied created later) ⟨history, tied⟩ after

/-- What has no part in names, objects and functions changes nothing for a session. -/
theorem Tied.congr {scene : Scene} (identifiers : scene.identifiers = session.scene.identifiers)
    (objects : scene.objects = session.scene.objects) (picks : scene.picks = session.scene.picks)
    (found : scene.found = session.scene.found)
    (functions : scene.functions = session.scene.functions) :
    ∃ later, { session with scene }.Tied created later :=
  ⟨history, tied.withScene (tied.scene.congr identifiers objects picks found functions)⟩

theorem Tied.book_place {expression : Expression}
    (found : session.expression? id = some expression) :
    history.book expression.place = some expression.plain := by
  obtain ⟨index, here, known⟩ := tied.own id expression found
  rw [here]
  simp [History.book, known]

/-- An expression that is not prepared can be given a binding of another one. -/
theorem Tied.share {source : Text} {giver taker taker' : Expression} {binding : Binding}
    (given : session.expression? source = some giver) (among : binding ∈ giver.bindings)
    (found : session.expression? id = some taker) (added : taker.add? binding = some taker') :
    ∃ later, (session.put id taker').Tied created later := by
  unfold Expression.add? at added
  split at added
  · cases added
  · cases added
    refine tied.put found rfl rfl (fun other member => ?_) (.inl rfl)
    rcases List.mem_append.mp member with old | new
    · exact tied.added id taker found other old
    · rw [List.mem_singleton.mp new]
      exact tied.has_of_mem_bindings given among

theorem Tied.unregister (key : FunctionKey) :
    ∃ later, { session with scene := (session.scene.unregister key).2 }.Tied created later := by
  refine ⟨history, tied.withScene ?_⟩
  unfold Scene.unregister
  split
  · exact (tied.scene.setFunctions (tied.scene.functions.erase? ‹_›)).congr rfl rfl rfl rfl rfl
  · exact tied.scene.congr rfl rfl rfl rfl rfl

theorem Tied.take_of_created_eq_nil {step : Step} (permitted : step.Permitted session)
    (none_ : step.created = []) : ∃ later, (session.take step).2.Tied created later := by
  -- where a step makes or prepares an expression, the history has more to tell afterwards
  cases step with
  | create name x y vars => cases none_
  | assign => exact permitted.elim
  | define id plain => exact ⟨_, tied.define id plain⟩
  | describe id => exact tied.withExpression fun _ _ => ⟨history, tied⟩
  | prepare id =>
    rw [Session.take]
    split
    · exact tied.prepare ‹_›
    · exact tied.prepare ‹_›
    · exact ⟨history, tied⟩
  | prepareAll ids =>
    rw [Session.take]
    split
    · obtain ⟨later, after⟩ := tied.prepareAll ‹_›
      exact after.congr rfl rfl rfl rfl rfl
    · exact tied.prepareAll ‹_›
    · exact ⟨history, tied⟩
  | number id who =>
    exact tied.withExpression fun _ found =>
      tied.withLabels ⟨history, tied.evaluate _ (tied.agrees_number found who)⟩
  | content id who =>
    exact tied.withExpression fun _ found =>
      tied.withLabels ⟨history, tied.evaluate _ (tied.agrees_content found who)⟩
  | slots id values =>
    refine tied.withExpression fun expression _ => ?_
    split
    · split <;> exact ⟨history, tied⟩
    · exact ⟨history, tied⟩
  | identifier id =>
    exact tied.withExpression fun _ found =>
      ⟨history, tied.withScene (tied.scene.identifyAt (tied.book_place found)).1⟩
  | identify name => exact ⟨history, tied.withScene (tied.scene.identify name).1⟩
  | share id source index =>
    refine tied.withExpression fun giver given => ?_
    split
    · exact ⟨history, tied⟩
    · rename_i binding among
      refine tied.withExpression fun taker found => ?_
      split
      · exact tied.share given (List.mem_of_getElem? among) found ‹_›
      · exact ⟨history, tied⟩
  | register name returns parameters isMember action =>
    rw [Session.take]
    split
    · rename_i function declared
      have own : function.body.LeavesWorld := by
        rw [SceneFunction.body_of_declare declared]
        exact permitted
      have counted : { session.scene with
          registrations := session.scene.registrations + 1 }.Tied created history.book :=
        tied.scene.congr rfl rfl rfl rfl rfl
      exact ⟨history, tied.withScene (counted.register own)⟩
    · exact ⟨history, tied⟩
  | unregister name returns isMember =>
    rw [Session.take]
    split
    · exact tied.unregister _
    · exact ⟨history, tied⟩
  | setVariable name value => exact tied.congr rfl rfl rfl rfl rfl
  | readVariable name => exact ⟨history, tied⟩
  | change label placement vars =>
    refine tied.withObject fun object found => ?_
    exact ⟨history, tied.withScene (tied.scene.setObject found (by rfl) (by rfl))⟩
  | inspect label vars => exact tied.withObject fun _ _ => ⟨history, tied⟩
  | remove label => exact tied.withObject fun _ _ => tied.congr rfl rfl rfl rfl rfl
  | objects => exact ⟨history, tied⟩
  | withOid reference => exact ⟨history, tied.withScene (tied_refer tied.scene reference).1⟩
  | advance seconds => exact tied.congr rfl rfl rfl rfl rfl
  | pick reference | first reference =>
    exact ⟨history, tied.withScene ((tied_refer tied.scene reference).1.pick _).1⟩
  | setPicked reference labels =>
    obtain ⟨after, objects⟩ := tied_refer tied.scene reference
    refine tied.withLabels ⟨history, tied.withScene (after.setPicked ?_)⟩
    rw [objects]
    exact permitted
  | resetPicks => exact ⟨history, tied.withScene tied.scene.resetPicks⟩

end Cases

/-- A permitted step keeps a session tied to the names that objects have been created under. -/
theorem Tied.take {step : Step} (tied : session.Tied created history)
    (permitted : step.Permitted session) :
    ∃ later, (session.take step).2.Tied (created ++ step.created) later := by
  by_cases other : step.created = []
  · rw [other, List.append_nil]
    exact tied.take_of_created_eq_nil permitted other
  · cases step with
    | create name x y vars => exact ⟨history, tied.withScene (tied.scene.create name x y vars)⟩
    | _ => exact absurd rfl other

theorem Tied.perform {step : Step} (tied : session.Tied created history)
    (permitted : step.Permitted session) :
    ∃ later, (session.perform step).2.Tied (created ++ step.created) later := by
  have fresh : (session.mapScene fun scene => { scene with events := [], completed := [] }).Tied
      created history := tied.withScene (tied.scene.congr rfl rfl rfl rfl rfl)
  have same : step.Permitted
      (session.mapScene fun scene => { scene with events := [], completed := [] }) := by
    cases step with
    | setPicked reference labels =>
      cases reference with
      | oid n => exact permitted
      | name t => exact permitted
    | _ => exact permitted
  exact fresh.take same

/-- Permitted steps keep a session tied to the names that objects have been created under. -/
theorem Tied.run {steps : List Step} (tied : session.Tied created history)
    (follows : session.Follows steps) :
    ∃ later, (session.run steps).Tied (created ++ steps.flatMap Step.created) later := by
  induction steps generalizing session created history with
  | nil =>
    rw [List.flatMap_nil, List.append_nil]
    exact ⟨history, tied⟩
  | cons step rest ih =>
    obtain ⟨permitted, others⟩ := follows
    obtain ⟨between, after⟩ := tied.perform permitted
    rw [List.flatMap_cons, ← List.append_assoc]
    exact ih after others

end Session

end SceneFormula
