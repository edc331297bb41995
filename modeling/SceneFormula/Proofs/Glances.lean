import SceneFormula.Proofs.PermittedSteps

set_option autoImplicit false

namespace SceneFormula

namespace Scene

variable {scene before after last : Scene}

/-- The objects concerned that have an identifier, if it has been looked at or narrowed. -/
def picked? (scene : Scene) (oid : Int) : Option (List Nat) :=
  (scene.picks.find? fun entry => entry.1 = oid).map (·.2)

theorem pick_eq (scene : Scene) (oid : Int) :
    (scene.pick oid).1 = (scene.picked? oid).getD (scene.withOid oid) := by
  unfold pick picked?
  split <;> rename_i found <;> rw [found] <;> rfl

theorem pick_of_picked? {oid : Int} {labels : List Nat} (known : scene.picked? oid = some labels) :
    scene.pick oid = (labels, scene) := by
  obtain ⟨entry, found, rfl⟩ := Option.map_eq_some_iff.mp known
  unfold pick
  rw [found]

/-- What a look shows is kept. -/
theorem picked?_pick (scene : Scene) (oid other : Int) : (scene.pick oid).2.picked? other =
    if other = oid then some (scene.pick oid).1 else scene.picked? other := by
  unfold pick
  split
  · rename_i entry found
    by_cases same : other = oid
    · rw [if_pos same, same, picked?, found]
      rfl
    · rw [if_neg same]
  · by_cases same : other = oid
    · rw [if_pos same, same]
      simp [picked?]
    · rw [if_neg same]
      simp [picked?, Ne.symm same]

theorem picked?_setPicked (scene : Scene) (oid other : Int) (labels : List Nat) :
    (scene.setPicked oid labels).picked? other =
      if other = oid then some labels else scene.picked? other := by
  unfold setPicked picked?
  by_cases same : other = oid
  · simp [same]
  · rw [if_neg same, List.find?_cons_of_neg (by simpa using Ne.symm same),
      find?_filter_of_ne _ _ same]

/-- Whether a scene has become another one by looks alone: the objects in it are the same, and what
is concerned for an identifier has been kept or else is all that has the identifier. -/
structure Glances (before after : Scene) : Prop where
  objects : after.objects = before.objects
  present : after.present = before.present
  picked? : ∀ oid, after.picked? oid = before.picked? oid ∨
    before.picked? oid = none ∧ after.picked? oid = some (before.withOid oid)

/-- What has no part in objects changes nothing for looks. -/
theorem glances_of_eq (objects : after.objects = before.objects)
    (present : after.present = before.present) (picks : after.picks = before.picks) :
    before.Glances after :=
  ⟨objects, present, fun oid => .inl (by rw [Scene.picked?, picks, Scene.picked?])⟩

theorem Glances.withOid (glances : before.Glances after) (oid : Int) :
    after.withOid oid = before.withOid oid := by
  rw [Scene.withOid, Scene.withOid, glances.objects, glances.present]

theorem Glances.trans (first : before.Glances after) (rest : after.Glances last) :
    before.Glances last := by
  refine ⟨rest.objects.trans first.objects, rest.present.trans first.present, fun oid => ?_⟩
  rcases rest.picked? oid with same | ⟨unknown, known⟩
  · rw [same]
    exact first.picked? oid
  · rcases first.picked? oid with same | ⟨_, known'⟩
    · exact .inr ⟨same ▸ unknown, by rw [known, first.withOid]⟩
    · cases unknown.symm.trans known'

theorem glances_pick (scene : Scene) (oid : Int) : scene.Glances (scene.pick oid).2 := by
  refine ⟨?_, ?_, fun other => ?_⟩
  · unfold pick
    split <;> rfl
  · unfold pick
    split <;> rfl
  · rw [picked?_pick]
    by_cases same : other = oid
    · rw [if_pos same, same, pick_eq]
      cases scene.picked? oid with
      | none => exact .inr ⟨rfl, rfl⟩
      | some labels => exact .inl rfl
    · exact .inl (if_neg same)

/-- Whether a scene has become another one by looks alone, with the same functions. -/
structure Watches (before after : Scene) : Prop extends Glances before after where
  functions : after.functions = before.functions

theorem watches_of_eq (objects : after.objects = before.objects)
    (present : after.present = before.present) (picks : after.picks = before.picks)
    (functions : after.functions = before.functions) : before.Watches after :=
  ⟨glances_of_eq objects present picks, functions⟩

theorem Watches.trans (first : before.Watches after) (rest : after.Watches last) :
    before.Watches last :=
  ⟨first.toGlances.trans rest.toGlances, rest.functions.trans first.functions⟩

theorem watches_pick (scene : Scene) (oid : Int) : scene.Watches (scene.pick oid).2 := by
  refine ⟨scene.glances_pick oid, ?_⟩
  unfold pick
  split <;> rfl

theorem watches_identifyAt (scene : Scene) (place : Place) (name : Text) :
    scene.Watches (scene.identifyAt place name).2 := by
  unfold identifyAt
  split
  · exact watches_of_eq rfl rfl rfl rfl
  · exact watches_of_eq rfl rfl rfl rfl

theorem watches_refer (scene : Scene) (reference : ObjectReference) :
    scene.Watches (Session.refer reference scene).2 := by
  cases reference with
  | oid n => exact watches_of_eq rfl rfl rfl rfl
  | name t => exact watches_of_eq rfl rfl rfl rfl

theorem lasting_watches (before : Scene) : Lasting before.Watches where
  generator _ _ held := held.trans (watches_of_eq rfl rfl rfl rfl)
  pick scene oid held := held.trans (scene.watches_pick oid)
  count _ _ held := held.trans (watches_of_eq rfl rfl rfl rfl)
  completed _ _ held := held.trans (watches_of_eq rfl rfl rfl rfl)

theorem identifies_watches (before : Scene) (place : Place) (name : Text) :
    Identifies (fun s t => s = t ∧ before.Watches s) place place name :=
  identifies_of_lasting fun scene held => held.trans (scene.watches_identifyAt place name)

theorem glances_unregister (scene : Scene) (key : FunctionKey) :
    scene.Glances (scene.unregister key).2 := by
  unfold unregister
  split
  · exact glances_of_eq rfl rfl rfl
  · exact glances_of_eq rfl rfl rfl

theorem leavesWorld_unregister (leaves : scene.functions.LeavesWorld) (key : FunctionKey) :
    (scene.unregister key).2.functions.LeavesWorld := by
  unfold unregister
  split
  · exact leaves.erase? ‹_›
  · exact leaves

end Scene

/-- Whether the calls that an expression is evaluated by have been bound. -/
structure Expression.Bound (expression : Expression) : Prop where
  plan : ∀ plan, expression.plan? = some plan → ∀ call ∈ plan.calls, call.Bound
  added : ∀ binding ∈ expression.added, binding.instruction.Bound

namespace Expression

variable {expression after : Expression}

theorem bound_ofText (place : List Nat) (plain : Text) : (ofText place plain).Bound :=
  ⟨nofun, nofun⟩

theorem Bound.of_mem_bindings (bound : expression.Bound) {binding : Binding}
    (member : binding ∈ expression.bindings) : binding.instruction.Bound := by
  rcases mem_bindings member with added | ⟨plan, index, held, found, _⟩
  · exact bound.added binding added
  · exact bound.plan plan held _ (Plan.mem_calls_of_call? found)

theorem Bound.add? (bound : expression.Bound) {binding : Binding}
    (own : binding.instruction.Bound) (added : expression.add? binding = some after) :
    after.Bound := by
  unfold Expression.add? at added
  split at added
  · cases added
  · cases added
    refine ⟨bound.plan, fun other member => ?_⟩
    rcases List.mem_append.mp member with old | new
    · exact bound.added other old
    · rw [List.mem_singleton.mp new]
      exact own

theorem Bound.prepare (bound : expression.Bound) {functions : Registry}
    (leaves : functions.LeavesWorld) (engine : FormulaEngine) :
    (expression.prepare functions engine).2.1.Bound := by
  obtain ⟨plan?, failureReported, same, from_⟩ := expression.exists_prepare_eq functions engine
  rw [same]
  refine ⟨fun plan held => ?_, bound.added⟩
  change plan? = some plan at held
  rcases from_ with kept | ⟨_, each⟩
  · exact bound.plan plan (kept ▸ held)
  · obtain ⟨kind, success⟩ := each plan held
    have prepared : plan.Prepared expression.plain := ⟨functions, engine, kind, leaves, success⟩
    exact fun call member => prepared.bound member

section Evaluations

variable (bound : expression.Bound) (scene : Scene) (who : Participants)
include bound

theorem Bound.agrees_number : (expression.number who).Agrees
    (fun s t => s = t ∧ scene.Watches s) (expression.number who) :=
  compares_number Evaluation.composes_agrees fun _ member =>
    (bound.of_mem_bindings member).agrees scene.lasting_watches.alike who _ _
      fun _ _ _ => scene.identifies_watches _ _

theorem Bound.agrees_content : (expression.content who).Agrees
    (fun s t => s = t ∧ scene.Watches s) (expression.content who) := by
  refine compares_content Evaluation.composes_agrees fun plan held plain => ?_
  have each : ∀ call ∈ plan.calls, call.Agrees fun s t => s = t ∧ scene.Watches s :=
    fun call member => (bound.plan plan held call member).agrees scene.lasting_watches.alike
  exact Plan.agrees_of_calls each who _ _ plain fun _ _ _ _ _ _ => scene.identifies_watches _ _

end Evaluations

end Expression

/-- Whether a step registers no function that makes changes of its own. -/
def Step.LeavesWorld : Step → Prop
  | .register _ _ _ _ action => action.LeavesWorld
  | _ => True

/-- Whether a step neither changes objects nor sets the objects concerned. -/
def Step.Quiet : Step → Prop
  | .create .. | .change .. | .remove .. | .setPicked .. | .resetPicks => False
  | _ => True

namespace Session

variable {session before after last : Session} {id : Text}

/-- Whether what a session evaluates makes no changes of its own. -/
structure LeavesWorld (session : Session) : Prop where
  functions : session.scene.functions.LeavesWorld
  expressions : ∀ id expression, session.expression? id = some expression → expression.Bound

theorem LeavesWorld.withScene (leaves : session.LeavesWorld) {scene : Scene}
    (functions : scene.functions.LeavesWorld) : { session with scene }.LeavesWorld :=
  ⟨functions, leaves.expressions⟩

theorem LeavesWorld.put (leaves : session.LeavesWorld) {expression : Expression}
    (bound : expression.Bound) : (session.put id expression).LeavesWorld := by
  refine ⟨leaves.functions, fun other kept held => ?_⟩
  rcases expression?_put_eq_some held with ⟨_, rfl⟩ | ⟨_, held⟩
  · exact bound
  · exact leaves.expressions other kept held

/-- Whether a session has become another one by looks alone, and still makes no changes of its
own. -/
structure Glances (before after : Session) : Prop where
  leaves : after.LeavesWorld
  scene : before.scene.Glances after.scene

theorem Glances.trans (first : before.Glances after) (rest : after.Glances last) :
    before.Glances last :=
  ⟨rest.leaves, first.scene.trans rest.scene⟩

section Steps

variable (leaves : session.LeavesWorld)
include leaves

theorem LeavesWorld.glances_refl : session.Glances session :=
  ⟨leaves, Scene.glances_of_eq rfl rfl rfl⟩

theorem LeavesWorld.glances_withScene {scene : Scene} (watches : session.scene.Watches scene) :
    session.Glances { session with scene } :=
  ⟨leaves.withScene (watches.functions ▸ leaves.functions), watches.toGlances⟩

theorem LeavesWorld.glances_put {expression : Expression} (bound : expression.Bound) :
    session.Glances (session.put id expression) :=
  ⟨leaves.put bound, Scene.glances_of_eq rfl rfl rfl⟩

theorem LeavesWorld.glances_evaluate {α : Type} (answer : α → Scene → Answer)
    {evaluation : Evaluation α}
    (keeps : evaluation.Agrees (fun s t => s = t ∧ session.scene.Watches s) evaluation) :
    session.Glances (session.evaluate answer evaluation).2 := by
  have start : session.scene.Watches session.scene := Scene.watches_of_eq rfl rfl rfl rfl
  rw [evaluate_snd]
  exact leaves.glances_withScene (keeps session.scene session.scene ⟨rfl, start⟩).2.2

theorem LeavesWorld.glances_prepare {outcome : Outcome}
    (done : session.prepare id = some (outcome, after)) : session.Glances after := by
  obtain ⟨expression, found, _⟩ := Option.map_eq_some_iff.mp done
  rw [prepare_of_expression? found] at done
  cases done
  have bound := (leaves.expressions id expression found).prepare leaves.functions
    session.scene.engine
  have put : session.Glances (session.put id _) := leaves.glances_put bound
  exact put.trans (put.leaves.glances_withScene (Scene.watches_of_eq rfl rfl rfl rfl))

theorem LeavesWorld.glances_prepareAll {ids : List Text} {failed : Except Text (List Text)}
    (done : session.prepareAll ids = some (failed, after)) : session.Glances after :=
  of_prepareAll (fun glances done => glances.trans (glances.leaves.glances_prepare done))
    leaves.glances_refl done

/-- A step that is not about objects or the objects concerned leaves these to looks. -/
theorem LeavesWorld.glances_take {step : Step} (own : step.LeavesWorld) (quiet : step.Quiet) :
    session.Glances (session.take step).2 := by
  -- what is left of most steps is a change of a part of the scene that no look is about
  have elsewhere {scene : Scene} (objects : scene.objects = session.scene.objects)
      (present : scene.present = session.scene.present) (picks : scene.picks = session.scene.picks)
      (functions : scene.functions = session.scene.functions) :
      session.Glances { session with scene } :=
    leaves.glances_withScene (Scene.watches_of_eq objects present picks functions)
  cases step with
  | create | change | remove | setPicked | resetPicks => exact quiet.elim
  | define id plain =>
    exact ⟨⟨leaves.functions, (leaves.put (Expression.bound_ofText _ plain)).expressions⟩,
      Scene.glances_of_eq rfl rfl rfl⟩
  | describe id => exact of_withExpression leaves.glances_refl fun _ _ => leaves.glances_refl
  | prepare id =>
    rw [Session.take]
    split
    · exact leaves.glances_prepare ‹_›
    · exact leaves.glances_prepare ‹_›
    · exact leaves.glances_refl
  | prepareAll ids =>
    rw [Session.take]
    split
    · have after := leaves.glances_prepareAll ‹_›
      exact after.trans (after.leaves.glances_withScene (Scene.watches_of_eq rfl rfl rfl rfl))
    · exact leaves.glances_prepareAll ‹_›
    · exact leaves.glances_refl
  | number id who =>
    refine of_withExpression leaves.glances_refl fun expression found => ?_
    refine of_withLabels leaves.glances_refl (leaves.glances_evaluate _ ?_)
    exact (leaves.expressions id expression found).agrees_number session.scene who
  | content id who =>
    refine of_withExpression leaves.glances_refl fun expression found => ?_
    refine of_withLabels leaves.glances_refl (leaves.glances_evaluate _ ?_)
    exact (leaves.expressions id expression found).agrees_content session.scene who
  | slots id values =>
    refine of_withExpression leaves.glances_refl fun expression _ => ?_
    split
    · split <;> exact leaves.glances_refl
    · exact leaves.glances_refl
  | identifier id =>
    refine of_withExpression leaves.glances_refl fun expression _ => ?_
    exact leaves.glances_withScene (session.scene.watches_identifyAt _ _)
  | identify name => exact elsewhere rfl rfl rfl rfl
  | assign name oid => exact elsewhere rfl rfl rfl rfl
  | share id source index =>
    refine of_withExpression leaves.glances_refl fun giver given => ?_
    split
    · exact leaves.glances_refl
    · rename_i binding among
      refine of_withExpression leaves.glances_refl fun taker found => ?_
      split
      · have bound := (leaves.expressions source giver given).of_mem_bindings
          (List.mem_of_getElem? among)
        exact leaves.glances_put ((leaves.expressions id taker found).add? bound ‹_›)
      · exact leaves.glances_refl
  | register name returns parameters isMember action =>
    rw [Session.take]
    split
    · rename_i function declared
      have body : function.body.LeavesWorld := by
        rw [SceneFunction.body_of_declare declared]
        exact own
      exact ⟨leaves.withScene (leaves.functions.insert body), Scene.glances_of_eq rfl rfl rfl⟩
    · exact leaves.glances_refl
  | unregister name returns isMember =>
    rw [Session.take]
    split
    · exact ⟨leaves.withScene (Scene.leavesWorld_unregister leaves.functions _),
        session.scene.glances_unregister _⟩
    · exact leaves.glances_refl
  | setVariable name value => exact elsewhere rfl rfl rfl rfl
  | readVariable name => exact leaves.glances_refl
  | inspect label vars => exact of_withObject leaves.glances_refl fun _ _ => leaves.glances_refl
  | objects => exact leaves.glances_refl
  | withOid reference =>
    exact leaves.glances_withScene (session.scene.watches_refer reference)
  | advance seconds => exact elsewhere rfl rfl rfl rfl
  | pick reference | first reference =>
    exact leaves.glances_withScene
      ((session.scene.watches_refer reference).trans (Scene.watches_pick _ _))

/-- What a session evaluates makes no changes of its own from then on. -/
theorem LeavesWorld.take {step : Step} (own : step.LeavesWorld) :
    (session.take step).2.LeavesWorld := by
  cases step with
  | create name x y vars => exact leaves.withScene leaves.functions
  | change label placement vars =>
    exact of_withObject leaves fun _ _ => leaves.withScene leaves.functions
  | remove label => exact of_withObject leaves fun _ _ => leaves.withScene leaves.functions
  | setPicked reference labels =>
    refine of_withLabels leaves (leaves.withScene ?_)
    change (refer reference session.scene).2.functions.LeavesWorld
    exact (session.scene.watches_refer reference).functions ▸ leaves.functions
  | resetPicks => exact leaves.withScene leaves.functions
  | _ => exact (leaves.glances_take own trivial).leaves

theorem LeavesWorld.perform {step : Step} (own : step.LeavesWorld) :
    (session.perform step).2.LeavesWorld := by
  have fresh : (session.mapScene fun scene =>
      { scene with events := [], completed := [] }).LeavesWorld :=
    leaves.withScene leaves.functions
  exact fresh.take own

theorem LeavesWorld.glances_perform {step : Step} (own : step.LeavesWorld) (quiet : step.Quiet) :
    session.Glances (session.perform step).2 := by
  have fresh : session.Glances
      (session.mapScene fun scene => { scene with events := [], completed := [] }) :=
    leaves.glances_withScene (Scene.watches_of_eq rfl rfl rfl rfl)
  exact fresh.trans (fresh.leaves.glances_take own quiet)

end Steps

end Session

end SceneFormula
