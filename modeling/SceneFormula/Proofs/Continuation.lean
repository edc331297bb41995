import SceneFormula.Proofs.Detachment
import SceneFormula.Proofs.PermittedSteps

set_option autoImplicit false

namespace SceneFormula

/-- What can happen to a session: a step, or more that is about functions and preparations. -/
inductive Happening where
  | step (step : Step)
  | registerLibrary
  | prepareWith (id : Text) (functions : Registry) (engine : FormulaEngine)
  | add (id : Text) (binding : Binding)

def Happening.evaluated? : Happening → Option Text
  | step (.number id _) | step (.content id _) => some id
  | _ => none

/-- Whether something is only about functions and how expressions are prepared, or only shows what
there is: functions are registered or unregistered, and expressions are prepared or given
bindings. -/
def Happening.IsIdle : Happening → Prop
  | step (.register ..) | step (.unregister ..) | step (.prepare _) | step (.prepareAll _)
  | step (.share ..) | registerLibrary | prepareWith .. | add ..
  | step (.describe _) | step (.slots ..) | step (.readVariable _) | step (.inspect ..)
  | step .objects => True
  | _ => False

namespace Session

variable {session s t : Session} {id : Text}

/-- The session after something has happened. A binding that comes too late is not added. -/
def happen (session : Session) : Happening → Session
  | .step step => (session.perform step).2
  | .registerLibrary => session.mapScene Scene.registerLibrary
  | .prepareWith id functions engine =>
    match session.expression? id with
    | some expression =>
      let attempted := expression.prepare functions engine
      (session.put id attempted.2.1).mapScene (·.report attempted.2.2)
    | none => session
  | .add id binding =>
    match (session.expression? id).bind (·.add? binding) with
    | some expression => session.put id expression
    | none => session

def continued (session : Session) : List Happening → Session
  | [] => session
  | happening :: rest => (session.happen happening).continued rest

/-- Whether two continuations of two sessions differ only in what is idle. What both evaluate
is the same expression in both. -/
inductive Differ : Session → Session → List Happening → List Happening → Prop
  | nil {s t : Session} : Differ s t [] []
  | left {s t : Session} {happening : Happening} {first second : List Happening}
    (idle : happening.IsIdle) (rest : Differ (s.happen happening) t first second) :
    Differ s t (happening :: first) second
  | right {s t : Session} {happening : Happening} {first second : List Happening}
    (idle : happening.IsIdle) (rest : Differ s (t.happen happening) first second) :
    Differ s t first (happening :: second)
  | both {s t : Session} {happening : Happening} {first second : List Happening}
    (same : ∀ id, happening.evaluated? = some id → s.expression? id = t.expression? id)
    (rest : Differ (s.happen happening) (t.happen happening) first second) :
    Differ s t (happening :: first) (happening :: second)

theorem expression?_mapScene (session : Session) (id : Text) (change : Scene → Scene) :
    (session.mapScene change).expression? id = session.expression? id := rfl

section Prepared

variable {expression : Expression} {plan : Plan}
  (held : session.expression? id = some expression) (prepared : expression.plan? = some plan)
include held prepared

/-- A prepared expression stays as it is until its name is defined again. -/
theorem expression?_happen {happening : Happening}
    (kept : ∀ plain, happening ≠ .step (.define id plain)) :
    (session.happen happening).expression? id = some expression := by
  cases happening with
  | step step =>
    have start : session.usage? id = some ⟨expression, session.scene⟩ := by rw [usage?, held]; rfl
    have stays (plain : Text) : step ≠ .define id plain := fun same => kept plain (same ▸ rfl)
    obtain ⟨uses, later⟩ := uses_perform stays _ start
    obtain ⟨after, found, same⟩ := Option.map_eq_some_iff.mp later
    have stays : (Usage.run ⟨expression, session.scene⟩ uses).expression = expression :=
      Usage.run_of_prepared prepared uses
    rw [← same] at stays
    exact found.trans (congrArg some stays)
  | registerLibrary => rw [happen, expression?_mapScene, held]
  | prepareWith other functions engine =>
    rw [happen]
    cases found : session.expression? other with
    | none => exact held
    | some another =>
      by_cases same : id = other
      · subst same
        cases held.symm.trans found
        dsimp only
        rw [Expression.prepare_of_prepared prepared, expression?_mapScene, expression?_put_self]
      · exact (expression?_put_of_ne same _).trans held
  | add other binding =>
    rw [happen]
    cases found : (session.expression? other).bind (·.add? binding) with
    | none => exact held
    | some another =>
      by_cases same : id = other
      · subst same
        rw [held] at found
        simp [Expression.add?, prepared] at found
      · exact (expression?_put_of_ne same _).trans held

theorem expression?_continued {happenings : List Happening}
    (kept : ∀ happening ∈ happenings, ∀ plain, happening ≠ .step (.define id plain)) :
    (session.continued happenings).expression? id = some expression := by
  induction happenings generalizing session with
  | nil => exact held
  | cons happening rest ih =>
    refine ih (expression?_happen held prepared (kept happening List.mem_cons_self)) ?_
    exact fun other member => kept other (List.mem_cons_of_mem _ member)

end Prepared

def Finds (place : Place) (oid : Int) (session : Session) : Prop :=
  session.scene.foundAt? place = some oid

section Found

variable {place : Place} {oid : Int} (finds : session.Finds place oid)
include finds

theorem finds_evaluate {α : Type} (answer : α → Scene → Answer) {evaluation : Evaluation α}
    (keeps : evaluation.Agrees (fun s t => s = t ∧ s.foundAt? place = some oid) evaluation) :
    (session.evaluate answer evaluation).2.Finds place oid := by
  rw [evaluate_snd]
  exact (keeps session.scene session.scene ⟨rfl, finds⟩).2.2

theorem finds_prepare {after : Session} {outcome : Outcome}
    (done : session.prepare id = some (outcome, after)) : after.Finds place oid := by
  obtain ⟨expression, found, _⟩ := Option.map_eq_some_iff.mp done
  rw [prepare_of_expression? found] at done
  cases done
  exact finds

theorem finds_refer (reference : ObjectReference) :
    (refer reference session.scene).2.foundAt? place = some oid := by
  cases reference <;> exact finds

/-- What has been found is kept whatever step is taken. -/
theorem finds_take (step : Step) : (session.take step).2.Finds place oid := by
  -- nothing that is found is ever given up: every step finds more or leaves what is found alone
  cases step with
  | define | identify | assign | setVariable | readVariable | create | objects | advance
  | resetPicks => exact finds
  | describe => exact of_withExpression finds fun _ _ => finds
  | prepare =>
    rw [take]
    split
    · exact finds_prepare finds ‹_›
    · exact finds_prepare finds ‹_›
    · exact finds
  | prepareAll =>
    have prepared {ids : List Text} {failed : Except Text (List Text)} {after : Session}
        (done : session.prepareAll ids = some (failed, after)) : after.Finds place oid :=
      of_prepareAll (fun before prepared => finds_prepare before prepared) finds done
    rw [take]
    split
    · rename_i done
      have kept := prepared done
      exact kept
    · exact prepared ‹_›
    · exact finds
  | number id who =>
    refine of_withExpression finds fun expression _ => of_withLabels finds ?_
    exact finds_evaluate finds _ (expression.keeps_foundAt place oid who).1
  | content id who =>
    refine of_withExpression finds fun expression _ => of_withLabels finds ?_
    exact finds_evaluate finds _ (expression.keeps_foundAt place oid who).2
  | slots =>
    refine of_withExpression finds fun _ _ => ?_
    split
    · split <;> exact finds
    · exact finds
  | identifier => exact of_withExpression finds fun _ _ => Scene.foundAt?_identifyAt finds _ _
  | share =>
    refine of_withExpression finds fun _ _ => ?_
    split
    · exact finds
    · refine of_withExpression finds fun _ _ => ?_
      split <;> exact finds
  | register =>
    rw [take]
    split <;> exact finds
  | unregister =>
    rw [take]
    split
    · exact (Scene.foundAt?_unregister _ _ _).trans finds
    · exact finds
  | change | inspect | remove => exact of_withObject finds fun _ _ => finds
  | withOid reference => exact finds_refer finds reference
  | pick reference | first reference => exact Scene.foundAt?_pick (finds_refer finds reference) _
  | setPicked reference => exact of_withLabels finds (finds_refer finds reference)

theorem finds_happen (happening : Happening) : (session.happen happening).Finds place oid := by
  cases happening with
  | step step =>
    have start : (session.mapScene fun scene =>
        { scene with events := [], completed := [] }).Finds place oid := finds
    exact finds_take start step
  | registerLibrary =>
    obtain ⟨events, same⟩ := session.scene.exists_registerLibrary_eq
    rw [happen, Finds, mapScene, same]
    exact finds
  | prepareWith | add =>
    rw [happen]
    split <;> exact finds

theorem finds_continued (happenings : List Happening) :
    (session.continued happenings).Finds place oid := by
  induction happenings generalizing session with
  | nil => exact finds
  | cons happening rest ih => exact ih (finds_happen finds happening)

end Found

/-- The place and the text of the expression of a name. -/
def outline? (session : Session) (id : Text) : Option (Place × Text) :=
  (session.expression? id).map fun expression => (expression.place, expression.plain)

theorem outline?_put {expression other : Expression}
    (found : session.expression? id = some expression)
    (place : other.place = expression.place) (plain : other.plain = expression.plain) :
    (session.put id other).outline? = session.outline? := by
  funext name
  by_cases same : name = id
  · rw [same, outline?, outline?, expression?_put_self, found, Option.map_some, Option.map_some,
      place, plain]
  · rw [outline?, outline?, expression?_put_of_ne same]

/-- Whether two sessions are the same between two steps, but for their functions and for what has
been made of their expressions. -/
structure Abreast (s t : Session) : Prop where
  scene : s.scene.rested = t.scene.rested
  outline : s.outline? = t.outline?
  defined : s.defined = t.defined

theorem Abreast.refl (session : Session) : session.Abreast session := ⟨rfl, rfl, rfl⟩

theorem Abreast.symm (abreast : s.Abreast t) : t.Abreast s :=
  ⟨abreast.scene.symm, abreast.outline.symm, abreast.defined.symm⟩

theorem Abreast.trans {last : Session} (first : s.Abreast t) (rest : t.Abreast last) :
    s.Abreast last :=
  ⟨first.scene.trans rest.scene, first.outline.trans rest.outline,
    first.defined.trans rest.defined⟩

theorem abreast_withScene {scene : Scene} (same : scene.rested = session.scene.rested) :
    session.Abreast { session with scene } :=
  ⟨same.symm, rfl, rfl⟩

theorem abreast_put {expression other : Expression}
    (found : session.expression? id = some expression)
    (place : other.place = expression.place) (plain : other.plain = expression.plain) :
    session.Abreast (session.put id other) :=
  ⟨rfl, (outline?_put found place plain).symm, rfl⟩

theorem abreast_add {expression other : Expression} {binding : Binding}
    (found : session.expression? id = some expression)
    (added : expression.add? binding = some other) : session.Abreast (session.put id other) := by
  unfold Expression.add? at added
  split at added
  · cases added
  · cases added
    exact abreast_put found rfl rfl

theorem abreast_prepared {expression : Expression}
    (found : session.expression? id = some expression)
    (functions : Registry) (engine : FormulaEngine) (events : List Event) :
    session.Abreast ((session.put id (expression.prepare functions engine).2.1).mapScene
      (·.report events)) := by
  obtain ⟨plan?, failureReported, same, _⟩ := expression.exists_prepare_eq functions engine
  rw [same]
  have put : session.Abreast (session.put id { expression with plan?, failureReported }) :=
    abreast_put found rfl rfl
  exact put.trans (abreast_withScene rfl)

theorem abreast_prepare {after : Session} {outcome : Outcome}
    (done : session.prepare id = some (outcome, after)) : session.Abreast after := by
  obtain ⟨expression, found, _⟩ := Option.map_eq_some_iff.mp done
  rw [prepare_of_expression? found] at done
  cases done
  exact abreast_prepared found _ _ _

/-- Idle steps leave a session as it is, but for its functions and for what has been made of its
expressions. -/
theorem abreast_take {step : Step} (idle : (Happening.step step).IsIdle) :
    session.Abreast (session.take step).2 := by
  have same := Abreast.refl session
  -- the steps below are the idle ones; the last case is that of all others
  cases step with
  | prepare id =>
    rw [take]
    split
    · exact abreast_prepare ‹_›
    · exact abreast_prepare ‹_›
    · exact same
  | prepareAll ids =>
    have prepared {failed : Except Text (List Text)} {after : Session}
        (done : session.prepareAll ids = some (failed, after)) : session.Abreast after :=
      of_prepareAll (fun abreast done => abreast.trans (abreast_prepare done)) same done
    rw [take]
    split
    · rename_i done
      exact (prepared done).trans (abreast_withScene rfl)
    · exact prepared ‹_›
    · exact same
  | share id source index =>
    refine of_withExpression same fun giver _ => ?_
    split
    · exact same
    · refine of_withExpression same fun taker found => ?_
      split
      · exact abreast_add found ‹_›
      · exact same
  | register =>
    rw [take]
    split
    · exact abreast_withScene rfl
    · exact same
  | unregister =>
    rw [take]
    split
    · exact abreast_withScene (Scene.rested_unregister _ _)
    · exact same
  | describe => exact of_withExpression same fun _ _ => same
  | slots =>
    refine of_withExpression same fun _ _ => ?_
    split
    · split <;> exact same
    · exact same
  | inspect => exact of_withObject same fun _ _ => same
  | readVariable | objects => exact same
  | _ => exact idle.elim

theorem abreast_fresh (session : Session) : session.Abreast
    (session.mapScene fun scene => { scene with events := [], completed := [] }) :=
  abreast_withScene rfl

theorem abreast_happen {happening : Happening} (idle : happening.IsIdle) :
    session.Abreast (session.happen happening) := by
  cases happening with
  | step step => exact session.abreast_fresh.trans (abreast_take idle)
  | registerLibrary =>
    refine abreast_withScene ?_
    obtain ⟨events, same⟩ := session.scene.exists_registerLibrary_eq
    rw [same]
    rfl
  | prepareWith id functions engine =>
    rw [happen]
    split
    · exact abreast_prepared ‹_› functions engine _
    · exact .refl session
  | add id binding =>
    rw [happen]
    split
    · rename_i added
      obtain ⟨expression, found, added⟩ := Option.bind_eq_some_iff.mp added
      exact abreast_add found added
    · exact .refl session

theorem agrees_refer (reference : ObjectReference) :
    Evaluation.Agrees Scene.Beside (.step (refer reference)) (.step (refer reference)) := by
  refine Scene.agrees_beside fun _ _ _ => ?_
  cases reference <;> rfl

theorem outline?_put_eq (same : s.outline? = t.outline?) (id : Text) (expression : Expression) :
    (s.put id expression).outline? = (t.put id expression).outline? := by
  funext other
  by_cases point : other = id
  · rw [point, outline?, outline?, expression?_put_self, expression?_put_self]
  · have before := congrFun same other
    rw [outline?, outline?] at before ⊢
    rw [expression?_put_of_ne point, expression?_put_of_ne point, before]

section Steps

variable (beside : s.scene.Beside t.scene) (abreast : s.Abreast t)
include beside abreast

/-- What agrees in scenes that are the same but for their functions leaves sessions abreast. -/
theorem Abreast.withScene {α : Type} {evaluation : Evaluation α}
    (agrees : evaluation.Agrees Scene.Beside evaluation) :
    { s with scene := (evaluation.runIn s.scene).2 }.Abreast
      { t with scene := (evaluation.runIn t.scene).2 } :=
  ⟨(agrees _ _ beside).2.rested_eq, abreast.outline, abreast.defined⟩

theorem Abreast.evaluate {α : Type} (answer : α → Scene → Answer) {evaluation : Evaluation α}
    (agrees : evaluation.Agrees Scene.Beside evaluation) :
    (s.evaluate answer evaluation).2.Abreast (t.evaluate answer evaluation).2 := by
  rw [evaluate_snd, evaluate_snd]
  exact abreast.withScene beside agrees

theorem Abreast.withLabels (labels : List Nat) {first second : Except StepFault Answer × Session}
    (taken : first.2.Abreast second.2) :
    (s.withLabels labels first).2.Abreast (t.withLabels labels second).2 := by
  unfold Session.withLabels
  rw [show t.scene.objects = s.scene.objects from (congrArg World.objects beside.toWorld_eq).symm]
  split
  · exact taken
  · exact abreast

theorem Abreast.withObject (label : Nat)
    {first second : SceneObject → Except StepFault Answer × Session}
    (taken : ∀ object, (first object).2.Abreast (second object).2) :
    (s.withObject label first).2.Abreast (t.withObject label second).2 := by
  unfold Session.withObject
  rw [show t.scene.objects = s.scene.objects from (congrArg World.objects beside.toWorld_eq).symm]
  split
  · exact taken _
  · exact abreast

omit beside

theorem Abreast.withExpression (same : s.expression? id = t.expression? id)
    {first second : Expression → Except StepFault Answer × Session}
    (taken : ∀ expression, (first expression).2.Abreast (second expression).2) :
    (s.withExpression id first).2.Abreast (t.withExpression id second).2 := by
  unfold Session.withExpression
  rw [same]
  split
  · exact taken _
  · exact abreast

/-- The identifier of the object that an expression names is asked for at its place. -/
theorem Abreast.identifier (beside : s.scene.Beside t.scene) (id : Text) :
    (s.take (.identifier id)).2.Abreast (t.take (.identifier id)).2 := by
  have outlines := congrFun abreast.outline id
  rw [take, take, Session.withExpression, Session.withExpression]
  unfold outline? at outlines
  cases first : s.expression? id with
  | none =>
    rw [first, Option.map_none, eq_comm, Option.map_eq_none_iff] at outlines
    rw [outlines]
    exact abreast
  | some expression =>
    rw [first, Option.map_some, eq_comm, Option.map_eq_some_iff] at outlines
    obtain ⟨other, second, same⟩ := outlines
    obtain ⟨place, plain⟩ := Prod.mk.inj same
    rw [second]
    dsimp only
    rw [place, plain]
    exact abreast.withScene beside (Scene.agrees_identifyAt_beside _ _)

/-- A step keeps sessions abreast if what it evaluates is the same expression in both. -/
theorem Abreast.take (beside : s.scene.Beside t.scene) {step : Step}
    (same : ∀ id, (Happening.step step).evaluated? = some id →
      s.expression? id = t.expression? id) :
    (s.take step).2.Abreast (t.take step).2 := by
  have idly (idle : (Happening.step step).IsIdle) : (s.take step).2.Abreast (t.take step).2 :=
    (abreast_take idle).symm.trans (abreast.trans (abreast_take idle))
  obtain ⟨scene, expressions, defined⟩ := t
  have level : s.scene.Beside scene := beside
  obtain ⟨functions, registrations, rfl⟩ := Scene.beside_iff.mp level
  have outline := abreast.outline
  have count := abreast.defined
  cases step with
  | register | unregister | prepare | prepareAll | share | describe | slots | readVariable | inspect
  | objects => exact idly trivial
  | define id plain =>
    have defined := outline?_put_eq outline id (Expression.ofText [s.defined] plain)
    refine ⟨rfl, defined.trans ?_, congrArg (· + 1) count⟩
    rw [count]
    rfl
  | number id who =>
    refine abreast.withExpression (same id rfl) fun expression => ?_
    exact abreast.withLabels beside _ (abreast.evaluate beside _ (expression.agrees_beside who).1)
  | content id who =>
    refine abreast.withExpression (same id rfl) fun expression => ?_
    exact abreast.withLabels beside _ (abreast.evaluate beside _ (expression.agrees_beside who).2)
  | identifier id => exact abreast.identifier beside id
  | identify | assign | setVariable | create | advance | resetPicks => exact ⟨rfl, outline, count⟩
  | change label | remove label =>
    exact abreast.withObject beside label fun object => ⟨rfl, outline, count⟩
  | withOid reference => cases reference <;> exact ⟨rfl, outline, count⟩
  | pick reference | first reference =>
    have picked := (agrees_refer reference).bind fun oid => Scene.agrees_pick_beside oid
    exact abreast.withScene beside picked
  | setPicked reference labels =>
    refine abreast.withLabels beside labels ?_
    cases reference <;> exact ⟨rfl, outline, count⟩

end Steps

/-- What happens in two sessions that are abreast leaves them so, if what it evaluates is the same
expression in both. -/
theorem Abreast.happen (abreast : s.Abreast t) {happening : Happening}
    (same : ∀ id, happening.evaluated? = some id → s.expression? id = t.expression? id) :
    (s.happen happening).Abreast (t.happen happening) := by
  have idly (idle : happening.IsIdle) : (s.happen happening).Abreast (t.happen happening) :=
    (abreast_happen idle).symm.trans (abreast.trans (abreast_happen idle))
  cases happening with
  | step step =>
    have fresh := s.abreast_fresh.symm.trans (abreast.trans t.abreast_fresh)
    exact fresh.take abreast.scene same
  | registerLibrary | prepareWith | add => exact idly trivial

/-- Continuations that differ only in what is idle leave sessions abreast. -/
theorem Differ.abreast {first second : List Happening} (differ : Differ s t first second)
    (abreast : s.Abreast t) : (s.continued first).Abreast (t.continued second) := by
  induction differ with
  | nil => exact abreast
  | left idle _ ih => exact ih ((abreast_happen idle).symm.trans abreast)
  | right idle _ ih => exact ih (abreast.trans (abreast_happen idle))
  | both same _ ih => exact ih (abreast.happen same)

end Session

def Step.asked? : Step → Option Text
  | .number id _ | .content id _ | .slots id _ | .identifier id | .describe id => some id
  | _ => none

namespace Session

variable {s t : Session} {id : Text} {expression : Expression}

theorem evaluate_eq_of_beside {α : Type} {answer : α → Scene → Answer} {evaluation : Evaluation α}
    (beside : s.scene.Beside t.scene) (agrees : evaluation.Agrees Scene.Beside evaluation)
    (answers : ∀ value x y, Scene.Beside x y → answer value x = answer value y) :
    (s.evaluate answer evaluation).1 = (t.evaluate answer evaluation).1 ∧
      (s.evaluate answer evaluation).2.scene.Beside (t.evaluate answer evaluation).2.scene := by
  obtain ⟨same, after⟩ := agrees s.scene t.scene beside
  unfold evaluate
  generalize evaluation.runIn s.scene = one at same after ⊢
  generalize evaluation.runIn t.scene = other at same after ⊢
  obtain ⟨outcome, x⟩ := one
  obtain ⟨final, y⟩ := other
  change outcome = final at same
  subst same
  cases outcome with
  | error fault => exact ⟨rfl, after⟩
  | ok value => exact ⟨congrArg Except.ok (answers value x y after), after⟩

theorem take_eq_of_beside (beside : s.scene.Beside t.scene)
    (first : s.expression? id = some expression) (second : t.expression? id = some expression)
    {step : Step} (asked : step.asked? = some id) :
    (s.take step).1 = (t.take step).1 ∧ (s.take step).2.scene.Beside (t.take step).2.scene := by
  have objects : s.scene.objects = t.scene.objects := congrArg World.objects beside.toWorld_eq
  have agrees (who : Participants) := expression.agrees_beside who
  -- a step that asks is answered by the scene without its functions, on which both sides agree
  cases step with
  | number own who =>
    cases asked
    rw [take, take, withExpression, withExpression, first, second]
    dsimp only
    rw [withLabels, withLabels, objects]
    split
    · refine evaluate_eq_of_beside beside (agrees who).1 fun value x y same => ?_
      rw [show x.completed = y.completed from congrArg World.completed same.toWorld_eq]
    · exact ⟨rfl, beside⟩
  | content own who =>
    cases asked
    rw [take, take, withExpression, withExpression, first, second]
    dsimp only
    rw [withLabels, withLabels, objects]
    split
    · refine evaluate_eq_of_beside beside (agrees who).2 fun value x y same => ?_
      rw [show x.completed = y.completed from congrArg World.completed same.toWorld_eq]
    · exact ⟨rfl, beside⟩
  | slots own values =>
    cases asked
    rw [take, take, withExpression, withExpression, first, second]
    dsimp only
    split
    · split <;> exact ⟨rfl, beside⟩
    · exact ⟨rfl, beside⟩
  | identifier own =>
    cases asked
    rw [take, take, withExpression, withExpression, first, second]
    obtain ⟨same, after⟩ :=
      Scene.agrees_identifyAt_beside expression.place expression.plain _ _ beside
    let answer (oid : Int) : Except StepFault Answer := .ok (.identifier oid)
    exact ⟨congrArg answer (Except.ok.inj same), after⟩
  | describe own =>
    cases asked
    rw [take, take, withExpression, withExpression, first, second]
    dsimp only
    rw [beside.found_eq]
    exact ⟨rfl, beside⟩
  | _ => cases asked

/-- The same expression gives the same answers in scenes that are the same but for their functions,
and leaves them so. -/
theorem perform_eq_of_rested (rested : s.scene.rested = t.scene.rested)
    (first : s.expression? id = some expression) (second : t.expression? id = some expression)
    {step : Step} (asked : step.asked? = some id) :
    (s.perform step).1 = (t.perform step).1 ∧
      (s.perform step).2.scene.Beside (t.perform step).2.scene := by
  let fresh (scene : Scene) : Scene := { scene with events := [], completed := [] }
  have beside : (s.mapScene fresh).scene.Beside (t.mapScene fresh).scene := rested
  exact take_eq_of_beside beside first second asked

/-- A prepared expression does not depend on the functions of its scene. In any two continuations
that do not define its name again it stays as it is, with its plan, its bindings and its operators,
and keeps the identifier that it has found. From scenes that are then the same but for their
functions all questions about it have the same answers, and leave scenes that are still the same,
with the same calls completed. Continuations that differ only in what is idle come to such scenes,
as long as what they evaluate in common has been prepared in common. What is called is a body that
was bound before: it asks about its call and changes the world, and the functions are no part of
either. -/
theorem prepared_detached {origin : Session} {plan : Plan}
    (held : origin.expression? id = some expression) (prepared : expression.plan? = some plan)
    {first second : List Happening}
    (kept : ∀ happening ∈ first ++ second, ∀ plain, happening ≠ .step (.define id plain)) :
    let s := origin.continued first
    let t := origin.continued second
    (s.expression? id = some expression ∧ t.expression? id = some expression) ∧
    (∀ oid, origin.scene.foundAt? expression.place = some oid →
      s.scene.foundAt? expression.place = some oid ∧
        t.scene.foundAt? expression.place = some oid) ∧
    (s.scene.rested = t.scene.rested →
      s.scene.foundAt? expression.place = t.scene.foundAt? expression.place ∧
      ∀ step : Step, step.asked? = some id → (s.perform step).1 = (t.perform step).1 ∧
        (s.perform step).2.scene.unequipped = (t.perform step).2.scene.unequipped) ∧
    (Differ origin origin first second → s.scene.rested = t.scene.rested) := by
  intro s t
  have own : s.expression? id = some expression :=
    expression?_continued held prepared fun happening member =>
      kept happening (List.mem_append_left _ member)
  have other : t.expression? id = some expression :=
    expression?_continued held prepared fun happening member =>
      kept happening (List.mem_append_right _ member)
  refine ⟨⟨own, other⟩, fun oid found => ?_, fun rested => ⟨?_, fun step asked => ?_⟩,
    fun differ => ?_⟩
  · exact ⟨finds_continued found first, finds_continued found second⟩
  · have found : s.scene.rested.foundAt? expression.place =
        t.scene.rested.foundAt? expression.place := by rw [rested]
    exact found
  · exact perform_eq_of_rested rested own other asked
  · exact (differ.abreast (.refl origin)).scene

/-- A count whose function is unregistered in one continuation, and replaced in the other. -/
theorem prepared_detached_count :
    let scene : Scene :=
      { Scene.start [] (Identifiers.empty true 1) .standard 0 with
        functions := Registry.empty.insertLibrary }
    let id := Text.lit "enemies"
    let origin := (start scene).run [.define id (Text.lit "Count(Enemy)"), .prepare id]
    let first := [.step (.unregister (Text.lit "Count") (Text.lit "number") false),
      .step (.prepare id)]
    let second := [.step (.register (Text.lit "Count") (Text.lit "number")
      [Text.lit "identifier"] false (.constant (.number 7)))]
    let s := origin.continued first
    let t := origin.continued second
    (origin.expression? id).bind Expression.kind? = some .number ∧
      s.expression? id = origin.expression? id ∧ t.expression? id = origin.expression? id ∧
      ∀ who, (s.perform (.number id who)).1 = (t.perform (.number id who)).1 := by
  intro scene id origin first second s t
  have formula : (origin.expression? id).bind Expression.kind? = some .number := by decide +kernel
  obtain ⟨expression, held, known⟩ := Option.bind_eq_some_iff.mp formula
  obtain ⟨plan, prepared, _⟩ := Option.map_eq_some_iff.mp known
  have kept : ∀ happening ∈ first ++ second, ∀ plain, happening ≠ .step (.define id plain) := by
    simp [first, second]
  have differ : Differ origin origin first second :=
    .left trivial (.left trivial (.right trivial .nil))
  obtain ⟨⟨own, other⟩, _, same, rested⟩ := prepared_detached held prepared kept
  refine ⟨formula, own.trans held.symm, other.trans held.symm, fun who => ?_⟩
  exact ((same (rested differ)).2 (.number id who) rfl).1

end Session

end SceneFormula
