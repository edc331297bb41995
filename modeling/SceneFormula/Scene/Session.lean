import SceneFormula.Scene.Value
import SceneFormula.Settings

set_option autoImplicit false

namespace SceneFormula

/-- A scene by its settings, given the engine of each backend. Without a seed of its own it takes
the given one. -/
def Scene.ofSettings (backends : Text → FormulaEngine) (name : Text) (settings : Settings)
    (entropy : Int) : Scene :=
  Scene.start name (Identifiers.empty settings.autoAssign settings.firstId)
    (backends settings.backend) (settings.seed?.getD entropy)

/-- A scene and expressions under their names. -/
structure Session where
  scene : Scene
  expressions : List (Text × Expression)
  defined : Nat

/-- An object by its identifier or its name. -/
inductive ObjectReference where
  | oid (n : Int)
  | name (t : Text)

/-- The places and the angle that an object is given. -/
structure Placement where
  x? : Option HeldNumber
  y? : Option HeldNumber
  angle? : Option HeldNumber

/-- A step of a session. -/
inductive Step where
  | define (id plain : Text)
  | describe (id : Text)
  | prepare (id : Text)
  | prepareAll (ids : List Text)
  | number (id : Text) (who : Participants)
  | content (id : Text) (who : Participants)
  | slots (id : Text) (values : List Float)
  | identifier (id : Text)
  | identify (name : Text)
  | assign (name : Text) (oid : Int)
  | share (id source : Text) (index : Nat)
  | register (name returns : Text) (parameters : List Text) (isMember : Bool)
    (action : CustomAction)
  | unregister (name returns : Text) (isMember : Bool)
  | setVariable (name : Text) (value : HeldValue)
  | readVariable (name : Text)
  | create (name : Text) (x y : HeldNumber) (vars : List (Text × HeldValue))
  | change (label : Nat) (placement : Placement) (vars : List (Text × HeldValue))
  | inspect (label : Nat) (vars : List Text)
  | remove (label : Nat)
  | objects
  | withOid (reference : ObjectReference)
  | advance (seconds : Float)
  | pick (reference : ObjectReference)
  | first (reference : ObjectReference)
  | setPicked (reference : ObjectReference) (labels : List Nat)
  | resetPicks

inductive Answer where
  | done
  | expression (expression : Expression)
  | description (expression : Expression) (identified : Bool)
  | outcome (outcome : Outcome)
  | failed (ids : List Text)
  | number (x : Float) (completed : List Text)
  | content (t : Text) (completed : List Text)
  | slots (x : Float)
  | identifier (oid : Int)
  | bindings (count : Nat)
  | function (function : SceneFunction)
  | flag (b : Bool)
  | variableValue (x : Float) (t : Text)
  | created (label : Nat) (oid : Int)
  | object (object : SceneObject) (vars : List (Text × Float × Text))
  | removed (success : Bool) (present : List Nat)
  | labels (labels : List Nat)
  | label (label? : Option Nat)
  | times (timeDelta elapsedTime : Float)

/-- Why a step gives nothing. -/
inductive StepFault where
  | unknownExpression
  | unknownObject
  | unknownBinding
  | noFormula
  | frozen (expression : Expression)
  | breakdown (name : Text)
  | evaluation (fault : EvaluationFault)
  | identifier (fault : IdentifierFault)
  | declaration (fault : DeclarationFault)

namespace Session

def start (scene : Scene) : Session := ⟨scene, [], 0⟩

def expression? (session : Session) (id : Text) : Option Expression :=
  (session.expressions.find? fun entry => entry.1 = id).map (·.2)

def put (session : Session) (id : Text) (expression : Expression) : Session :=
  { session with
    expressions := (id, expression) ::
      session.expressions.filter fun entry => entry.1 ≠ id }

def mapScene (session : Session) (change : Scene → Scene) : Session :=
  { session with scene := change session.scene }

/-- Prepare the expression of a name. -/
def prepare (session : Session) (id : Text) : Option (Outcome × Session) :=
  (session.expression? id).map fun expression =>
    let (outcome, prepared, events) :=
      expression.prepare session.scene.functions session.scene.engine
    (outcome, (session.put id prepared).mapScene (·.report events))

/-- Prepare expressions in order; gives the names of those that failed. A breakdown ends it. All
are looked up before the first of them is prepared. -/
def prepareAll (session : Session) : List Text → Option (Except Text (List Text) × Session)
  | [] => some (.ok [], session)
  | id :: rest => do
    let (outcome, session) ← session.prepare id
    match outcome with
    | .raised name => (rest.mapM session.expression?).map fun _ => (.error name, session)
    | .prepared .. => prepareAll session rest
    | .failed .. =>
      let (failed, session) ← prepareAll session rest
      return (failed.map (id :: ·), session)

def evaluate {α : Type} (session : Session) (answer : α → Scene → Answer)
    (evaluation : Evaluation α) : Except StepFault Answer × Session :=
  match evaluation.runIn session.scene with
  | (.ok value, scene) => (.ok (answer value scene), { session with scene })
  | (.error fault, scene) => (.error (.evaluation fault), { session with scene })

def change {α : Type} (session : Session) (answer : α → Answer) (change : Scene → α × Scene) :
    Except StepFault Answer × Session :=
  let (value, scene) := change session.scene
  (.ok (answer value), { session with scene })

def withExpression (session : Session) (id : Text)
    (step : Expression → Except StepFault Answer × Session) : Except StepFault Answer × Session :=
  match session.expression? id with
  | some expression => step expression
  | none => (.error .unknownExpression, session)

def withObject (session : Session) (label : Nat)
    (step : SceneObject → Except StepFault Answer × Session) : Except StepFault Answer × Session :=
  match session.scene.objects[label]? with
  | some object => step object
  | none => (.error .unknownObject, session)

def withLabels (session : Session) (labels : List Nat)
    (step : Except StepFault Answer × Session) : Except StepFault Answer × Session :=
  if labels.all (· < session.scene.objects.length) then step
  else (.error .unknownObject, session)

def labelsOf (who : Participants) : List Nat :=
  who.first?.toList ++ who.second?.toList

def refer (reference : ObjectReference) (scene : Scene) : Int × Scene :=
  match reference with
  | .oid n => (n, scene)
  | .name t => scene.identify t

def take (session : Session) : Step → Except StepFault Answer × Session
  | .define id plain =>
    let expression := Expression.ofText [session.defined] plain
    (.ok (.expression expression),
      { session.put id expression with defined := session.defined + 1 })
  | .describe id => session.withExpression id fun expression =>
    (.ok (.description expression
      (session.scene.found.any fun entry => entry.1 = expression.place)), session)
  | .prepare id =>
    match session.prepare id with
    | some (.raised name, session) => (.error (.breakdown name), session)
    | some (outcome, session) => (.ok (.outcome outcome), session)
    | none => (.error .unknownExpression, session)
  | .prepareAll ids =>
    match session.prepareAll ids with
    | some (.ok failed, session) =>
      (.ok (.failed failed),
        session.mapScene (·.report [.batchPrepared ids.length failed.length]))
    | some (.error name, session) => (.error (.breakdown name), session)
    | none => (.error .unknownExpression, session)
  | .number id who => session.withExpression id fun expression =>
    session.withLabels (labelsOf who)
      (session.evaluate (fun x scene => .number x scene.completed) (expression.number who))
  | .content id who => session.withExpression id fun expression =>
    session.withLabels (labelsOf who)
      (session.evaluate (fun t scene => .content t scene.completed) (expression.content who))
  | .slots id values => session.withExpression id fun expression =>
    match expression.plan? with
    | some (.formula compiled _) =>
      match compiled.eval (values.map .number) with
      | .ok x => (.ok (.slots x), session)
      | .error fault => (.error (.evaluation (.run fault)), session)
    | _ => (.error .noFormula, session)
  | .identifier id => session.withExpression id fun expression =>
    session.change .identifier (·.identifyAt expression.place expression.plain)
  | .identify name => session.change .identifier (·.identify name)
  | .assign name oid =>
    let (outcome, scene) := session.scene.assign name oid
    ((outcome.map fun _ => .done).mapError .identifier, { session with scene })
  | .share id source index => session.withExpression source fun giver =>
    match giver.bindings[index]? with
    | none => (.error .unknownBinding, session)
    | some binding => session.withExpression id fun taker =>
      match taker.add? binding with
      | some taker => (.ok (.bindings taker.bindings.length), session.put id taker)
      | none => (.error (.frozen taker), session)
  | .register name returns parameters isMember action =>
    let registration := session.scene.registrations
    match SceneFunction.declare name returns parameters isMember (.custom registration action)
    with
    | .ok function =>
      (.ok (.function function),
        session.mapScene fun scene =>
          { scene with registrations := registration + 1 }.register function)
    | .error fault => (.error (.declaration fault), session)
  | .unregister name returns isMember =>
    match ValueKind.named? returns with
    | some kind => session.change .flag (·.unregister ⟨kind, isMember, name⟩)
    | none => (.error (.declaration .unknownResult), session)
  | .setVariable name value =>
    (.ok .done,
      session.mapScene fun scene => { scene with vars := scene.vars.set name value })
  | .readVariable name =>
    (.ok (.variableValue (session.scene.vars.number name) (session.scene.vars.text name)),
      session)
  | .create name x y vars =>
    session.change (fun (label, oid) => .created label oid) fun scene =>
      let (label, scene) := scene.create name x y vars
      ((label, ((scene.objects[label]?).map SceneObject.oid).getD noObject), scene)
  | .change label placement vars => session.withObject label fun object =>
    (.ok .done,
      session.mapScene fun scene =>
        { scene with
          objects := scene.objects.set label
            { object with
              x := placement.x?.getD object.x
              y := placement.y?.getD object.y
              angle := placement.angle?.getD object.angle
              vars := object.vars.setAll vars } })
  | .inspect label vars => session.withObject label fun object =>
    (.ok (.object object (vars.map fun name =>
      (name, object.vars.number name, object.vars.text name))), session)
  | .remove label => session.withObject label fun _ =>
    session.change (fun (success, present) => .removed success present) fun scene =>
      let (success, scene) := scene.remove label
      ((success, scene.present), scene)
  | .objects => (.ok (.labels session.scene.present), session)
  | .withOid reference =>
    session.change .labels fun scene =>
      let (oid, scene) := refer reference scene
      (scene.withOid oid, scene)
  | .advance seconds =>
    session.change (fun (delta, elapsed) => .times delta elapsed) fun scene =>
      let scene := scene.advance seconds
      ((scene.timeDelta, scene.elapsedTime), scene)
  | .pick reference =>
    session.change .labels fun scene =>
      let (oid, scene) := refer reference scene
      scene.pick oid
  | .first reference =>
    session.change .label fun scene =>
      let (oid, scene) := refer reference scene
      let (labels, scene) := scene.pick oid
      (labels.head?, scene)
  | .setPicked reference labels =>
    session.withLabels labels
      (session.change (fun _ => .done) fun scene =>
        let (oid, scene) := refer reference scene
        ((), scene.setPicked oid labels))
  | .resetPicks => (.ok .done, session.mapScene Scene.resetPicks)

/-- Take a step, with nothing reported and no call completed before it. -/
def perform (session : Session) (step : Step) : Except StepFault Answer × Session :=
  (session.mapScene fun scene => { scene with events := [], completed := [] }).take step

end Session
end SceneFormula
