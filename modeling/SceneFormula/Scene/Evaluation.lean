import SceneFormula.Expression.Plan
import SceneFormula.Scene.Basic

set_option autoImplicit false

namespace SceneFormula

/-- A computation in a scene, which may change the scene also if it fails. -/
abbrev Evaluation := ExceptT EvaluationFault (StateM Scene)

namespace Evaluation

def step {α : Type} (change : Scene → α × Scene) : Evaluation α :=
  modifyGet change

/-- The outcome of an evaluation, as a value. -/
def observe {α : Type} (evaluation : Evaluation α) : Evaluation (Except EvaluationFault α) :=
  ExceptT.lift (ExceptT.run evaluation)

def ask {α : Type} (question : Scene → α) : Evaluation α := do
  return question (← get)

def runIn {α : Type} (evaluation : Evaluation α) (scene : Scene) :
    Except EvaluationFault α × Scene :=
  StateT.run (ExceptT.run evaluation) scene

end Evaluation

/-- The objects that an evaluation is about, if any. -/
structure Participants where
  first? : Option Nat
  second? : Option Nat

/-- An argument as a function sees it. -/
structure Access where
  plain : Text
  place : Place
  number : Evaluation Float
  text : Evaluation Text

/-- A call as its function sees it. -/
structure CallSite where
  source : Text
  object? : Option Text
  place : Place
  arguments : List Access
  participants : Participants

namespace Double

/-- A double without its fraction, as an integer. -/
def truncate (x : Float) : Except ArithmeticFault Int :=
  match toRat? x with
  | some q => .ok (q.num.tdiv q.den)
  | none => .error (if x.isNaN then .domain else .overflow)

end Double

namespace CallSite

def argument (site : CallSite) (index : Nat) : Evaluation Access :=
  match site.arguments[index]? with
  | some access => return access
  | none => throw .noArgument

def number (site : CallSite) (index : Nat) : Evaluation Float := do
  (← site.argument index).number

def integer (site : CallSite) (index : Nat) : Evaluation Int := do
  match Double.truncate (← site.number index) with
  | .ok n => return n
  | .error fault => throw (.notWhole fault)

def text (site : CallSite) (index : Nat) : Evaluation Text := do
  (← site.argument index).text

def identifier (site : CallSite) (index : Nat) : Evaluation Text := do
  return (← site.argument index).plain.strip

def argumentId (site : CallSite) (index : Nat) : Evaluation Int := do
  let access ← site.argument index
  Evaluation.step (·.identifyAt access.place access.plain)

def object (site : CallSite) : Evaluation Text :=
  match site.object? with
  | some name => return name
  | none => throw .noObject

def objectId (site : CallSite) : Evaluation Int := do
  let name ← site.object
  Evaluation.step (·.identifyAt (0 :: site.place) name)

/-- The object that the call acts on: the first participant with the named object's identifier, or
else the first object concerned. -/
def target (site : CallSite) : Evaluation (Option SceneObject) := do
  let oid ← site.objectId
  let objects ← Evaluation.ask (·.objects)
  let participant := [site.participants.first?, site.participants.second?].findSome? fun label? =>
    (label?.bind (objects[·]?)).filter fun object => object.oid = oid
  match participant with
  | some object => return some object
  | none =>
    let labels ← Evaluation.step (·.pick oid)
    return labels.head?.bind (objects[·]?)

def answer (site : CallSite) : (question : Question) → Evaluation question.Answer
  | .number index => site.number index
  | .text index => site.text index
  | .identifier index => site.identifier index
  | .argumentId index => site.argumentId index
  | .source => return site.source
  | .object => site.object
  | .objectId => site.objectId

def ofTarget {α : Type} (site : CallSite) (missing : α) (property : SceneObject → Evaluation α) :
    Evaluation α := do
  match ← site.target with
  | some object => property object
  | none => return missing

end CallSite

def LibraryFunction.run (site : CallSite) : LibraryFunction → Evaluation Value
  | random => do
    let limit ← site.integer 0
    let drawn ← Evaluation.step fun scene =>
      let (drawn, generator) := scene.generator.upTo limit.toNat
      (drawn, { scene with generator })
    return .number (Double.ofInt drawn)
  | timeDelta => return .number (← Evaluation.ask (·.timeDelta))
  | elapsedTime => return .number (← Evaluation.ask (·.elapsedTime))
  | sceneVariable => do
    let name ← site.identifier 0
    return .number ((← Evaluation.ask (·.vars)).number name)
  | toNumber => return .number (Value.text (← site.text 0).strip).toNumber
  | textLength => return .number (Double.ofInt (← site.text 0).length)
  | count => do
    let oid ← site.argumentId 0
    let labels ← Evaluation.step (·.pick oid)
    return .number (Double.ofInt labels.length)
  | objectX => return .number (← site.ofTarget 0 fun object => return object.x.value)
  | objectY => return .number (← site.ofTarget 0 fun object => return object.y.value)
  | objectAngle => return .number (← site.ofTarget 0 fun object => return object.angle.value)
  | objectVariable =>
    return .number (← site.ofTarget 0 fun object => do
      let name ← site.identifier 0
      return object.vars.number name)
  | toText => return .text (Value.numberText (← site.number 0))
  | sceneVariableText => do
    let name ← site.identifier 0
    return .text ((← Evaluation.ask (·.vars)).text name)
  | newLine => return .text ['\n']
  | substring => do
    let text ← site.text 0
    let start ← site.integer 1
    let length ← site.integer 2
    return .text ((text.drop start.toNat).take length.toNat)
  | objectName => return .text (← site.ofTarget [] fun object => return object.name)
  | objectVariableText =>
    return .text (← site.ofTarget [] fun object => do
      let name ← site.identifier 0
      return object.vars.text name)

/-- What a custom function returns for a call, inside the handling of a fault or of none. -/
def CustomAction.run (registration : Nat) (site : CallSite) :
    CustomAction → Option EvaluationFault → Evaluation Value
  | constant value, _ => return value
  | failure, _ => throw .failure
  | pass, handled? => throw (handled?.getD .failure)
  | ask question next caught, handled? => do
    match ← Evaluation.observe (site.answer question) with
    | .ok answer => (next answer).run registration site handled?
    | .error fault => (caught fault).run registration site (some fault)
  | count next, handled? => do
    let times ← Evaluation.step (·.count registration)
    (next times).run registration site handled?
  | change act next, handled? => do
    let world ← Evaluation.step (·.act act)
    (next world).run registration site handled?

/-- What a function returns for a call. Completed calls of custom functions are kept. -/
def Body.run (site : CallSite) : Body → Evaluation Value
  | library function => function.run site
  | custom registration action => do
    let value ← action.run registration site none
    Evaluation.step fun scene =>
      (value, { scene with completed := scene.completed ++ [site.source] })

def Value.asNumber : Value → Evaluation Float
  | number x => return x
  | text t =>
    match Decimal.read? t with
    | some x => return x
    | none => throw .notANumber

/-- A value as a function for values of a kind returns it. -/
def Value.returned : ValueKind → Value → Evaluation Value
  | .number, value => return .number (← value.asNumber)
  | .text, value => return .text value.joined

/-- The value of a formula for the values of its calls. Without calls its only slot takes zero. -/
def Compiled.evaluate (compiled : Compiled) (values : List Value) : Evaluation Float :=
  match compiled.eval (if values.isEmpty then [.number 0] else values) with
  | .ok x => return x
  | .error fault => throw (.run fault)

mutual

def Instruction.value (who : Participants) (place : Place) : Instruction → Evaluation Value
  | .mk function source object? arguments =>
    function.body.run ⟨source, object?, place, Argument.accesses who place 1 arguments, who⟩

def Argument.accesses (who : Participants) (place : Place) (index : Nat) :
    List Argument → List Access
  | [] => []
  | argument :: rest =>
    Argument.access who (index :: place) argument :: Argument.accesses who place (index + 1) rest

/-- An argument as a function sees it. -/
def Argument.access (who : Participants) (place : Place) : Argument → Access
  | .name plain => ⟨plain, place, throw (.notPrepared plain), throw (.notPrepared plain)⟩
  | .prepared plain plan =>
    ⟨plain, place, Plan.number who place plain plan, Plan.content who place plain plan⟩

def Instruction.values (who : Participants) (place : Place) (index : Nat) :
    List Instruction → Evaluation (List Value)
  | [] => return []
  | instruction :: rest => do
    let x ← (← Instruction.value who (index :: place) instruction).returned
      instruction.function.returns
    let xs ← Instruction.values who place (index + 1) rest
    return x :: xs

def Segment.joined (who : Participants) (place : Place) (index : Nat) :
    List Segment → Evaluation Text
  | [] => return []
  | segment :: rest => do
    let first ← Segment.content who (index :: place) segment
    let others ← Segment.joined who place (index + 1) rest
    return first ++ others

def Segment.content (who : Participants) (place : Place) : Segment → Evaluation Text
  | .literal text => return text
  | .call instruction => return (← Instruction.value who place instruction).joined

def Plan.number (who : Participants) (place : Place) (plain : Text) : Plan → Evaluation Float
  | .text _ => throw (.wrongKind plain .text .number)
  | .formula compiled calls => do
    compiled.evaluate (← Instruction.values who place 0 calls)

def Plan.content (who : Participants) (place : Place) (plain : Text) : Plan → Evaluation Text
  | .formula .. => throw (.wrongKind plain .number .text)
  | .text segments => Segment.joined who place 0 segments

end

end SceneFormula
