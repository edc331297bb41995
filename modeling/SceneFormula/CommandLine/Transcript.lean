import SceneFormula.CommandLine.Options
import SceneFormula.Decimal.Significant
import SceneFormula.Scene.Session

set_option autoImplicit false

namespace SceneFormula

inductive Output where
  | result (line : Text)
  | complaint (line : Text)
  | log (event : Event)

inductive RunStop where
  | settings (faults : List SettingFault)
  | placement
  | breakdown (name : Text)
  | evaluation (fault : EvaluationFault)

inductive Ending where
  | code (n : Nat)
  | stopped (cause : RunStop)

structure Transcript where
  outputs : List Output
  ending : Ending
  format : LogFormat

namespace Transcript

/-- A text around the first occurrence of a character; all of it is before if there is none. -/
def cutAt (c : Char) (text : Text) : Text × Text :=
  (text.takeWhile (· ≠ c), (text.dropWhile (· ≠ c)).drop 1)

/-- The name and the value of a variable. A value that is a number counts as one, of the given
mark. -/
def variableOf (item : Text) (mark : Nat) : Text × HeldValue :=
  let (name, value) := cutAt '=' item
  (name, match Decimal.read? value with
    | some x => .number ⟨x, mark⟩
    | none => .text value)

def coordinate? (text : Text) : Option Float :=
  if text.isEmpty then some 0 else Decimal.read? text

def placed? (item : Text) : Option (Text × Float × Float) := do
  let (name, place) := cutAt ':' item
  let (x, y) := cutAt ':' place
  return (name, ← coordinate? x, ← coordinate? y)

/-- What the scene has reported, as far as the level asks for it. -/
def logged (level : Level) (scene : Scene) : List Output :=
  (scene.events.filter fun event => level.rank ≤ event.level.rank).map .log

def createAll (scene : Scene) : List Text → Bool × Scene
  | [] => (true, scene)
  | item :: rest =>
    match placed? item with
    | none => (false, scene)
    | some (name, x, y) =>
      let mark := 2 * scene.objects.length
      createAll (scene.create name ⟨x, mark⟩ ⟨y, mark + 1⟩ []).2 rest

def setting (backends : Text → FormulaEngine) (settings : Settings) (options : Options)
    (entropy : Int) : Bool × Scene :=
  let scene := (Scene.ofSettings backends (Text.lit "cli") settings entropy).registerLibrary
  let vars := options.vars.zipIdx.map fun (item, mark) => variableOf item mark
  createAll { scene with vars := scene.vars.setAll vars } options.objects

/-- The result line of an expression: a number to six digits, or a quoted text. -/
def resultOf (expression : Expression) : Evaluation Text :=
  match expression.kind? with
  | some .text => do
    return expression.plain ++ Text.lit " = " ++ Text.quoted (← expression.content ⟨none, none⟩)
  | _ => do
    return expression.plain ++ Text.lit " = " ++
      Decimal.significant 6 (← expression.number ⟨none, none⟩)

def complaintAbout (plain : Text) (outcome : Outcome) : Text :=
  let told (fault? : Option SyntaxFault) : Text := (fault?.map SyntaxFault.message).getD []
  plain ++ Text.lit ": error: " ++ told outcome.formulaFault? ++ Text.lit "; " ++
    told outcome.textFault?

/-- Prepare and evaluate an expression: what is written, what ends the run or whether the expression
was fit, and the scene after it. -/
def runOne (level : Level) (scene : Scene) (index : Nat) (plain : Text) :
    List Output × Except RunStop Bool × Scene :=
  let (outcome, expression, events) :=
    (Expression.ofText [index] plain).prepare scene.functions scene.engine
  let scene := { scene with events := events }
  match outcome with
  | .raised name => (logged level scene, .error (.breakdown name), scene)
  | .failed .. =>
    (logged level scene ++ [.complaint (complaintAbout plain outcome)], .ok false, scene)
  | .prepared .. =>
    match (resultOf expression).runIn scene with
    | (.ok line, scene) => (logged level scene ++ [.result line], .ok true, scene)
    | (.error fault, scene) => (logged level scene, .error (.evaluation fault), scene)

def runAll (level : Level) (scene : Scene) (index : Nat) :
    List Text → List Output × Except RunStop Bool
  | [] => ([], .ok true)
  | plain :: rest =>
    match runOne level scene index plain with
    | (outputs, .error stop, _) => (outputs, .error stop)
    | (outputs, .ok fit, scene) =>
      let (more, ending) := runAll level scene (index + 1) rest
      (outputs ++ more, ending.map (fit && ·))

def help : List Text :=
  ["usage: gamexpr [-h] [--var NAME=VALUE] [--object NAME:X:Y]",
    "               expressions [expressions ...]",
    "",
    "Evaluate game expressions against a scratch scene.",
    "",
    "positional arguments:",
    "  expressions        expression strings to evaluate",
    "",
    "options:",
    "  -h, --help         show this help message and exit",
    "  --var NAME=VALUE   scene variable (numeric when VALUE parses as a number)",
    "  --object NAME:X:Y  object instance to create in the scene"].map Text.lit

/-- A run of the program for its arguments and environment, given the engine of each backend. Where
no seed is set, random numbers follow from the given one. -/
def ofArguments (backends : Text → FormulaEngine) (arguments : List Text)
    (environment : List (Text × Text)) (entropy : Int) : Transcript :=
  match Settings.read environment [] with
  | .error faults => ⟨[], .stopped (.settings faults), .console⟩
  | .ok settings =>
    match Options.ofArguments arguments with
    | .error .help => ⟨help.map .result, .code 0, settings.logFormat⟩
    | .error (.misuse message) =>
      ⟨[.complaint (Text.lit "gamexpr: error: " ++ message)], .code 2, settings.logFormat⟩
    | .ok options =>
      let (complete, scene) := setting backends settings options entropy
      let before := logged settings.logLevel scene
      if !complete then ⟨before, .stopped .placement, settings.logFormat⟩
      else
        let (outputs, ending) := runAll settings.logLevel scene 0 options.expressions
        ⟨before ++ outputs,
          match ending with
          | .ok fit => .code (if fit then 0 else 1)
          | .error stop => .stopped stop,
          settings.logFormat⟩

end Transcript
end SceneFormula
