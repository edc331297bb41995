import SceneFormula.Proofs.Failure

set_option autoImplicit false

namespace SceneFormula

/-- The calls that an evaluation completes. -/
structure Completions where
  whole : List Text
  upTo : Scene → List Text

def Completions.nothing : Completions := ⟨[], fun _ => []⟩

/-- What is completed by an evaluation and, unless it fails, by another one in the scene behind
it. -/
def Completions.before (first : Completions) (behind? : Scene → Option Scene)
    (rest : Completions) : Completions where
  whole := first.whole ++ rest.whole
  upTo scene := first.upTo scene ++
    match behind? scene with
    | some after => rest.upTo after
    | none => []

theorem Completions.before_nothing (first : Completions) (behind? : Scene → Option Scene) :
    first.before behind? nothing = first := by
  have silent (scene : Scene) : (match behind? scene with
      | some after => nothing.upTo after
      | none => []) = [] := by
    cases behind? scene <;> rfl
  simp only [before, silent, List.append_nil]
  simp only [nothing, List.append_nil]

/-- A stage of an evaluation: the scene behind it unless it fails, and what it completes. -/
structure Stage where
  behind? : Scene → Option Scene
  completions : Completions

def Stage.row : List Stage → Completions
  | [] => .nothing
  | stage :: rest => stage.completions.before stage.behind? (Stage.row rest)

theorem Stage.whole_row (stages : List Stage) :
    (row stages).whole = stages.flatMap fun stage => stage.completions.whole := by
  induction stages with
  | nil => rfl
  | cons stage rest ih =>
    rw [List.flatMap_cons, ← ih]
    rfl

namespace Evaluation

variable {α β : Type}

def behind? (evaluation : Evaluation α) (scene : Scene) : Option Scene :=
  match evaluation.runIn scene with
  | (.ok _, after) => some after
  | (.error _, _) => none

/-- Whether an evaluation completes these calls. -/
structure Completes (evaluation : Evaluation α) (done : Completions) : Prop where
  upTo : ∀ scene, (evaluation.runIn scene).2.completed = scene.completed ++ done.upTo scene
  whole : ∀ scene after, evaluation.behind? scene = some after → done.upTo scene = done.whole

theorem behind?_of_ok {evaluation : Evaluation α} {scene after : Scene} {value : α}
    (done : evaluation.runIn scene = (.ok value, after)) :
    evaluation.behind? scene = some after := by
  rw [behind?, done]

theorem behind?_of_error {evaluation : Evaluation α} {scene after : Scene} {fault : EvaluationFault}
    (failed : evaluation.runIn scene = (.error fault, after)) :
    evaluation.behind? scene = none := by
  rw [behind?, failed]

theorem completes_pure (value : α) : (pure value : Evaluation α).Completes .nothing :=
  ⟨fun scene => (List.append_nil scene.completed).symm, fun _ _ _ => rfl⟩

theorem completes_throw (fault : EvaluationFault) :
    (throw fault : Evaluation α).Completes .nothing :=
  ⟨fun scene => (List.append_nil scene.completed).symm, fun _ _ _ => rfl⟩

theorem completes_ask (question : Scene → α) : (ask question).Completes .nothing :=
  ⟨fun scene => (List.append_nil scene.completed).symm, fun _ _ _ => rfl⟩

theorem completes_step {change : Scene → α × Scene}
    (kept : ∀ scene, (change scene).2.completed = scene.completed) :
    (step change).Completes .nothing :=
  ⟨fun scene => (kept scene).trans (List.append_nil scene.completed).symm, fun _ _ _ => rfl⟩

variable {evaluation : Evaluation α} {next : α → Evaluation β} {done rest : Completions}

/-- Evaluations in a row complete what each of them does, up to the first that fails. -/
theorem Completes.bind (first : evaluation.Completes done)
    (others : ∀ value, (next value).Completes rest) :
    (evaluation >>= next).Completes (done.before evaluation.behind? rest) := by
  refine ⟨fun scene => ?_, fun scene after reached => ?_⟩
  · have own := first.upTo scene
    rw [runIn_bind]
    rcases result : evaluation.runIn scene with ⟨fault | value, between⟩
    · rw [result] at own
      simp only [Completions.before, behind?_of_error result, List.append_nil]
      exact own
    · rw [result] at own
      simp only [Completions.before, behind?_of_ok result, ← List.append_assoc, ← own]
      exact (others value).upTo between
  · rcases result : evaluation.runIn scene with ⟨fault | value, between⟩
    · rw [behind?, runIn_bind, result] at reached
      cases reached
    · have passed := behind?_of_ok result
      have later : (next value).behind? between = some after := by
        rw [← reached, behind?, behind?, runIn_bind, result]
      simp only [Completions.before, passed, first.whole scene between passed,
        (others value).whole between after later]

theorem Completes.bind_quiet (first : evaluation.Completes done)
    (others : ∀ value, (next value).Completes .nothing) : (evaluation >>= next).Completes done := by
  have both := first.bind others
  rwa [Completions.before_nothing] at both

theorem Completes.completed_of_ok (completes : evaluation.Completes done) {scene after : Scene}
    {value : α} (passed : evaluation.runIn scene = (.ok value, after)) :
    after.completed = scene.completed ++ done.whole := by
  rw [← completes.whole scene after (behind?_of_ok passed), ← completes.upTo, passed]

end Evaluation

/-- How a function reads one of its arguments. -/
inductive ArgumentReading where
  | number (index : Nat)
  | integer (index : Nat)
  | text (index : Nat)

/-- What the arguments of a call complete, each by the kind of value that it is read as. -/
abbrev Arguments := List (ValueKind → Completions)

namespace Arguments

/-- What the argument of an index completes when it is read; nothing if there is none. -/
def completions (arguments : Arguments) (index : Nat) (kind : ValueKind) : Completions :=
  match arguments[index]? with
  | some argument => argument kind
  | none => .nothing

end Arguments

namespace CallSite

/-- The scene behind the reading of an argument, unless it fails. -/
def behind? (site : CallSite) : ArgumentReading → Scene → Option Scene
  | .number index => (site.number index).behind?
  | .integer index => (site.integer index).behind?
  | .text index => (site.text index).behind?

/-- The reading of an argument as a stage. -/
def stage (site : CallSite) (arguments : Arguments) (reading : ArgumentReading) : Stage where
  behind? := site.behind? reading
  completions :=
    match reading with
    | .number index | .integer index => arguments.completions index .number
    | .text index => arguments.completions index .text

def readings (site : CallSite) (arguments : Arguments) (row : List ArgumentReading) : Completions :=
  Stage.row (row.map (site.stage arguments))

/-- Whether the arguments of a call complete what is told of them. -/
structure Completes (site : CallSite) (arguments : Arguments) : Prop where
  number : ∀ index, (site.number index).Completes (arguments.completions index .number)
  text : ∀ index, (site.text index).Completes (arguments.completions index .text)

end CallSite

def LibraryFunction.reads : LibraryFunction → List ArgumentReading
  | random => [.integer 0]
  | toText => [.number 0]
  | toNumber | textLength => [.text 0]
  | substring => [.text 0, .integer 1, .integer 2]
  | timeDelta | elapsedTime | sceneVariable | count | objectX | objectY | objectAngle
  | objectVariable | sceneVariableText | newLine | objectName | objectVariableText => []

/-- The argument that a custom action reads first, if it reads one. -/
def CustomAction.reads : CustomAction → List ArgumentReading
  | ask (.number index) _ _ => [.number index]
  | ask (.text index) _ _ => [.text index]
  | _ => []

/-- Whether a custom action returns a constant, fails, or returns what answers one question. -/
inductive CustomAction.Plain : CustomAction → Prop
  | constant (value : Value) : Plain (constant value)
  | failure : Plain failure
  | reply (question : Question) (value : question.Answer → Value) : Plain (reply question value)

/-- Whether a function is one of the library or has a plain action. -/
def Body.Plain : Body → Prop
  | library _ => True
  | custom _ action => action.Plain

/-- What a call of a function completes: what it reads does first, and then its own call does if the
function is a custom one. -/
def Body.completions (site : CallSite) (arguments : Arguments) : Body → Completions
  | library function => site.readings arguments function.reads
  | custom registration action =>
    (site.readings arguments action.reads).before (action.run registration site none).behind?
      ⟨[site.source], fun _ => [site.source]⟩

namespace Scene

theorem completed_identifyAt (scene : Scene) (place : Place) (name : Text) :
    (scene.identifyAt place name).2.completed = scene.completed := by
  rw [identifyAt]
  split <;> rfl

theorem completed_pick (scene : Scene) (oid : Int) :
    (scene.pick oid).2.completed = scene.completed := by
  rw [pick]
  split <;> rfl

end Scene

namespace CallSite

open Evaluation

variable {site : CallSite} {arguments : Arguments}

theorem Completes.integer (completes : site.Completes arguments) (index : Nat) :
    (site.integer index).Completes (arguments.completions index .number) := by
  refine (completes.number index).bind_quiet fun x => ?_
  split
  · exact completes_pure _
  · exact completes_throw _

theorem completes_argument (site : CallSite) (index : Nat) :
    (site.argument index).Completes .nothing := by
  unfold argument
  split
  · exact completes_pure _
  · exact completes_throw _

theorem completes_identifier (site : CallSite) (index : Nat) :
    (site.identifier index).Completes .nothing :=
  (site.completes_argument index).bind_quiet fun _ => completes_pure _

theorem completes_argumentId (site : CallSite) (index : Nat) :
    (site.argumentId index).Completes .nothing :=
  (site.completes_argument index).bind_quiet fun access =>
    completes_step fun scene => scene.completed_identifyAt access.place access.plain

theorem completes_object (site : CallSite) : site.object.Completes .nothing := by
  unfold object
  split
  · exact completes_pure _
  · exact completes_throw _

theorem completes_objectId (site : CallSite) : site.objectId.Completes .nothing :=
  site.completes_object.bind_quiet fun name =>
    completes_step fun scene => scene.completed_identifyAt (0 :: site.place) name

theorem completes_ofTarget {α : Type} (site : CallSite) (missing : α)
    {property : SceneObject → Evaluation α}
    (each : ∀ object, (property object).Completes .nothing) :
    (site.ofTarget missing property).Completes .nothing := by
  have target : site.target.Completes .nothing := by
    refine site.completes_objectId.bind_quiet fun oid => ?_
    refine (completes_ask _).bind_quiet fun objects => ?_
    dsimp only
    split
    · exact completes_pure _
    · exact (completes_step fun scene => scene.completed_pick oid).bind_quiet fun _ =>
        completes_pure _
  refine target.bind_quiet fun object? => ?_
  cases object? with
  | none => exact completes_pure missing
  | some object => exact each object

end CallSite

open Evaluation

variable {site : CallSite} {arguments : Arguments}

theorem LibraryFunction.completes_run (completes : site.Completes arguments)
    (function : LibraryFunction) :
    (function.run site).Completes (site.readings arguments function.reads) := by
  have done (value : Value) : (pure value : Evaluation Value).Completes .nothing :=
    completes_pure value
  cases function with
  | random =>
    refine (completes.integer 0).bind fun limit => ?_
    exact Completes.bind_quiet (completes_step fun _ => rfl) fun _ => done _
  | toText => exact (completes.number 0).bind fun _ => done _
  | toNumber | textLength => exact (completes.text 0).bind fun _ => done _
  | substring =>
    exact (completes.text 0).bind fun text => (completes.integer 1).bind fun start =>
      (completes.integer 2).bind fun length => done _
  | timeDelta | elapsedTime => exact (completes_ask _).bind_quiet fun _ => done _
  | sceneVariable | sceneVariableText =>
    exact (site.completes_identifier 0).bind_quiet fun name =>
      (completes_ask _).bind_quiet fun _ => done _
  | count =>
    exact (site.completes_argumentId 0).bind_quiet fun oid =>
      (completes_step fun scene => scene.completed_pick oid).bind_quiet fun _ => done _
  | newLine => exact done _
  | objectX | objectY | objectAngle | objectName =>
    exact (site.completes_ofTarget _ fun _ => completes_pure _).bind_quiet fun _ => done _
  | objectVariable | objectVariableText =>
    refine (site.completes_ofTarget _ fun object => ?_).bind_quiet fun _ => done _
    exact (site.completes_identifier 0).bind_quiet fun name => completes_pure _

theorem CustomAction.run_reply (registration : Nat) (site : CallSite) (question : Question)
    (value : question.Answer → Value) (handled? : Option EvaluationFault) :
    (reply question value).run registration site handled? = do
      return value (← site.answer question) := by
  have same (scene : Scene) : ((reply question value).run registration site handled?).runIn scene =
      (site.answer question >>= fun answer => pure (value answer)).runIn scene := by
    rw [reply, run, runIn_bind, runIn_bind, runIn_observe]
    rcases (site.answer question).runIn scene with ⟨_ | _, _⟩ <;> rfl
  exact funext same

theorem CustomAction.completes_run {action : CustomAction} (plain : action.Plain)
    (completes : site.Completes arguments) (registration : Nat) :
    (action.run registration site none).Completes (site.readings arguments action.reads) := by
  cases plain with
  | constant value => exact completes_pure value
  | failure => exact completes_throw .failure
  | reply question value =>
    rw [run_reply]
    have done (value : Value) : (pure value : Evaluation Value).Completes .nothing :=
      completes_pure value
    cases question with
    | number index => exact (completes.number index).bind fun _ => done _
    | text index => exact (completes.text index).bind fun _ => done _
    | identifier index => exact (site.completes_identifier index).bind_quiet fun _ => done _
    | argumentId index => exact (site.completes_argumentId index).bind_quiet fun _ => done _
    | source => exact done _
    | object => exact site.completes_object.bind_quiet fun _ => done _
    | objectId => exact site.completes_objectId.bind_quiet fun _ => done _

/-- A call completes what its function's reading does, and then itself if the function is a custom
one. -/
theorem Body.completes_run {body : Body} (plain : body.Plain)
    (completes : site.Completes arguments) :
    (body.run site).Completes (body.completions site arguments) := by
  cases body with
  | library function => exact function.completes_run completes
  | custom registration action =>
    refine (CustomAction.completes_run plain completes registration).bind fun value => ?_
    exact ⟨fun _ => rfl, fun _ _ _ => rfl⟩

end SceneFormula
