import SceneFormula.Proofs.Failure

set_option autoImplicit false

namespace SceneFormula

/-- Whether a function of a signature may ask a question about its call. -/
def Question.Declared (parameters : List ParameterKind) (isMember : Bool) : Question → Prop
  | number index => parameters[index]? = some .expression
  | text index => parameters[index]? = some .text
  | identifier index | argumentId index => parameters[index]? = some .identifier
  | source => True
  | object | objectId => isMember = true

instance (parameters : List ParameterKind) (isMember : Bool) (question : Question) :
    Decidable (question.Declared parameters isMember) := by
  cases question <;> unfold Question.Declared <;> infer_instance

/-- Whether an action asks only questions of a kind, whatever the answers are. -/
def CustomAction.AsksOnly (may : Question → Prop) : CustomAction → Prop
  | constant _ | failure | pass => True
  | ask question next caught =>
    may question ∧ (∀ answer, (next answer).AsksOnly may) ∧
      ∀ fault, (caught fault).AsksOnly may
  | count next => ∀ times, (next times).AsksOnly may
  | change _ next => ∀ world, (next world).AsksOnly may

/-- Whether a function does as its declaration says: it is one of the library, or its action asks
only what is declared. -/
def SceneFunction.KeepsDeclaration (function : SceneFunction) : Prop :=
  match function.body with
  | .library own => function = own.declared
  | .custom _ action =>
    action.AsksOnly (Question.Declared function.parameters function.isMember)

/-- Whether all functions of a registry keep their declarations. -/
def Registry.KeepsDeclarations (registry : Registry) : Prop :=
  ∀ function ∈ registry.functions, function.KeepsDeclaration

namespace Registry

section Insertion

variable {holds : SceneFunction → Prop} {registry : Registry}

theorem forall_insert {function : SceneFunction}
    (others : ∀ found ∈ registry.functions, holds found) (own : holds function) :
    ∀ found ∈ (registry.insert function).functions, holds found := by
  intro found member
  rcases List.mem_append.mp member with before | last
  · exact others found (List.mem_filter.mp before).1
  · rw [List.mem_singleton.mp last]
    exact own

theorem forall_insertLibrary (others : ∀ found ∈ registry.functions, holds found)
    (own : ∀ function : LibraryFunction, holds function.declared) :
    ∀ found ∈ registry.insertLibrary.functions, holds found := by
  have each : ∀ function ∈ library, holds function := by
    intro function member
    obtain ⟨standard, _, rfl⟩ := List.mem_map.mp member
    exact own standard
  unfold insertLibrary
  generalize library = functions at each
  induction functions generalizing registry with
  | nil => exact others
  | cons function rest ih =>
    refine ih (forall_insert others (each function List.mem_cons_self)) ?_
    exact fun other member => each other (List.mem_cons_of_mem _ member)

theorem keepsDeclarations_insert {function : SceneFunction} (others : registry.KeepsDeclarations)
    (own : function.KeepsDeclaration) : (registry.insert function).KeepsDeclarations :=
  forall_insert others own

theorem keepsDeclarations_insertLibrary (others : registry.KeepsDeclarations) :
    registry.insertLibrary.KeepsDeclarations :=
  forall_insertLibrary others fun _ => rfl

end Insertion

end Registry

section Bodies

variable {allowed : EvaluationFault → Prop} {site : CallSite}

theorem CallSite.safe_integer (fraction : ∀ fault, allowed (.notWhole fault))
    {index : Nat} (number : (site.number index).Safe allowed) :
    (site.integer index).Safe allowed := by
  refine number.bind fun x => ?_
  split
  · exact Evaluation.safe_pure _
  · exact Evaluation.safe_throw (fraction _)

theorem CallSite.safe_ofTarget {α : Type} (object : site.objectId.Safe allowed) (missing : α)
    {property : SceneObject → Evaluation α} (each : ∀ object, (property object).Safe allowed) :
    (site.ofTarget missing property).Safe allowed := by
  have target : site.target.Safe allowed := by
    refine object.bind fun oid => Evaluation.Safe.bind (Evaluation.safe_ask _) fun objects => ?_
    dsimp only
    split
    · exact Evaluation.safe_pure _
    · exact Evaluation.Safe.bind (Evaluation.safe_step _) fun labels => Evaluation.safe_pure _
  refine target.bind fun object? => ?_
  split
  · exact each _
  · exact Evaluation.safe_pure _

/-- A function of the library asks only what it is declared to. -/
theorem LibraryFunction.safe_run (fraction : ∀ fault, allowed (.notWhole fault))
    {function : LibraryFunction}
    (answers : ∀ question : Question, question.Declared function.parameters function.isMember →
      (site.answer question).Safe allowed) :
    (function.run site).Safe allowed := by
  open Evaluation in
  cases function with
  | random =>
    refine (CallSite.safe_integer fraction (answers (.number 0) rfl)).bind fun limit => ?_
    exact (safe_step _).bind fun drawn => safe_pure _
  | timeDelta => exact (safe_ask _).bind fun _ => safe_pure _
  | elapsedTime => exact (safe_ask _).bind fun _ => safe_pure _
  | sceneVariable =>
    exact (answers (.identifier 0) rfl).bind fun name => (safe_ask _).bind fun _ => safe_pure _
  | toNumber => exact (answers (.text 0) rfl).bind fun _ => safe_pure _
  | textLength => exact (answers (.text 0) rfl).bind fun _ => safe_pure _
  | count =>
    exact (answers (.argumentId 0) rfl).bind fun oid => (safe_step _).bind fun _ => safe_pure _
  | objectX | objectY | objectAngle =>
    exact (CallSite.safe_ofTarget (answers .objectId rfl) _ fun object => safe_pure _).bind
      fun _ => safe_pure _
  | objectVariable =>
    refine (CallSite.safe_ofTarget (answers .objectId rfl) _ fun object => ?_).bind
      fun _ => safe_pure _
    exact (answers (.identifier 0) rfl).bind fun name => safe_pure _
  | toText => exact (answers (.number 0) rfl).bind fun _ => safe_pure _
  | sceneVariableText =>
    exact (answers (.identifier 0) rfl).bind fun name => (safe_ask _).bind fun _ => safe_pure _
  | newLine => exact safe_pure _
  | substring =>
    refine (answers (.text 0) rfl).bind fun text => ?_
    refine (CallSite.safe_integer fraction (answers (.number 1) rfl)).bind fun start => ?_
    exact (CallSite.safe_integer fraction (answers (.number 2) rfl)).bind fun _ => safe_pure _
  | objectName =>
    exact (CallSite.safe_ofTarget (answers .objectId rfl) _ fun object => safe_pure _).bind
      fun _ => safe_pure _
  | objectVariableText =>
    refine (CallSite.safe_ofTarget (answers .objectId rfl) _ fun object => ?_).bind
      fun _ => safe_pure _
    exact (answers (.identifier 0) rfl).bind fun name => safe_pure _

/-- An action whose questions are answered fails only by itself or with a fault it was handed. -/
theorem CustomAction.safe_run (own : allowed .failure) {may : Question → Prop}
    (answers : ∀ question : Question, may question → (site.answer question).Safe allowed)
    (registration : Nat) {action : CustomAction} (asks : action.AsksOnly may)
    {handled? : Option EvaluationFault} (handled : ∀ fault, handled? = some fault → allowed fault) :
    (action.run registration site handled?).Safe allowed := by
  induction action generalizing handled? with
  | constant value => exact Evaluation.safe_pure value
  | failure => exact Evaluation.safe_throw own
  | pass =>
    cases handled? with
    | none => exact Evaluation.safe_throw own
    | some fault => exact Evaluation.safe_throw (handled fault rfl)
  | ask question next caught ihNext ihCaught =>
    obtain ⟨asked, success, failure⟩ := asks
    rw [run]
    refine (answers question asked).bind_observe (fun answer => ?_) fun fault fine => ?_
    · exact ihNext answer (success answer) handled
    · refine ihCaught fault (failure fault) ?_
      rintro _ ⟨⟩
      exact fine
  | count next ih =>
    exact (Evaluation.safe_step _).bind fun times => ih times (asks times) handled
  | change act next ih =>
    exact (Evaluation.safe_step _).bind fun world => ih world (asks world) handled

theorem CustomAction.asksOnly_true (action : CustomAction) : action.AsksOnly fun _ => True := by
  induction action with
  | constant | failure | pass => trivial
  | ask question next caught ihNext ihCaught => exact ⟨trivial, ihNext, ihCaught⟩
  | count next ih => exact ih
  | change act next ih => exact ih

/-- A function whose every question is answered fails by itself or with what the answers are. -/
theorem Body.safe_run (own : allowed .failure)
    (fraction : ∀ fault, allowed (.notWhole fault))
    (answers : ∀ question : Question, (site.answer question).Safe allowed) (body : Body) :
    (body.run site).Safe allowed := by
  cases body with
  | library function =>
    exact LibraryFunction.safe_run fraction fun question _ => answers question
  | custom registration action =>
    refine Evaluation.Safe.bind ?_ fun value => Evaluation.safe_step _
    exact CustomAction.safe_run own (fun question _ => answers question) registration
      action.asksOnly_true nofun

/-- A function that keeps its declaration fails by itself or with what answers its questions. -/
theorem SceneFunction.KeepsDeclaration.safe_run {function : SceneFunction}
    (keeps : function.KeepsDeclaration) (own : allowed .failure)
    (fraction : ∀ fault, allowed (.notWhole fault))
    (answers : ∀ question : Question,
      question.Declared function.parameters function.isMember →
      (site.answer question).Safe allowed) :
    (function.body.run site).Safe allowed := by
  obtain ⟨name, returns, parameters, isMember, body⟩ := function
  cases body with
  | library own =>
    cases keeps
    exact LibraryFunction.safe_run fraction answers
  | custom registration action =>
    refine Evaluation.Safe.bind ?_ fun value => Evaluation.safe_step _
    exact CustomAction.safe_run own answers registration keeps nofun

end Bodies
end SceneFormula
