import SceneFormula.Proofs.Soundness

set_option autoImplicit false

namespace SceneFormula

namespace Evaluation

/-- A way to compare two evaluations. -/
abbrev Relation := (α : Type) → Evaluation α → Evaluation α → Prop

/-- Whether evaluations in a row compare if each of them does. -/
structure Composes (P : Relation) : Prop where
  pure : ∀ {α : Type} (value : α), P α (Pure.pure value) (Pure.pure value)
  throw : ∀ {α : Type} (fault : EvaluationFault), P α (MonadExcept.throw fault)
    (MonadExcept.throw fault)
  bind : ∀ {α β : Type} {first second : Evaluation α} {next after : α → Evaluation β},
    P α first second → (∀ value, P β (next value) (after value)) →
      P β (first >>= next) (second >>= after)

/-- Whether what evaluations read of a scene, but for its objects, compares with itself. -/
structure Reads (P : Relation) : Prop extends Composes P where
  vars : P _ (ask (·.vars)) (ask (·.vars))
  timeDelta : P _ (ask (·.timeDelta)) (ask (·.timeDelta))
  elapsedTime : P _ (ask (·.elapsedTime)) (ask (·.elapsedTime))

end Evaluation

/-- The objects concerned that have the identifier of a name at a place. -/
def Evaluation.concerned (place : Place) (name : Text) : Evaluation (List Nat) := do
  let oid ← step (·.identifyAt place name)
  step (·.pick oid)

/-- Whether what the functions of the library ask of two arguments compares. -/
structure Access.Compares (P : Evaluation.Relation) (first second : Access) : Prop where
  plain : first.plain = second.plain
  concerned : P _ (Evaluation.concerned first.place first.plain)
    (Evaluation.concerned second.place second.plain)
  number : P _ first.number second.number
  text : P _ first.text second.text

/-- Whether what the functions of the library ask of two calls compares. -/
structure CallSite.Compares (P : Evaluation.Relation) (first second : CallSite) : Prop where
  target : P _ first.target second.target
  arguments : List.Forall₂ (Access.Compares P) first.arguments second.arguments

section Library

open Evaluation

variable {P : Relation} {first second : CallSite}

/-- What is asked of an argument compares for two calls if it does for their arguments. -/
theorem CallSite.compares_argument {R : Access → Access → Prop} {α : Type}
    (composes : Composes P) (arguments : List.Forall₂ R first.arguments second.arguments)
    (index : Nat) {read : Access → Evaluation α}
    (each : ∀ x y, R x y → P _ (read x) (read y)) :
    P _ (first.argument index >>= read) (second.argument index >>= read) := by
  rw [argument, argument]
  have size := arguments.length_eq
  by_cases inside : index < first.arguments.length
  · have same := arguments.get inside (size ▸ inside)
    rw [List.getElem?_eq_getElem inside, List.getElem?_eq_getElem (size ▸ inside)]
    simpa using each _ _ same
  · rw [List.getElem?_eq_none (by omega), List.getElem?_eq_none (by omega)]
    exact composes.throw .noArgument

namespace CallSite.Compares

variable (compares : first.Compares P second) (composes : Composes P) (index : Nat)
include compares composes

theorem number : P _ (first.number index) (second.number index) :=
  compares_argument composes compares.arguments index fun _ _ same => same.number

theorem text : P _ (first.text index) (second.text index) :=
  compares_argument composes compares.arguments index fun _ _ same => same.text

theorem identifier : P _ (first.identifier index) (second.identifier index) :=
  compares_argument composes compares.arguments index fun _ _ same =>
    same.plain ▸ composes.pure _

theorem concerned : P _ (first.argumentId index >>= fun oid => step (·.pick oid))
    (second.argumentId index >>= fun oid => step (·.pick oid)) := by
  rw [argumentId, argumentId, bind_assoc, bind_assoc]
  exact compares_argument composes compares.arguments index fun _ _ same => same.concerned

theorem integer : P _ (first.integer index) (second.integer index) := by
  refine composes.bind (compares.number composes index) fun x => ?_
  split
  · exact composes.pure _
  · exact composes.throw _

omit index

theorem ofTarget {α : Type} (missing : α) {property other : SceneObject → Evaluation α}
    (each : ∀ object, P _ (property object) (other object)) :
    P _ (first.ofTarget missing property) (second.ofTarget missing other) := by
  refine composes.bind compares.target fun object? => ?_
  cases object? with
  | none => exact composes.pure missing
  | some object => exact each object

end CallSite.Compares

/-- The functions of the library compare for two calls that do, but for drawing a number. -/
theorem LibraryFunction.compares_run (reads : Reads P) (compares : first.Compares P second)
    {function : LibraryFunction} (quiet : function ≠ .random) :
    P _ (function.run first) (function.run second) := by
  have composes := reads.toComposes
  have done {α : Type} (value : α) := composes.pure value
  cases function with
  | random => exact absurd rfl quiet
  | timeDelta => exact composes.bind reads.timeDelta fun _ => done _
  | elapsedTime => exact composes.bind reads.elapsedTime fun _ => done _
  | sceneVariable | sceneVariableText =>
    exact composes.bind (compares.identifier composes 0) fun name =>
      composes.bind reads.vars fun _ => done _
  | toNumber | textLength => exact composes.bind (compares.text composes 0) fun _ => done _
  | count =>
    have concerned := composes.bind (compares.concerned composes 0) fun labels =>
      done (Value.number (Double.ofInt labels.length))
    rw [bind_assoc, bind_assoc] at concerned
    exact concerned
  | objectX | objectY | objectAngle | objectName =>
    exact composes.bind (compares.ofTarget composes _ fun _ => done _) fun _ => done _
  | objectVariable | objectVariableText =>
    refine composes.bind (compares.ofTarget composes _ fun object => ?_) fun _ => done _
    exact composes.bind (compares.identifier composes 0) fun name => done _
  | toText => exact composes.bind (compares.number composes 0) fun _ => done _
  | newLine => exact done _
  | substring =>
    exact composes.bind (compares.text composes 0) fun text =>
      composes.bind (compares.integer composes 1) fun start =>
        composes.bind (compares.integer composes 2) fun length => done _

end Library

def Plan.call? : Plan → Nat → Option Instruction
  | .formula _ calls, index => calls[index]?
  | .text segments, index => segments[index]?.bind Segment.call?

theorem Plan.mem_calls_of_call? {plan : Plan} {index : Nat} {call : Instruction}
    (found : plan.call? index = some call) : call ∈ plan.calls := by
  cases plan with
  | formula compiled calls => exact List.mem_of_getElem? found
  | text segments =>
    obtain ⟨segment, among, known⟩ := Option.bind_eq_some_iff.mp found
    exact List.mem_filterMap.mpr ⟨segment, List.mem_of_getElem? among, known⟩

/-- Whether the values of a plan at two places compare. -/
def Plan.Compares (P : Evaluation.Relation) (who : Participants) (here there : Place)
    (plan : Plan) : Prop :=
  ∀ plain, P _ (plan.number who here plain) (plan.number who there plain) ∧
    P _ (plan.content who here plain) (plan.content who there plain)

section Plans

open Evaluation

variable {P : Relation} {who : Participants} {here there : Place}

/-- The arguments of a call are related at two places if each of them is at its own. -/
theorem Argument.forall₂_accesses {R : Access → Access → Prop} {first : Nat}
    {arguments : List Argument}
    (each : ∀ index argument, arguments[index]? = some argument →
      R (access who ((first + index) :: here) argument)
        (access who ((first + index) :: there) argument)) :
    List.Forall₂ R (accesses who here first arguments) (accesses who there first arguments) := by
  induction arguments generalizing first with
  | nil => exact .nil
  | cons argument rest ih =>
    rw [accesses, accesses]
    refine .cons (each 0 argument rfl) (ih fun index other found => ?_)
    rw [Nat.add_assoc, Nat.add_comm 1 index]
    exact each (index + 1) other found

variable (composes : Composes P)
include composes

theorem Value.compares_returned (kind : ValueKind) (value : Value) :
    P _ (value.returned kind) (value.returned kind) := by
  cases kind with
  | text => exact composes.pure _
  | number =>
    have number : P _ value.asNumber value.asNumber := by
      unfold asNumber
      split
      · exact composes.pure _
      · split
        · exact composes.pure _
        · exact composes.throw _
    exact composes.bind number fun x => composes.pure _

theorem Compiled.compares_evaluate (compiled : Compiled) (values : List Value) :
    P _ (compiled.evaluate values) (compiled.evaluate values) := by
  unfold evaluate
  split
  · exact composes.pure _
  · exact composes.throw _

theorem Instruction.compares_values {calls : List Instruction} {first : Nat}
    (each : ∀ (index : Nat) (call : Instruction), calls[index]? = some call →
      P _ (call.value who ((first + index) :: here)) (call.value who ((first + index) :: there))) :
    P _ (values who here first calls) (values who there first calls) := by
  induction calls generalizing first with
  | nil => exact composes.pure []
  | cons call rest ih =>
    have others : P _ (values who here (first + 1) rest) (values who there (first + 1) rest) := by
      refine ih fun index other found => ?_
      rw [Nat.add_assoc, Nat.add_comm 1 index]
      exact each (index + 1) other found
    rw [values, values]
    exact composes.bind (each 0 call rfl) fun value =>
      composes.bind (value.compares_returned composes _) fun x =>
        composes.bind others fun xs => composes.pure _

theorem Segment.compares_joined {segments : List Segment} {first : Nat}
    (each : ∀ index call, segments[index]?.bind Segment.call? = some call →
      P _ (call.value who ((first + index) :: here)) (call.value who ((first + index) :: there))) :
    P _ (joined who here first segments) (joined who there first segments) := by
  induction segments generalizing first with
  | nil => exact composes.pure []
  | cons segment rest ih =>
    have own : P _ (segment.content who (first :: here))
        (segment.content who (first :: there)) := by
      cases segment with
      | literal text => exact composes.pure text
      | call call =>
        rw [content, content]
        exact composes.bind (each 0 call rfl) fun _ => composes.pure _
    have others : P _ (joined who here (first + 1) rest) (joined who there (first + 1) rest) := by
      refine ih fun index call found => ?_
      rw [Nat.add_assoc, Nat.add_comm 1 index]
      exact each (index + 1) call found
    rw [joined, joined]
    exact composes.bind own fun front => composes.bind others fun _ => composes.pure _

theorem Plan.compares_of_calls {plan : Plan}
    (each : ∀ index call, plan.call? index = some call →
      P _ (call.value who (index :: here)) (call.value who (index :: there))) :
    plan.Compares P who here there := by
  intro plain
  cases plan with
  | formula compiled calls =>
    refine ⟨?_, by rw [content, content]; exact composes.throw _⟩
    rw [number, number]
    refine composes.bind (Instruction.compares_values composes fun index call found => ?_)
      (compiled.compares_evaluate composes)
    rw [Nat.zero_add]
    exact each index call found
  | text segments =>
    refine ⟨by rw [number, number]; exact composes.throw _, ?_⟩
    rw [content, content]
    refine Segment.compares_joined composes fun index call found => ?_
    rw [Nat.zero_add]
    exact each index call found

theorem Binding.compares_values {bindings : List Binding}
    (each : ∀ binding ∈ bindings, P _ (binding.instruction.value who binding.place)
      (binding.instruction.value who binding.place)) :
    P _ (values who bindings) (values who bindings) := by
  induction bindings with
  | nil => exact composes.pure []
  | cons binding rest ih =>
    have others := ih fun other member => each other (List.mem_cons_of_mem _ member)
    rw [values_cons]
    exact composes.bind (each binding List.mem_cons_self) fun value =>
      composes.bind (value.compares_returned composes _) fun x =>
        composes.bind others fun xs => composes.pure _

/-- The number of an expression compares with itself if its bindings do. -/
theorem Expression.compares_number {expression : Expression}
    (each : ∀ binding ∈ expression.bindings, P _ (binding.instruction.value who binding.place)
      (binding.instruction.value who binding.place)) :
    P _ (expression.number who) (expression.number who) := by
  unfold number
  split
  · exact composes.throw _
  · exact composes.throw _
  · exact composes.bind (Binding.compares_values composes each)
      (Compiled.compares_evaluate composes _)

theorem Expression.compares_content {expression : Expression}
    (each : ∀ plan, expression.plan? = some plan →
      plan.Compares P who expression.place expression.place) :
    P _ (expression.content who) (expression.content who) := by
  unfold content
  cases held : expression.plan? with
  | none => exact composes.throw _
  | some plan => exact (each plan held expression.plain).2

end Plans

namespace Plan

variable {plan : Plan} {call : Instruction}

theorem sizeOf_lt_of_mem_calls (member : call ∈ plan.calls) : sizeOf call < sizeOf plan := by
  cases plan with
  | formula compiled calls =>
    have below := List.sizeOf_lt_of_mem (show call ∈ calls from member)
    rw [formula.sizeOf_spec]
    omega
  | text segments =>
    obtain ⟨segment, among, known⟩ := List.mem_filterMap.mp member
    have below := List.sizeOf_lt_of_mem among
    cases segment with
    | literal text => cases known
    | call own =>
      cases known
      rw [Segment.call.sizeOf_spec] at below
      rw [text.sizeOf_spec]
      omega

theorem sizeOf_lt_of_mem_arguments {argument : Argument} {inner : Plan}
    (among : argument ∈ call.arguments) (held : argument.plan? = some inner) :
    sizeOf inner < sizeOf call := by
  obtain ⟨function, source, object?, arguments⟩ := call
  have below := List.sizeOf_lt_of_mem (show argument ∈ arguments from among)
  cases argument with
  | name plain => cases held
  | prepared plain plan =>
    cases held
    rw [Argument.prepared.sizeOf_spec] at below
    rw [Instruction.mk.sizeOf_spec]
    omega

/-- Induction over what is nested in plans: what holds of a plan as soon as it holds of the plans of
its calls' arguments holds of every plan. -/
theorem nested_induction {motive : Plan → Prop}
    (step : ∀ plan, (∀ call ∈ plan.calls, ∀ argument ∈ call.arguments, ∀ inner,
      argument.plan? = some inner → motive inner) → motive plan)
    (plan : Plan) : motive plan := by
  induction size : sizeOf plan using Nat.strongRecOn generalizing plan with
  | ind size ih =>
    subst size
    refine step plan fun call member argument among inner held => ih _ ?_ inner rfl
    exact Nat.lt_trans (sizeOf_lt_of_mem_arguments among held) (sizeOf_lt_of_mem_calls member)

end Plan

end SceneFormula
