import SceneFormula.Formula.Standard
import SceneFormula.Proofs.Authored
import SceneFormula.Proofs.Completions
import SceneFormula.Proofs.Steadiness

set_option autoImplicit false

namespace SceneFormula

mutual

def Instruction.completions (who : Participants) (place : Place) : Instruction → Completions
  | .mk function source object? arguments =>
    function.body.completions ⟨source, object?, place, Argument.accesses who place 1 arguments, who⟩
      (Argument.completionsOf who place 1 arguments)

/-- What the arguments of a call at a place complete, counted from an index. -/
def Argument.completionsOf (who : Participants) (place : Place) (index : Nat) :
    List Argument → Arguments
  | [] => []
  | argument :: rest =>
    Argument.completions who (index :: place) argument ::
      Argument.completionsOf who place (index + 1) rest

/-- What an argument completes when it is read as a value of a kind. -/
def Argument.completions (who : Participants) (place : Place) : Argument → ValueKind → Completions
  | .name _, _ => .nothing
  | .prepared _ plan, kind => Plan.completions who place plan kind

/-- What a plan completes when it is read as a value of a kind. -/
def Plan.completions (who : Participants) (place : Place) : Plan → ValueKind → Completions
  | .formula _ calls, .number => Stage.row (Instruction.stages who place 0 calls)
  | .text segments, .text => Stage.row (Segment.stages who place 0 segments)
  | .formula .., .text | .text _, .number => .nothing

/-- The calls of a formula as stages, counted from an index. -/
def Instruction.stages (who : Participants) (place : Place) (index : Nat) :
    List Instruction → List Stage
  | [] => []
  | call :: rest =>
    ⟨(Instruction.value who (index :: place) call >>=
        Value.returned call.function.returns).behind?,
      Instruction.completions who (index :: place) call⟩ ::
        Instruction.stages who place (index + 1) rest

/-- The calls of a text expression as stages, counted from an index. -/
def Segment.stages (who : Participants) (place : Place) (index : Nat) : List Segment → List Stage
  | [] => []
  | .literal _ :: rest => Segment.stages who place (index + 1) rest
  | .call call :: rest =>
    ⟨(Instruction.value who (index :: place) call).behind?,
      Instruction.completions who (index :: place) call⟩ ::
        Segment.stages who place (index + 1) rest

end

/-- Whether all functions that a call and its arguments call, at any depth, are of the library or
plain. -/
def Instruction.Plain (call : Instruction) : Prop :=
  ∀ function ∈ call.functions, function.body.Plain

/-- Whether all functions that a plan calls, at any depth, are of the library or plain. -/
def Plan.Plain (plan : Plan) : Prop :=
  ∀ function ∈ plan.functions, function.body.Plain

namespace Binding

def value (who : Participants) (binding : Binding) : Evaluation Value := do
  (← binding.instruction.value who binding.place).returned binding.instruction.function.returns

def completions (who : Participants) (binding : Binding) : Completions :=
  binding.instruction.completions who binding.place

/-- A binding as a stage. -/
def stage (who : Participants) (binding : Binding) : Stage :=
  ⟨(binding.value who).behind?, binding.completions who⟩

end Binding

open Evaluation

theorem Argument.getElem?_completionsOf (who : Participants) (place : Place) (first index : Nat)
    (arguments : List Argument) :
    (completionsOf who place first arguments)[index]? =
      arguments[index]?.map (completions who ((first + index) :: place)) := by
  induction arguments generalizing first index with
  | nil => simp [completionsOf]
  | cons argument rest ih =>
    cases index with
    | zero => simp [completionsOf]
    | succ index =>
      rw [completionsOf, List.getElem?_cons_succ, List.getElem?_cons_succ, ih, Nat.add_right_comm]
      rfl

theorem Instruction.completions_eq (who : Participants) (place : Place) (call : Instruction) :
    call.completions who place = call.function.body.completions (call.site who place)
      (Argument.completionsOf who place 1 call.arguments) := by
  obtain ⟨function, source, object?, arguments⟩ := call
  rw [completions]
  rfl

/-- Whether a plan completes what is told of it. -/
def Plan.Completes (plan : Plan) : Prop :=
  ∀ who place plain, (plan.number who place plain).Completes (plan.completions who place .number) ∧
    (plan.content who place plain).Completes (plan.completions who place .text)

variable {who : Participants} {place : Place}

theorem Argument.completes_access {argument : Argument}
    (inner : ∀ plan, argument.plan? = some plan → plan.Completes) :
    (access who place argument).number.Completes (argument.completions who place .number) ∧
      (access who place argument).text.Completes (argument.completions who place .text) := by
  cases argument with
  | name plain => exact ⟨completes_throw _, completes_throw _⟩
  | prepared plain plan => exact inner plan rfl who place plain

theorem Instruction.completes_value {call : Instruction} (plain : call.function.body.Plain)
    (inner : ∀ argument ∈ call.arguments, ∀ plan, argument.plan? = some plan → plan.Completes) :
    (call.value who place).Completes (call.completions who place) := by
  have reads {α : Type} {read : Access → Evaluation α} {kind : ValueKind} (index : Nat)
      (each : ∀ argument ∈ call.arguments, ∀ place,
        (read (Argument.access who place argument)).Completes
          (argument.completions who place kind)) :
      ((call.site who place).argument index >>= read).Completes
        ((Argument.completionsOf who place 1 call.arguments).completions index kind) := by
    rw [CallSite.argument, Arguments.completions, site, Argument.getElem?_accesses,
      Argument.getElem?_completionsOf]
    cases found : call.arguments[index]? with
    | none => exact completes_throw _
    | some argument => exact each argument (List.mem_of_getElem? found) _
  rw [value_eq_run, completions_eq]
  refine Body.completes_run plain ⟨fun index => ?_, fun index => ?_⟩
  · exact reads index fun argument among _ => (Argument.completes_access (inner argument among)).1
  · exact reads index fun argument among _ => (Argument.completes_access (inner argument among)).2

theorem Value.completes_returned (kind : ValueKind) (value : Value) :
    (value.returned kind).Completes .nothing := by
  cases kind with
  | text => exact completes_pure _
  | number =>
    have number : value.asNumber.Completes .nothing := by
      unfold asNumber
      split
      · exact completes_pure _
      · split
        · exact completes_pure _
        · exact completes_throw _
    exact number.bind_quiet fun x => completes_pure _

theorem Compiled.completes_evaluate (compiled : Compiled) (values : List Value) :
    (compiled.evaluate values).Completes .nothing := by
  unfold evaluate
  split
  · exact completes_pure _
  · exact completes_throw _

theorem Compiled.runIn_evaluate (compiled : Compiled) (values : List Value) (scene : Scene) :
    ((compiled.evaluate values).runIn scene).2 = scene := by
  unfold evaluate
  split <;> rfl

namespace Binding

theorem values_cons_eq (who : Participants) (binding : Binding) (rest : List Binding) :
    values who (binding :: rest) = do
      let x ← binding.value who
      let xs ← values who rest
      return x :: xs := by
  rw [values_cons, value, bind_assoc]

theorem completes_value {binding : Binding}
    (own : (binding.instruction.value who binding.place).Completes (binding.completions who)) :
    (binding.value who).Completes (binding.completions who) :=
  own.bind_quiet (Value.completes_returned _)

theorem completes_values {bindings : List Binding}
    (each : ∀ binding ∈ bindings, (binding.value who).Completes (binding.completions who)) :
    (values who bindings).Completes (Stage.row (bindings.map (stage who))) := by
  induction bindings with
  | nil => exact completes_pure []
  | cons binding rest ih =>
    rw [values_cons_eq]
    refine (each binding List.mem_cons_self).bind fun x => ?_
    exact (ih fun other among => each other (List.mem_cons_of_mem _ among)).bind_quiet fun xs =>
      completes_pure _

end Binding

theorem Instruction.stages_eq (who : Participants) (place : Place) (compiled : Compiled)
    (calls : List Instruction) :
    stages who place 0 calls =
      ((Plan.formula compiled calls).bindings place).map (Binding.stage who) := by
  rw [Plan.bindings]
  generalize 0 = first
  induction calls generalizing first with
  | nil => rfl
  | cons call rest ih =>
    rw [List.zipIdx_cons, List.map_cons, List.map_cons, stages, ih]
    rfl

theorem Segment.completes_joined {segments : List Segment} {first : Nat}
    (each : ∀ call, .call call ∈ segments → ∀ place,
      (call.value who place).Completes (call.completions who place)) :
    (joined who place first segments).Completes (Stage.row (stages who place first segments)) := by
  induction segments generalizing first with
  | nil => exact completes_pure []
  | cons segment rest ih =>
    have others (front : Text) : (do
        let back ← joined who place (first + 1) rest
        return front ++ back).Completes (Stage.row (stages who place (first + 1) rest)) :=
      (ih fun call among => each call (List.mem_cons_of_mem _ among)).bind_quiet fun _ =>
        completes_pure _
    rw [joined]
    cases segment with
    | literal text => exact (completes_pure text).bind others
    | call call =>
      rw [content, bind_assoc]
      exact (each call List.mem_cons_self _).bind fun value => others value.joined

theorem Plan.completes_of_plain {plan : Plan} (plain : plan.Plain) : plan.Completes := by
  induction plan using Plan.nested_induction with
  | step plan ih =>
    have each (call : Instruction) (member : call ∈ plan.calls) (who : Participants)
        (place : Place) : (call.value who place).Completes (call.completions who place) := by
      have own (function : SceneFunction) (among : function ∈ call.functions) :
          function.body.Plain := plain function (mem_functions_iff.mpr ⟨call, member, among⟩)
      refine Instruction.completes_value (own _ (Instruction.mem_functions_iff.mpr (.inl rfl))) ?_
      intro argument among inner held
      refine ih call member argument among inner held fun function nested => own function ?_
      exact Instruction.mem_functions_iff.mpr (.inr ⟨argument, among, inner, held, nested⟩)
    intro who place text
    cases plan with
    | formula compiled calls =>
      rw [number, content, ← values_bindings who place compiled calls, completions, completions,
        Instruction.stages_eq who place compiled calls]
      refine ⟨?_, completes_throw _⟩
      refine (Binding.completes_values fun binding among => ?_).bind_quiet
        compiled.completes_evaluate
      refine Binding.completes_value (each _ ?_ who _)
      change binding.instruction ∈ calls
      rw [← map_instruction_bindings place compiled calls]
      exact List.mem_map_of_mem among
    | text segments =>
      rw [number, content, completions, completions]
      refine ⟨completes_throw _, Segment.completes_joined fun call among => ?_⟩
      exact each call (List.mem_filterMap.mpr ⟨_, among, rfl⟩) who

theorem Instruction.completes_of_plain {call : Instruction} (plain : call.Plain) :
    (call.value who place).Completes (call.completions who place) := by
  refine completes_value (plain _ (mem_functions_iff.mpr (.inl rfl))) ?_
  intro argument among inner held
  refine Plan.completes_of_plain fun function nested => plain function ?_
  exact mem_functions_iff.mpr (.inr ⟨argument, among, inner, held, nested⟩)

theorem Plan.plain_of_mem_calls {plan : Plan} (plain : plan.Plain) {call : Instruction}
    (member : call ∈ plan.calls) : call.Plain := fun function among =>
  plain function (mem_functions_iff.mpr ⟨call, member, among⟩)

theorem Plan.plain_of_prepare {functions : Registry} {engine : FormulaEngine} {kind : ValueKind}
    {text : Text} {plan : Plan} (plain : ∀ function ∈ functions.functions, function.body.Plain)
    (success : (prepare functions engine kind text).result = .ok plan) : plan.Plain := by
  intro function own
  obtain ⟨call, within, rfl⟩ := mem_functions_iff_within.mp own
  obtain ⟨_, _, _, _, binds⟩ := exists_binds_of_within success within
  exact plain _ (List.mem_of_find?_eq_some binds.resolved)

theorem Binding.values_append (who : Participants) (front back : List Binding) :
    values who (front ++ back) = do
      let xs ← values who front
      let ys ← values who back
      return xs ++ ys := List.mapM_append

theorem Binding.runIn_values_of_error {front back : List Binding} {binding : Binding}
    {scene mid last : Scene} {given : List Value} {fault : EvaluationFault}
    (passed : (values who front).runIn scene = (.ok given, mid))
    (failed : (binding.value who).runIn mid = (.error fault, last)) :
    (values who (front ++ binding :: back)).runIn scene = (.error fault, last) := by
  rw [values_append, runIn_bind, passed, values_cons_eq]
  dsimp only
  rw [runIn_bind, runIn_bind, failed]

theorem Segment.joined_append (who : Participants) (place : Place) (first : Nat)
    (front back : List Segment) :
    joined who place first (front ++ back) = do
      let one ← joined who place first front
      let other ← joined who place (first + front.length) back
      return one ++ other := by
  induction front generalizing first with
  | nil => simp [joined]
  | cons segment front ih =>
    rw [List.cons_append, joined, joined, ih, List.length_cons, Nat.add_right_comm first,
      Nat.add_assoc first]
    simp only [bind_assoc, pure_bind, List.append_assoc]

theorem Segment.runIn_joined_of_error {front back : List Segment} {call : Instruction}
    {scene mid last : Scene} {text : Text} {fault : EvaluationFault}
    (passed : (joined who place 0 front).runIn scene = (.ok text, mid))
    (failed : (call.value who (front.length :: place)).runIn mid = (.error fault, last)) :
    (joined who place 0 (front ++ .call call :: back)).runIn scene = (.error fault, last) := by
  rw [joined_append, runIn_bind, passed, joined, Nat.zero_add, content]
  dsimp only
  rw [runIn_bind, runIn_bind, runIn_bind, failed]

namespace Expression

/-- Whether an expression with a formula runs its bindings from left to right, each once. -/
structure RunsBindings (who : Participants) (compiled : Compiled) (expression : Expression) :
    Prop where
  completes : (expression.number who).Completes
    (Stage.row (expression.bindings.map (Binding.stage who)))
  computes : ∀ {scene last : Scene} {values : List Value},
    (Binding.values who expression.bindings).runIn scene = (.ok values, last) →
      (expression.number who).runIn scene = (((compiled.evaluate values).runIn last).1, last) ∧
        last.completed = scene.completed ++
          expression.bindings.flatMap fun binding => (binding.completions who).whole
  stops : ∀ {front back : List Binding} {binding : Binding} {scene mid last : Scene}
    {values : List Value} {fault : EvaluationFault},
    expression.bindings = front ++ binding :: back →
    (Binding.values who front).runIn scene = (.ok values, mid) →
    (binding.value who).runIn mid = (.error fault, last) →
      (expression.number who).runIn scene = (.error fault, last) ∧
        last.completed = scene.completed ++
          (front.flatMap fun binding => (binding.completions who).whole) ++
            (binding.completions who).upTo mid

/-- Whether an expression of segments runs its calls from left to right, each once. -/
structure RunsSegments (who : Participants) (segments : List Segment) (expression : Expression) :
    Prop where
  completes : (expression.content who).Completes
    (Stage.row (Segment.stages who expression.place 0 segments))
  stops : ∀ {front back : List Segment} {call : Instruction} {scene mid last : Scene}
    {text : Text} {fault : EvaluationFault}, segments = front ++ .call call :: back →
    (Segment.joined who expression.place 0 front).runIn scene = (.ok text, mid) →
    (call.value who (front.length :: expression.place)).runIn mid = (.error fault, last) →
      (expression.content who).runIn scene = (.error fault, last) ∧
        last.completed = scene.completed ++
          (Stage.row (Segment.stages who expression.place 0 front)).whole ++
            (call.completions who (front.length :: expression.place)).upTo mid

theorem runsBindings_of_plain {compiled : Compiled} {calls : List Instruction}
    {expression : Expression} (prepared : expression.plan? = some (.formula compiled calls))
    (plain : ∀ binding ∈ expression.bindings, binding.instruction.Plain) (who : Participants) :
    expression.RunsBindings who compiled := by
  have each (binding : Binding) (among : binding ∈ expression.bindings) :
      (binding.value who).Completes (binding.completions who) :=
    Binding.completes_value (Instruction.completes_of_plain (plain binding among))
  have evaluation : expression.number who =
      Binding.values who expression.bindings >>= compiled.evaluate := by
    rw [number, prepared]
  have wholes (bindings : List Binding) : (Stage.row (bindings.map (Binding.stage who))).whole =
      bindings.flatMap fun binding => (binding.completions who).whole := by
    rw [Stage.whole_row, List.flatMap_map]
    rfl
  have all := Binding.completes_values each
  refine ⟨?_, fun passed => ⟨?_, ?_⟩, fun split passed failed => ⟨?_, ?_⟩⟩
  · rw [evaluation]
    exact all.bind_quiet compiled.completes_evaluate
  · rw [evaluation, runIn_bind, passed]
    exact Prod.ext rfl (compiled.runIn_evaluate _ _)
  · rw [all.completed_of_ok passed, wholes]
  · rw [evaluation, split, runIn_bind, Binding.runIn_values_of_error passed failed]
  · rw [split] at each
    have before := Binding.completes_values fun binding among =>
      each binding (List.mem_append_left _ among)
    have own := (each _ (List.mem_append_right _ List.mem_cons_self)).upTo
    rw [← wholes, ← before.completed_of_ok passed, ← own, failed]

theorem runsSegments_of_plain {segments : List Segment} {expression : Expression}
    (prepared : expression.plan? = some (.text segments)) (plain : (Plan.text segments).Plain)
    (who : Participants) : expression.RunsSegments who segments := by
  have each (call : Instruction) (among : .call call ∈ segments) (place : Place) :
      (call.value who place).Completes (call.completions who place) := by
    refine Instruction.completes_of_plain (Plan.plain_of_mem_calls plain ?_)
    exact List.mem_filterMap.mpr ⟨_, among, rfl⟩
  have evaluation : expression.content who = Segment.joined who expression.place 0 segments := by
    rw [content, prepared]
    dsimp only
    rw [Plan.content]
  refine ⟨?_, ?_⟩
  · rw [evaluation]
    exact Segment.completes_joined each
  · intro front back call scene mid last text fault split passed failed
    refine ⟨by rw [evaluation, split, Segment.runIn_joined_of_error passed failed], ?_⟩
    rw [split] at each
    have before : (Segment.joined who expression.place 0 front).Completes _ :=
      Segment.completes_joined fun call among => each call (List.mem_append_left _ among)
    have own := (each call (List.mem_append_right _ List.mem_cons_self)
      (front.length :: expression.place)).upTo mid
    rw [← before.completed_of_ok passed, ← own, failed]

/-- An expression that is prepared with plain functions runs its calls in the order in which they
are written, each once: those of a formula whatever it makes of their values, and those of a text
expression. The first that fails ends the evaluation with its fault. -/
theorem runs_in_order {functions : Registry} {engine : FormulaEngine} {expression : Expression}
    (unprepared : expression.plan? = none)
    (plain : ∀ function ∈ functions.functions, function.body.Plain)
    (added : ∀ binding ∈ expression.added, binding.instruction.Plain) (who : Participants) :
    let prepared := (expression.prepare functions engine).2.1
    ∀ plan, prepared.plan? = some plan →
      expression.plain.Carries (plan.calls.map Instruction.source) ∧
      (∀ compiled calls, plan = .formula compiled calls →
        prepared.bindings.map Binding.instruction =
          expression.added.map Binding.instruction ++ calls ∧
        prepared.RunsBindings who compiled) ∧
      ∀ segments, plan = .text segments → prepared.RunsSegments who segments := by
  intro prepared plan held
  obtain ⟨kind, known⟩ : ∃ kind, (expression.prepare functions engine).1.kind? = some kind := by
    rw [← kind?_prepare, Expression.kind?, held]
    exact ⟨_, rfl⟩
  obtain ⟨own, success, same⟩ := prepare_of_kind unprepared known
  obtain rfl : own = plan :=
    Option.some.inj ((congrArg Expression.plan? same).symm.trans held)
  have mine := Plan.plain_of_prepare plain success
  refine ⟨Plan.carries_of_prepare success, ?_, ?_⟩
  · rintro compiled calls rfl
    have bindings : prepared.bindings =
        expression.added ++ Plan.bindings expression.place (.formula compiled calls) :=
      congrArg Expression.bindings same
    refine ⟨?_, runsBindings_of_plain held (fun binding among => ?_) who⟩
    · rw [bindings, List.map_append, Plan.map_instruction_bindings]
    · rw [bindings] at among
      obtain early | late := List.mem_append.mp among
      · exact added binding early
      · refine Plan.plain_of_mem_calls mine ?_
        change binding.instruction ∈ calls
        rw [← Plan.map_instruction_bindings expression.place compiled calls]
        exact List.mem_map_of_mem late
  · rintro segments rfl
    exact runsSegments_of_plain held mine who

/-- A function that returns the number of its argument. -/
def echo : SceneFunction :=
  ⟨Text.lit "P", .number, [.expression], false, .custom 0 (.number 0)⟩

/-- A product with zero and a length have their calls run as other formulas do. -/
theorem runs_in_order_product :
    let functions := Registry.empty.insertLibrary.insert echo
    let expression := ofText [] (Text.lit "P(P(1))*0 + StrLength(ToString(P(2)))")
    let prepared := (expression.prepare functions .standard).2.1
    ∃ compiled calls, prepared.plan? = some (.formula compiled calls) ∧
      expression.plain.Carries (calls.map Instruction.source) ∧
      prepared.RunsBindings ⟨none, none⟩ compiled ∧
      (prepared.bindings.map fun binding => (binding.completions ⟨none, none⟩).whole) =
        [[Text.lit "P(1)", Text.lit "P(P(1))"], [Text.lit "P(2)"]] := by
  intro functions expression prepared
  have plain : ∀ function ∈ functions.functions, function.body.Plain :=
    Registry.forall_insert (Registry.forall_insertLibrary (List.forall_mem_nil _) fun _ => trivial)
      (.reply (.number 0) .number)
  have kind : prepared.kind? = some .number := by decide +kernel
  obtain ⟨plan, held, own⟩ := Option.map_eq_some_iff.mp kind
  have order := runs_in_order rfl plain (List.forall_mem_nil _) ⟨none, none⟩ plan held
  cases plan with
  | formula compiled calls =>
    exact ⟨compiled, calls, held, order.1, (order.2.1 compiled calls rfl).2, by decide +kernel⟩
  | text segments => cases own

end Expression

end SceneFormula
