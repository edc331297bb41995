import SceneFormula.Proofs.Soundness
import SceneFormula.Proofs.Usage

set_option autoImplicit false

namespace SceneFormula

namespace EvaluationFault

theorem ne_valueCount_of_allowed {breaks : Text → Prop} {fault : EvaluationFault}
    (allowed : fault.Allowed True breaks)
    (expected given : Nat) : fault ≠ .run (.valueCount expected given) := by
  rintro rfl
  exact allowed

end EvaluationFault

/-- A formula that has not as many slots as values computes nothing. -/
theorem Compiled.runIn_evaluate_of_ne {compiled : Compiled} {values : List Value}
    (some_values : values ≠ []) (count : values.length ≠ compiled.slotCount) (scene : Scene) :
    (compiled.evaluate values).runIn scene =
      (.error (.run (.valueCount compiled.slotCount values.length)), scene) := by
  have filled : values.isEmpty = false := by simpa using some_values
  rw [evaluate, filled, eval]
  simp only [Bool.false_eq_true, if_false, ne_eq, count, not_false_eq_true, if_true]
  exact Evaluation.runIn_throw _ scene

namespace Expression

variable {functions : Registry} {engine : FormulaEngine} {expression : Expression}

theorem ne_valueCount_of_added_eq_nil {plan : Plan}
    (success : (Plan.prepare functions engine .number expression.plain).result = .ok plan)
    (held : expression.plan? = some plan) (noneAdded : expression.added = [])
    (who : Participants) (scene : Scene) (expected given : Nat) :
    ((expression.number who).runIn scene).1 ≠ .error (.run (.valueCount expected given)) := by
  intro failed
  rw [number_eq_of_added_eq_nil noneAdded held] at failed
  have sound : plan.Sound True .number := Plan.sound_of_prepare (fun _ _ => .inr trivial) success
  have allowed := sound .number (.inl rfl) who expression.place expression.plain scene _ failed
  exact EvaluationFault.ne_valueCount_of_allowed allowed expected given rfl

theorem runIn_number_of_ne {compiled : Compiled} {calls : List Instruction}
    (held : expression.plan? = some (.formula compiled calls))
    (ne : compiled.slotCount ≠ expression.bindings.length) (filled : expression.bindings ≠ [])
    {who : Participants} {before after : Scene} {values : List Value}
    (done : (Binding.values who expression.bindings).runIn before = (.ok values, after)) :
    (expression.number who).runIn before =
      (.error (.run (.valueCount compiled.slotCount expression.bindings.length)), after) := by
  have size := Binding.length_of_values done
  simp only [number, held, Evaluation.runIn_bind, done]
  rw [← size] at ne ⊢
  refine Compiled.runIn_evaluate_of_ne ?_ ne.symm after
  rw [← List.length_pos_iff, size]
  exact List.length_pos_iff.mpr filled

end Expression

namespace Usage

/-- A formula has a slot for each of its bindings, and these are its calls in order, exactly if no
binding was added by hand before the attempt that prepared it; without calls there is room for
one. Then no evaluation at any depth is given a wrong count of values; and otherwise each one is,
once its bindings have given theirs. -/
theorem slotCount_eq_iff {place : Place} {plain : Text} {scene : Scene} {uses : List Use}
    (formula : ((start place plain scene).run uses).expression.kind? = some .number) :
    let used := ((start place plain scene).run uses).expression
    ∃ before after compiled calls,
      let world := ((start place plain scene).run before).scene
      uses = before ++ .prepare :: after ∧
      used.plan? = some (.formula compiled calls) ∧
      used.added = before.filterMap Use.binding? ∧
      List.Forall₂ (fun cut call =>
          (Instruction.ofCall world.functions .number cut fun argument _ kind =>
            Plan.prepare world.functions world.engine kind argument).result = .ok call)
        (Draft.ofText (isBuiltinCall world.functions) plain).calls calls ∧
      (used.bindings.map Binding.instruction = calls ↔ used.added = []) ∧
      (compiled.slotCount = max used.bindings.length 1 ↔
        used.added = [] ∨ used.added.length = 1 ∧ calls = []) ∧
      (used.added = [] → ∀ who current expected given,
        ((used.number who).runIn current).1 ≠ .error (.run (.valueCount expected given))) ∧
      (compiled.slotCount ≠ max used.bindings.length 1 → ∀ who current values later,
        (Binding.values who used.bindings).runIn current = (.ok values, later) →
        (used.number who).runIn current =
          (.error (.run (.valueCount compiled.slotCount used.bindings.length)), later)) := by
  intro used
  obtain ⟨plan, held, _⟩ := Option.map_eq_some_iff.mp formula
  -- the attempt that made the formula; later uses leave it as it is, so only what was added before
  -- it can stand in front of the calls of the text
  obtain ⟨before, after, split, unprepared, same⟩ := exists_attempt_of_run rfl held
  obtain ⟨_, reported, shape⟩ := run_of_unprepared unprepared
  have outcome : ((start place plain scene).run before).attempt.1.kind? = some .number := by
    rw [attempt, ← Expression.kind?_prepare]
    exact (congrArg Expression.kind? same).symm.trans formula
  obtain ⟨_, success, prepared⟩ := Expression.prepare_of_kind unprepared outcome
  have text : ((start place plain scene).run before).expression.plain = plain := by
    rw [shape]
    rfl
  rw [text] at success
  obtain ⟨calls, compiled, rfl, _, bound, parsed⟩ := Plan.prepare_number_eq_ok_iff.mp success
  have final : used = ⟨place, plain, before.filterMap Use.binding?,
      some (.formula compiled calls), reported⟩ := by
    refine same.trans (prepared.trans ?_)
    rw [shape]
    rfl
  have slots : compiled.slotCount = max calls.length 1 := (Compiled.of_parse parsed).2.1
  have bindings : used.bindings.map Binding.instruction =
      used.added.map Binding.instruction ++ calls := by
    rw [final, Expression.bindings, List.map_append]
    exact congrArg _ (Plan.map_instruction_bindings place compiled calls)
  have count : used.bindings.length = used.added.length + calls.length := by
    simpa using congrArg List.length bindings
  have nothing : used.added = [] ↔ used.added.length = 0 := List.length_eq_zero_iff.symm
  have callless : calls = [] ↔ calls.length = 0 := List.length_eq_zero_iff.symm
  refine ⟨before, after, compiled, calls, split, by rw [final], by rw [final], ?_, ?_, ?_, ?_, ?_⟩
  · exact bound.imp fun cut call binds => Instruction.ofCall_result_eq_ok_iff.mpr binds
  · rw [bindings, List.append_left_eq_self, List.map_eq_nil_iff]
  · rw [slots, count, nothing, callless]
    omega
  · intro noneAdded who current expected given
    rw [← show used.plain = plain by rw [final]] at success
    exact Expression.ne_valueCount_of_added_eq_nil success (by rw [final]) noneAdded who current
      expected given
  · intro ne who current values later done
    rw [slots, count] at ne
    refine Expression.runIn_number_of_ne (by rw [final]) ?_ ?_ done
    · omega
    · rw [← List.length_pos_iff]
      omega

/-- How many slots the plan of an expression has; none if it is no formula. -/
def slotCount? (usage : Usage) : Option Nat :=
  usage.expression.plan?.bind fun plan => match plan with
    | .formula compiled _ => some compiled.slotCount
    | .text _ => none

/-- A binding of the time in front of a formula that has one call: two values for one slot. -/
theorem valueCount_of_added_time :
    let time : Binding :=
      ⟨[7], .mk LibraryFunction.elapsedTime.declared (Text.lit "Time()") none []⟩
    let scene : Scene :=
      { Scene.start [] (Identifiers.empty true 1) .standard 0 with
        functions := Registry.empty.insertLibrary }
    let usage := (start [3] (Text.lit "Time()") scene).run [.add time, .prepare, .add time]
    usage.expression.kind? = some .number ∧ usage.slotCount? = some 1 ∧
      usage.expression.bindings.length = 2 ∧
      ∀ who current values later,
        (Binding.values who usage.expression.bindings).runIn current = (.ok values, later) →
        (usage.expression.number who).runIn current = (.error (.run (.valueCount 1 2)), later) := by
  intro time scene usage
  have formula : usage.expression.kind? = some .number := by decide +kernel
  have slots : usage.slotCount? = some 1 := by decide +kernel
  have count : usage.expression.bindings.length = 2 := by decide +kernel
  obtain ⟨_, _, compiled, calls, _, held, _, _, _, _, _, wrong⟩ := slotCount_eq_iff formula
  have one : compiled.slotCount = 1 := by
    change usage.expression.plan? = _ at held
    rw [slotCount?, held] at slots
    exact Option.some.inj slots
  have runs := wrong (by rw [one]; change 1 ≠ max usage.expression.bindings.length 1; omega)
  rw [one] at runs
  rw [count] at runs
  exact ⟨formula, slots, count, runs⟩

end Usage
end SceneFormula
