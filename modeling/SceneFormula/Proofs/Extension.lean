import SceneFormula.Formula.Standard
import SceneFormula.Function.Library
import SceneFormula.Proofs.Preparation

set_option autoImplicit false

namespace SceneFormula

def Registry.Extends (more functions : Registry) : Prop :=
  ∀ key function, functions.get? key = some function → more.get? key = some function

theorem Registry.extends_insert {functions : Registry} {function : SceneFunction}
    (absent : functions.get? function.key = none) :
    (functions.insert function).Extends functions := by
  intro key other found
  by_cases same : key = function.key
  · rw [same, absent] at found
    cases found
  · rw [get?_insert_of_ne _ _ same, found]

/-- Whether formulas call the function where they would otherwise call a built-in one. -/
def SceneFunction.ShadowsBuiltin (function : SceneFunction) : Prop :=
  function.returns = .number ∧ function.isMember = false ∧
    (Builtin.named? function.name).isSome = true

instance (function : SceneFunction) : Decidable function.ShadowsBuiltin :=
  inferInstanceAs (Decidable (_ ∧ _ ∧ _))

theorem Builtin.not_mem_of_named? {text : Text} (known : (named? text).isSome = true) :
    '.' ∉ text := by
  obtain ⟨builtin, found⟩ := Option.isSome_iff_exists.mp known
  have same : builtin.name = text := by simpa using List.find?_some found
  rw [← same]
  cases builtin <;> decide

theorem isBuiltinCall_insert (functions : Registry) {function : SceneFunction}
    (apart : ¬ function.ShadowsBuiltin) :
    isBuiltinCall (functions.insert function) = isBuiltinCall functions := by
  funext name
  obtain ⟨object?, member⟩ := name
  cases object? with
  | some object => simp [isBuiltinCall]
  | none =>
    by_cases known : (Builtin.named? member).isSome = true
    · have free : Registry.keyOf member .number = ⟨.number, false, member⟩ := by
        simp [Registry.keyOf, Builtin.not_mem_of_named? known]
      have other : (⟨.number, false, member⟩ : FunctionKey) ≠ function.key := by
        intro same
        obtain ⟨returns, isMember, rfl⟩ := FunctionKey.mk.inj same
        exact apart ⟨returns.symm, isMember.symm, known⟩
      simp only [isBuiltinCall, Registry.resolve, Name.text, free,
        Registry.get?_insert_of_ne _ _ other]
    · simp [isBuiltinCall, known]

section Extension

variable {functions more : Registry} {engine : FormulaEngine}

theorem Instruction.Binds.extend {returns : ValueKind}
    {prepared : ValueKind → Text → Plan → Prop} {cut : Call} {instruction : Instruction}
    (larger : more.Extends functions)
    (binds : instruction.Binds functions returns prepared cut) :
    instruction.Binds more returns prepared cut :=
  ⟨larger _ _ binds.resolved, binds.source, binds.object, binds.arity, binds.fits⟩

theorem Plan.prepare_extend {kind : ValueKind} {text : Text} {plan : Plan}
    (larger : more.Extends functions) (builtins : isBuiltinCall more = isBuiltinCall functions)
    (success : (prepare functions engine kind text).result = .ok plan) :
    (prepare more engine kind text).result = .ok plan := by
  refine prepare_induction
    (motive := fun kind text plan => (prepare more engine kind text).result = .ok plan)
    ?formula ?expression kind success
  case formula =>
    intro text calls compiled faultless bound parsed
    rw [← builtins] at faultless bound parsed
    have extended := bound.imp fun cut call binds => binds.extend larger
    exact prepare_number_eq_ok_iff.mpr ⟨calls, compiled, rfl, faultless, extended, parsed⟩
  case expression =>
    intro text parts segments cut rendered
    refine prepare_text_eq_ok_iff.mpr ⟨parts, segments, rfl, cut, rendered.imp ?_⟩
    rintro part segment ⟨term, known, renders⟩
    refine ⟨term, known, ?_⟩
    cases term with
    | literal content => exact renders
    | call found =>
      obtain ⟨instruction, rfl, binds⟩ := renders
      exact ⟨instruction, rfl, binds.extend larger⟩

namespace Expression

variable {expression : Expression} {plan : Plan}

/-- With more functions an expression is prepared as before, or its text is tried as a formula now:
it becomes one, or the engine breaks down over it. -/
theorem prepare_extend (larger : more.Extends functions)
    (builtins : isBuiltinCall more = isBuiltinCall functions) {kind : ValueKind}
    (accepted : (expression.prepare functions engine).1.kind? = some kind) :
    (∀ name, (expression.prepare more engine).1 = .raised name ↔
      expression.plan? = none ∧ kind = .text ∧
        (Plan.prepare more engine .number expression.plain).result = .error (.breakdown name)) ∧
    ((∀ name, (expression.prepare more engine).1 ≠ .raised name) →
      ∃ after, (expression.prepare more engine).1.kind? = some after ∧
        (kind = .number → after = .number) ∧
        (after = kind → (expression.prepare more engine).2.1 =
          (expression.prepare functions engine).2.1)) := by
  -- a text expression is tried as a formula first, which more functions may make of it
  cases held : expression.plan? with
  | some plan =>
    rw [prepare_of_prepared held] at accepted
    rw [prepare_of_prepared held, prepare_of_prepared held]
    exact ⟨fun name => ⟨nofun, fun raised => nomatch raised.1⟩,
      fun _ => ⟨kind, accepted, id, fun _ => rfl⟩⟩
  | none =>
    obtain ⟨plan, success, prepared⟩ := prepare_of_kind held accepted
    have again := Plan.prepare_extend larger builtins success
    cases kind with
    | number =>
      rw [prepared, prepare_of_formula held again]
      exact ⟨fun name => ⟨nofun, fun raised => nomatch raised.2.1⟩,
        fun _ => ⟨.number, rfl, id, fun _ => rfl⟩⟩
    | text =>
      cases formula : (Plan.prepare more engine .number expression.plain).result with
      | ok other =>
        rw [prepare_of_formula held formula]
        exact ⟨fun name => ⟨nofun, fun raised => nomatch raised.2.2⟩,
          fun _ => ⟨.number, rfl, nofun, nofun⟩⟩
      | error stop =>
        cases stop with
        | fault fault =>
          rw [prepared, prepare_of_text held formula again]
          exact ⟨fun name => ⟨nofun, fun raised => nomatch raised.2.2⟩,
            fun _ => ⟨.text, rfl, nofun, fun _ => rfl⟩⟩
        | breakdown name =>
          rw [prepare_of_breakdown held formula]
          refine ⟨fun other => ?_, fun calm => absurd rfl (calm name)⟩
          simp

/-- An expression that could be prepared still can when a function is added, unless it was to become
a text expression and the engine breaks down over its text, which is tried as a formula before. A
formula stays the same formula, and a text expression stays the same or becomes a formula. -/
theorem prepare_insert {function : SceneFunction} {kind : ValueKind}
    (absent : functions.get? function.key = none) (apart : ¬ function.ShadowsBuiltin)
    (accepted : (expression.prepare functions engine).1.kind? = some kind) :
    let more := functions.insert function
    (∀ name, (expression.prepare more engine).1 = .raised name ↔
      expression.plan? = none ∧ kind = .text ∧
        (Plan.prepare more engine .number expression.plain).result = .error (.breakdown name)) ∧
    ((∀ name, (expression.prepare more engine).1 ≠ .raised name) →
      ∃ after, (expression.prepare more engine).1.kind? = some after ∧
        (kind = .number → after = .number) ∧
        (after = kind → (expression.prepare more engine).2.1 =
          (expression.prepare functions engine).2.1)) :=
  prepare_extend (Registry.extends_insert absent) (isBuiltinCall_insert functions apart) accepted

/-- A formula of nested calls when a function of one of their names is added for objects; and the
name of a function's argument that is a formula once a function for numbers is added, over which the
engine breaks down. -/
theorem prepare_insert_nested :
    let functions := Registry.empty.insertLibrary
    let count : SceneFunction :=
      ⟨Text.lit "Count", .number, [], true, .custom 0 (.constant (.number 0))⟩
    let expression := ofText [0] (Text.lit "StrLength(ToString(Count(Enemy))) + 1")
    let named : SceneFunction :=
      ⟨Text.lit "F", .text, [.identifier], false, .custom 0 (.identifier 0)⟩
    let computed : SceneFunction :=
      ⟨Text.lit "F", .number, [.expression], false, .custom 1 (.constant (.number 1))⟩
    let broken := ofText [1] (Text.lit "F(abs(2^asin(2)))")
    (functions.get? count.key = none ∧ ¬ count.ShadowsBuiltin ∧
      (expression.prepare (functions.insert count) .standard).1.kind? = some .number ∧
      (expression.prepare (functions.insert count) .standard).2.1 =
        (expression.prepare functions .standard).2.1) ∧
    (functions.insert named).get? computed.key = none ∧ ¬ computed.ShadowsBuiltin ∧
      (broken.prepare (functions.insert named) .standard).1.kind? = some .text ∧
      ∃ name, (broken.prepare ((functions.insert named).insert computed) .standard).1 =
        .raised name := by
  intro functions count expression named computed broken
  constructor
  · have absent : functions.get? count.key = none := by
      rw [← Option.not_isSome_iff_eq_none]
      decide +kernel
    have apart : ¬ count.ShadowsBuiltin := by decide
    have accepted : (expression.prepare functions .standard).1.kind? = some .number := by
      decide +kernel
    obtain ⟨raised, calm⟩ := prepare_insert absent apart accepted
    obtain ⟨after, known, number, same⟩ := calm fun name broke =>
      nomatch ((raised name).mp broke).2.1
    obtain rfl := number rfl
    exact ⟨absent, apart, known, same rfl⟩
  · have absent : (functions.insert named).get? computed.key = none := by
      rw [← Option.not_isSome_iff_eq_none]
      decide +kernel
    have apart : ¬ computed.ShadowsBuiltin := by decide
    have accepted : (broken.prepare (functions.insert named) .standard).1.kind? = some .text := by
      decide +kernel
    have lost : (broken.prepare ((functions.insert named).insert computed) .standard).1.kind? =
        none := by
      decide +kernel
    refine ⟨absent, apart, accepted, ?_⟩
    by_contra calm
    obtain ⟨after, known, -⟩ := (prepare_insert absent apart accepted).2 fun name raised =>
      calm ⟨name, raised⟩
    cases lost.symm.trans known

/-- A text expression may become a formula: here its function gets a second one with numbers as
values. -/
example :
    let functions := Registry.empty.insertLibrary
    let toString : SceneFunction :=
      ⟨Text.lit "ToString", .number, [.expression], false, .custom 0 (.constant (.number 0))⟩
    let expression := ofText [0] (Text.lit "ToString(1)")
    (expression.prepare functions .standard).1.kind? = some .text ∧
      (expression.prepare (functions.insert toString) .standard).1.kind? = some .number := by
  decide +kernel

end Expression

end Extension

end SceneFormula
