import Mathlib.Data.List.Forall2
import SceneFormula.Expression.Basic

set_option autoImplicit false

namespace SceneFormula

namespace Attempt

variable {α β : Type}

@[simp] theorem pure_result (value : α) : (Pure.pure value : Attempt α).result = .ok value := rfl

@[simp] theorem fail_result (fault : SyntaxFault) :
    (fail fault : Attempt α).result = .error (.fault fault) := rfl

@[simp] theorem report_result (event : Event) : (report event).result = .ok () := rfl

@[simp] theorem bind_result_eq_ok_iff {first : Attempt α} {next : α → Attempt β} {value : β} :
    (first >>= next).result = .ok value ↔
      ∃ x, first.result = .ok x ∧ (next x).result = .ok value := by
  change (bind first next).result = .ok value ↔ _
  cases done : first.result with
  | error fault => simp [bind_result_of_error done]
  | ok x => simp [bind_result_of_ok done]

/-- Attempts for the members of a list succeed together exactly if each of them does. -/
theorem forEach_result_eq_ok_iff {attempt : α → Attempt β} {xs : List α} {ys : List β} :
    (forEach xs fun x _ => attempt x).result = .ok ys ↔
      List.Forall₂ (fun x y => (attempt x).result = .ok y) xs ys := by
  induction xs generalizing ys with
  | nil =>
    constructor
    · intro done
      cases done
      exact .nil
    · intro each
      cases each
      rfl
  | cons x xs ih =>
    have unfolded : (forEach (x :: xs) fun x _ => attempt x) =
        (attempt x >>= fun y => (forEach xs fun x _ => attempt x) >>= fun ys =>
          Pure.pure (y :: ys)) := rfl
    simp only [unfolded, bind_result_eq_ok_iff, pure_result, Except.ok.injEq, ih]
    constructor
    · rintro ⟨y, first, rest, others, rfl⟩
      exact .cons first others
    · intro each
      cases each with
      | cons first others => exact ⟨_, first, _, others, rfl⟩

end Attempt

theorem exists_of_forall₂ {α β : Type} {related : α → β → Prop} {xs : List α} {ys : List β}
    (each : List.Forall₂ related xs ys) {y : β} (member : y ∈ ys) : ∃ x ∈ xs, related x y := by
  induction each with
  | nil => cases member
  | cons first _ ih =>
    rcases List.mem_cons.mp member with rfl | later
    · exact ⟨_, List.mem_cons_self, first⟩
    · obtain ⟨x, among, holds⟩ := ih later
      exact ⟨x, List.mem_cons_of_mem _ among, holds⟩

theorem Call.front?_name {position : Nat} {text : Text} {call : Call}
    (found : front? position text = .ok (some call)) : Name.front? text = some call.name := by
  simp only [front?] at found
  split at found
  · cases found
  · rename_i name named
    split at found
    · split at found
      · cases found
      · split at found
        · cases found
        · cases found
          exact named
    · cases found

theorem Draft.exists_front?_drop_of_mem_scan {isBuiltin : Name → Bool} {previous : Option Char}
    {position : Nat} {text : Text} {call : Call}
    (member : call ∈ (scan isBuiltin previous position text).calls) :
    ∃ i, Call.front? (position + i) (text.drop i) = .ok (some call) := by
  fun_induction scan isBuiltin previous position text with
  | case1 => cases member
  | case2 => cases member
  | case3 previous position c rest _ _ ih =>
    obtain ⟨i, found⟩ := ih member
    exact ⟨i + 1, by rwa [← Nat.add_assoc, Nat.add_right_comm]⟩
  | case4 => cases member
  | case5 previous position c rest _ name _ _ _ _ ih =>
    obtain ⟨i, found⟩ := ih member
    exact ⟨name.text.length + i, by rwa [← Nat.add_assoc, ← List.drop_drop]⟩
  | case6 => cases member
  | case7 previous position c rest _ name _ first called _ _ ih =>
    rcases List.mem_cons.mp member with rfl | later
    · exact ⟨0, called⟩
    · obtain ⟨i, found⟩ := ih later
      exact ⟨first.source.length + i, by rwa [← Nat.add_assoc, ← List.drop_drop]⟩

theorem Term.front?_of_ofPart {whole part : Text} {call : Call}
    (success : ofPart whole part = .ok (.call call)) : Call.front? 0 part = .ok (some call) := by
  cases part with
  | nil => cases success
  | cons c rest =>
    simp only [ofPart] at success
    split at success
    · split at success <;> cases success
    · split at success
      · split at success
        · cases success
        · cases success
        · rename_i found
          split at success
          · cases success
            exact found
          · cases success
      · cases success

/-- What compiles has tokens without a fault and is read as a formula that passes the check. -/
theorem Compiled.of_parse {engine : FormulaEngine} {text : Text} {count : Nat} {compiled : Compiled}
    (success : parse engine text count = .ok compiled) :
    compiled.source = text ∧ compiled.slotCount = max count 1 ∧
      tokenFault? (max count 1) text = none ∧
      ∃ x, engine.read text (max count 1) = .ok (some x) ∧
        check x (max count 1) = .ok compiled.function := by
  simp only [parse] at success
  split at success
  · cases success
  · split at success
    · cases success
    · rename_i faultless
      split at success
      · cases success
      · cases success
      · rename_i x read
        cases checked : check x (max count 1) with
        | error stop =>
          rw [checked] at success
          cases success
        | ok function =>
          rw [checked] at success
          cases success
          exact ⟨rfl, rfl, faultless, x, read, checked⟩

/-- Whether an argument is what a parameter of the kind makes of a text, for a relation between
texts and the plans that they are prepared as. -/
def Argument.Fits (prepared : ValueKind → Text → Plan → Prop) (plain : Text)
    (kind : ParameterKind) : Argument → Prop
  | .name text => text = plain ∧ kind.value? = none
  | .prepared text plan => text = plain ∧ ∃ value, kind.value? = some value ∧
      prepared value plain plan

/-- An argument is bound by its text alone where the parameter wants a name, and by what the text
is prepared as where it wants a value. -/
theorem Argument.result_eq_ok_iff {prepare : Text → ValueKind → Attempt Plan} {plain : Text}
    {kind : ParameterKind} {argument : Argument} {attempt : Attempt Argument}
    (named : kind.value? = none → attempt = Pure.pure (.name plain))
    (valued : ∀ value, kind.value? = some value →
      attempt = prepare plain value >>= fun plan => Pure.pure (.prepared plain plan)) :
    attempt.result = .ok argument ↔
      argument.Fits (fun kind plain plan => (prepare plain kind).result = .ok plan) plain kind := by
  cases known : kind.value? with
  | none =>
    rw [named known]
    cases argument <;> simp [Argument.Fits, known, eq_comm]
  | some value =>
    rw [valued value known]
    simp only [Attempt.bind_result_eq_ok_iff, Attempt.pure_result, Except.ok.injEq]
    cases argument with
    | name text => simp [Argument.Fits, known]
    | prepared text plan =>
      simp only [Argument.Fits, known, Option.some.injEq, Argument.prepared.injEq]
      constructor
      · rintro ⟨_, done, rfl, rfl⟩
        exact ⟨rfl, value, rfl, done⟩
      · rintro ⟨rfl, _, rfl, done⟩
        exact ⟨plan, done, rfl, rfl⟩

/-- What it takes for an instruction to bind a call to a function of a registry. -/
structure Instruction.Binds (functions : Registry) (returns : ValueKind)
    (prepared : ValueKind → Text → Plan → Prop) (cut : Call) (instruction : Instruction) :
    Prop where
  resolved : functions.resolve cut.name.text returns = some instruction.function
  source : instruction.source = cut.source
  object : instruction.object? = cut.name.object?
  arity : cut.arguments.length = instruction.function.parameters.length
  fits : List.Forall₂ (fun pair argument => argument.Fits prepared pair.1 pair.2)
    (cut.arguments.zip instruction.function.parameters) instruction.arguments

namespace Instruction

variable {functions : Registry} {returns : ValueKind} {cut : Call} {instruction : Instruction}

theorem ofCall_result_eq_ok_iff {prepare : Text → ValueKind → Attempt Plan} :
    (ofCall functions returns cut fun argument _ kind => prepare argument kind).result =
        .ok instruction ↔
      instruction.Binds functions returns
        (fun kind plain plan => (prepare plain kind).result = .ok plan) cut := by
  unfold ofCall
  cases resolved : functions.resolve cut.name.text returns with
  | none =>
    simp only [Attempt.fail_result, reduceCtorEq, false_iff]
    intro binds
    have := binds.resolved
    rw [resolved] at this
    cases this
  | some function =>
    by_cases arity : cut.arguments.length = function.parameters.length
    · simp only [arity, ne_eq, not_true_eq_false, if_false, Attempt.bind_result_eq_ok_iff,
        Attempt.pure_result, Except.ok.injEq]
      constructor
      · rintro ⟨arguments, each, rfl⟩
        refine ⟨resolved, rfl, rfl, arity, ?_⟩
        exact (Attempt.forEach_result_eq_ok_iff.mp each).imp
          fun pair argument done => (Argument.result_eq_ok_iff (fun named => by rw [named])
            fun value valued => by rw [valued]).mp done
      · intro binds
        have same : instruction.function = function := by
          have := binds.resolved
          rw [resolved] at this
          exact (Option.some.inj this).symm
        refine ⟨instruction.arguments, ?_, ?_⟩
        · apply Attempt.forEach_result_eq_ok_iff.mpr
          rw [← same]
          exact binds.fits.imp fun pair argument fits =>
            (Argument.result_eq_ok_iff (fun named => by rw [named])
              fun value valued => by rw [valued]).mpr fits
        · rw [← same, ← binds.source, ← binds.object]
          cases instruction
          rfl
    · simp only [arity, ne_eq, not_false_eq_true, if_true, Attempt.fail_result, reduceCtorEq,
        false_iff]
      intro binds
      have same := binds.resolved
      rw [resolved] at same
      cases same
      exact arity binds.arity

/-- An instruction that binds a call does so for any relation that holds of the same arguments. -/
theorem Binds.imp {first second : ValueKind → Text → Plan → Prop}
    (binds : instruction.Binds functions returns first cut)
    (each : ∀ plain ∈ cut.arguments, ∀ kind plan, first kind plain plan → second kind plain plan) :
    instruction.Binds functions returns second cut := by
  refine ⟨binds.resolved, binds.source, binds.object, binds.arity, ?_⟩
  have bounded := (List.forall₂_and_left _ _).mpr ⟨fun _ member => member, binds.fits⟩
  refine bounded.imp ?_
  rintro pair argument ⟨member, fits⟩
  cases argument with
  | name text => exact fits
  | prepared text plan =>
    obtain ⟨rfl, value, known, done⟩ := fits
    exact ⟨rfl, value, known, each _ (List.of_mem_zip member).1 value plan done⟩

theorem Binds.length_arguments {prepared : ValueKind → Text → Plan → Prop}
    (binds : instruction.Binds functions returns prepared cut) :
    instruction.arguments.length = instruction.function.parameters.length := by
  rw [← binds.fits.length_eq, List.length_zip, binds.arity, Nat.min_self]

theorem Binds.fits_of_getElem? {prepared : ValueKind → Text → Plan → Prop}
    (binds : instruction.Binds functions returns prepared cut) {index : Nat} {argument : Argument}
    (found : instruction.arguments[index]? = some argument) :
    ∃ plain kind, instruction.function.parameters[index]? = some kind ∧
      argument.Fits prepared plain kind := by
  obtain ⟨inside, rfl⟩ := List.getElem?_eq_some_iff.mp found
  have size := binds.length_arguments
  have zipped := binds.fits.length_eq
  have fits := binds.fits.get (i := index) (by omega) inside
  rw [List.get_eq_getElem, List.getElem_zip] at fits
  exact ⟨_, _, List.getElem?_eq_getElem (by omega), fits⟩

end Instruction

def Plan.calls : Plan → List Instruction
  | .formula _ calls => calls
  | .text segments => segments.filterMap Segment.call?

/-- Whether a call is one of a plan's, or one in their arguments at any depth. -/
inductive Instruction.Within (call : Instruction) : Plan → Prop
  | here {plan : Plan} (member : call ∈ plan.calls) : call.Within plan
  | deeper {plan inner : Plan} {outer : Instruction} {argument : Argument}
    (member : outer ∈ plan.calls) (among : argument ∈ outer.arguments)
    (prepared : argument.plan? = some inner) (within : call.Within inner) : call.Within plan

/-- What it takes for a segment to be a term of a text expression. -/
def Segment.Renders (functions : Registry) (prepared : ValueKind → Text → Plan → Prop) :
    Term → Segment → Prop
  | .literal content, segment => segment = .literal content
  | .call cut, segment =>
    ∃ instruction, segment = .call instruction ∧
      instruction.Binds functions .text prepared cut

section Bound

variable {functions : Registry} {prepared : ValueKind → Text → Plan → Prop} {call : Instruction}

theorem Instruction.map_source_of_binds {returns : ValueKind} {cuts : List Call}
    {calls : List Instruction}
    (bound : List.Forall₂ (fun cut call => call.Binds functions returns prepared cut) cuts calls) :
    calls.map Instruction.source = cuts.map Call.source := by
  have each : List.Forall₂ Eq (calls.map Instruction.source) (cuts.map Call.source) :=
    List.forall₂_map_left_iff.mpr (List.forall₂_map_right_iff.mpr
      (bound.flip.imp fun _ _ binds => binds.source))
  rwa [List.forall₂_eq_eq_eq] at each

theorem Draft.exists_binds_of_mem {isBuiltin : Name → Bool} {text : Text}
    {calls : List Instruction}
    (bound : List.Forall₂ (fun cut call => call.Binds functions .number prepared cut)
      (ofText isBuiltin text).calls calls) (member : call ∈ calls) :
    ∃ cut front, Name.front? front = some cut.name ∧
      call.Binds functions .number prepared cut := by
  obtain ⟨cut, among, binds⟩ := exists_of_forall₂ bound member
  obtain ⟨i, found⟩ := exists_front?_drop_of_mem_scan among
  exact ⟨cut, _, Call.front?_name found, binds⟩

theorem Term.exists_binds_of_mem {text : Text} {parts : List Text} {segments : List Segment}
    {segment : Segment}
    (rendered : List.Forall₂ (fun part segment => ∃ term, ofPart text part = .ok term ∧
      segment.Renders functions prepared term) parts segments)
    (member : segment ∈ segments) (known : segment.call? = some call) :
    ∃ cut front, Name.front? front = some cut.name ∧
      call.Binds functions .text prepared cut := by
  obtain ⟨part, _, term, cut, renders⟩ := exists_of_forall₂ rendered member
  cases term with
  | literal content =>
    cases renders
    cases known
  | call found =>
    obtain ⟨instruction, rfl, binds⟩ := renders
    cases known
    exact ⟨found, _, Call.front?_name (front?_of_ofPart cut), binds⟩

end Bound

namespace Plan

variable {functions : Registry} {engine : FormulaEngine} {text : Text} {plan : Plan}

/-- A formula is prepared when its text has no fault, each call is bound and the rest compiles. -/
theorem prepare_number_eq_ok_iff :
    (prepare functions engine .number text).result = .ok plan ↔
      ∃ calls compiled,
        plan = .formula compiled calls ∧
        (Draft.ofText (isBuiltinCall functions) text).fault? = none ∧
        List.Forall₂ (fun cut call => call.Binds functions .number
            (fun kind plain plan => (prepare functions engine kind plain).result = .ok plan)
            cut)
          (Draft.ofText (isBuiltinCall functions) text).calls calls ∧
        Compiled.parse engine (Draft.ofText (isBuiltinCall functions) text).rewritten
          calls.length = .ok compiled := by
  have compile_iff : ∀ (source : Text) (count : Nat) (compiled : Compiled),
      (Compiled.attempt engine source count).result = .ok compiled ↔
        Compiled.parse engine source count = .ok compiled := by
    intro source count compiled
    unfold Compiled.attempt
    cases Compiled.parse engine source count with
    | ok compiled => simp
    | error stop => cases stop <;> simp
  rw [prepare]
  simp only [Attempt.bind_result_eq_ok_iff, Attempt.forEach_result_eq_ok_iff,
    Instruction.ofCall_result_eq_ok_iff]
  constructor
  · rintro ⟨calls, bound, done⟩
    split at done
    · cases done
    · rename_i faultless
      simp only [Attempt.bind_result_eq_ok_iff, compile_iff, Attempt.pure_result,
        Except.ok.injEq] at done
      obtain ⟨compiled, parsed, rfl⟩ := done
      exact ⟨calls, compiled, rfl, faultless, bound, parsed⟩
  · rintro ⟨calls, compiled, rfl, faultless, bound, parsed⟩
    refine ⟨calls, bound, ?_⟩
    rw [faultless]
    simp only [Attempt.bind_result_eq_ok_iff, compile_iff, Attempt.pure_result]
    exact ⟨compiled, parsed, rfl⟩

/-- A text expression is prepared when it has terms and each of them is a literal or bound. -/
theorem prepare_text_eq_ok_iff :
    (prepare functions engine .text text).result = .ok plan ↔
      ∃ parts segments,
        plan = .text segments ∧
        Term.parts text = .ok parts ∧
        List.Forall₂ (fun part segment => ∃ term, Term.ofPart text part = .ok term ∧
            segment.Renders functions
              (fun kind plain plan => (prepare functions engine kind plain).result = .ok plan)
              term)
          parts segments := by
  rw [prepare]
  split
  · rename_i failed
    simp [failed]
  · rename_i parts done
    simp only [done, Except.ok.injEq, Attempt.bind_result_eq_ok_iff,
      Attempt.forEach_result_eq_ok_iff, Attempt.pure_result]
    constructor
    · rintro ⟨segments, each, rfl⟩
      refine ⟨parts, segments, rfl, rfl, each.imp ?_⟩
      intro part segment rendered
      split at rendered
      · cases rendered
      · rename_i content known
        cases rendered
        exact ⟨_, known, rfl⟩
      · rename_i cut known
        simp only [Attempt.bind_result_eq_ok_iff, Instruction.ofCall_result_eq_ok_iff,
          Attempt.pure_result, Except.ok.injEq] at rendered
        obtain ⟨instruction, binds, rfl⟩ := rendered
        exact ⟨_, known, instruction, rfl, binds⟩
    · rintro ⟨_, segments, rfl, rfl, each⟩
      refine ⟨segments, each.imp ?_, rfl⟩
      rintro part segment ⟨term, known, renders⟩
      split
      · rename_i failed
        rw [known] at failed
        cases failed
      · rename_i content found
        rw [known] at found
        cases found
        exact congrArg Except.ok (Eq.symm renders)
      · rename_i cut found
        rw [known] at found
        cases found
        obtain ⟨instruction, rfl, binds⟩ := renders
        simp only [Attempt.bind_result_eq_ok_iff, Instruction.ofCall_result_eq_ok_iff,
          Attempt.pure_result]
        exact ⟨instruction, binds, rfl⟩

theorem kind_of_prepare {kind : ValueKind}
    (success : (prepare functions engine kind text).result = .ok plan) : plan.kind = kind := by
  cases kind with
  | number =>
    obtain ⟨_, _, rfl, _⟩ := prepare_number_eq_ok_iff.mp success
    rfl
  | text =>
    obtain ⟨_, _, rfl, _⟩ := prepare_text_eq_ok_iff.mp success
    rfl

/-- Each call of a prepared text has been bound, and its arguments have been prepared. -/
theorem exists_binds_of_mem_calls {kind : ValueKind} {call : Instruction}
    (success : (prepare functions engine kind text).result = .ok plan)
    (member : call ∈ plan.calls) :
    ∃ returns cut front, Name.front? front = some cut.name ∧
      call.Binds functions returns
        (fun kind plain plan => (prepare functions engine kind plain).result = .ok plan)
        cut := by
  cases kind with
  | number =>
    obtain ⟨calls, compiled, rfl, _, bound, _⟩ := prepare_number_eq_ok_iff.mp success
    exact ⟨_, Draft.exists_binds_of_mem bound member⟩
  | text =>
    obtain ⟨parts, segments, rfl, _, rendered⟩ := prepare_text_eq_ok_iff.mp success
    obtain ⟨segment, among, known⟩ := List.mem_filterMap.mp member
    exact ⟨_, Term.exists_binds_of_mem rendered among known⟩

theorem exists_binds_of_within {kind : ValueKind} {call : Instruction}
    (success : (prepare functions engine kind text).result = .ok plan)
    (within : call.Within plan) :
    ∃ returns cut front, Name.front? front = some cut.name ∧
      call.Binds functions returns
        (fun kind plain plan => (prepare functions engine kind plain).result = .ok plan)
        cut := by
  induction within generalizing kind text with
  | here member => exact exists_binds_of_mem_calls success member
  | @deeper plan inner outer argument member among prepared _ ih =>
    obtain ⟨_, _, _, _, binds⟩ := exists_binds_of_mem_calls success member
    obtain ⟨index, found⟩ := List.getElem?_of_mem among
    obtain ⟨plain, _, _, fits⟩ := binds.fits_of_getElem? found
    cases argument with
    | name text => cases prepared
    | prepared text own =>
      cases prepared
      obtain ⟨_, _, _, success⟩ := fits
      exact ih success

/-- Induction over what is prepared: a relation between texts and plans that passes from the
arguments of calls to formulas and text expressions holds of every text and its plan. -/
theorem prepare_induction {motive : ValueKind → Text → Plan → Prop}
    (formula : ∀ text calls compiled,
      (Draft.ofText (isBuiltinCall functions) text).fault? = none →
      List.Forall₂ (fun cut call => call.Binds functions .number motive cut)
        (Draft.ofText (isBuiltinCall functions) text).calls calls →
      Compiled.parse engine (Draft.ofText (isBuiltinCall functions) text).rewritten
        calls.length = .ok compiled →
      motive .number text (.formula compiled calls))
    (expression : ∀ text parts segments,
      Term.parts text = .ok parts →
      List.Forall₂ (fun part segment => ∃ term, Term.ofPart text part = .ok term ∧
        segment.Renders functions motive term) parts segments →
      motive .text text (.text segments))
    (kind : ValueKind) (success : (prepare functions engine kind text).result = .ok plan) :
    motive kind text plan := by
  induction size : text.length using Nat.strongRecOn generalizing kind text plan with
  | ind size ih =>
    subst size
    cases kind with
    | number =>
      obtain ⟨calls, compiled, rfl, faultless, bound, parsed⟩ :=
        prepare_number_eq_ok_iff.mp success
      refine formula text calls compiled faultless ?_ parsed
      have among := (List.forall₂_and_left _ _).mpr ⟨fun _ member => member, bound⟩
      refine among.imp ?_
      rintro cut call ⟨member, binds⟩
      refine binds.imp fun plain argument kind plan done => ?_
      exact ih _ (Draft.length_lt_of_mem_calls member argument) kind done rfl
    | text =>
      obtain ⟨parts, segments, rfl, cut, each⟩ := prepare_text_eq_ok_iff.mp success
      refine expression text parts segments cut ?_
      have among := (List.forall₂_and_left _ _).mpr ⟨fun _ member => member, each⟩
      refine among.imp ?_
      rintro part segment ⟨member, term, known, renders⟩
      refine ⟨term, known, ?_⟩
      cases term with
      | literal content => exact renders
      | call found =>
        obtain ⟨instruction, rfl, binds⟩ := renders
        refine ⟨instruction, rfl, binds.imp fun plain argument kind plan done => ?_⟩
        have shorter := Nat.lt_of_lt_of_le (Term.length_lt_of_ofPart known argument)
          (Term.length_le_of_mem_parts cut member)
        exact ih _ shorter kind done rfl

end Plan

theorem Plan.map_instruction_bindings (place : List Nat) (compiled : Compiled)
    (calls : List Instruction) :
    ((Plan.formula compiled calls).bindings place).map Binding.instruction = calls := by
  rw [bindings, List.map_map]
  exact List.zipIdx_map_fst 0 calls

namespace Expression

variable {functions : Registry} {engine : FormulaEngine} {expression : Expression} {plan : Plan}

theorem prepare_of_prepared (prepared : expression.plan? = some plan) :
    expression.prepare functions engine = (.prepared plan.kind none, expression, []) := by
  simp only [prepare, prepared]

theorem prepare_of_formula (unprepared : expression.plan? = none)
    (formula : (Plan.prepare functions engine .number expression.plain).result = .ok plan) :
    expression.prepare functions engine =
      (.prepared .number none, { expression with plan? := some plan },
        (Plan.prepare functions engine .number expression.plain).events ++
          [.formulaPrepared expression.plain
            { expression with plan? := some plan }.bindings.length]) := by
  simp only [prepare, unprepared, formula]

/-- A breakdown over the formula ends the attempt; a text expression is not tried. -/
theorem prepare_of_breakdown {name : Text} (unprepared : expression.plan? = none)
    (formula : (Plan.prepare functions engine .number expression.plain).result =
      .error (.breakdown name)) :
    expression.prepare functions engine =
      (.raised name, expression,
        (Plan.prepare functions engine .number expression.plain).events) := by
  simp only [prepare, unprepared, formula]

section NoFormula

variable {formulaFault : SyntaxFault} (unprepared : expression.plan? = none)
  (formula : (Plan.prepare functions engine .number expression.plain).result =
    .error (.fault formulaFault))

include unprepared formula

theorem prepare_of_text
    (text : (Plan.prepare functions engine .text expression.plain).result = .ok plan) :
    expression.prepare functions engine =
      (.prepared .text (some formulaFault), { expression with plan? := some plan },
        (Plan.prepare functions engine .number expression.plain).events ++
          (Plan.prepare functions engine .text expression.plain).events ++
          [.textPrepared expression.plain]) := by
  simp only [prepare, unprepared, formula, text]

theorem prepare_of_text_breakdown {name : Text}
    (text : (Plan.prepare functions engine .text expression.plain).result =
      .error (.breakdown name)) :
    expression.prepare functions engine =
      (.raised name, expression,
        (Plan.prepare functions engine .number expression.plain).events ++
          (Plan.prepare functions engine .text expression.plain).events) := by
  simp only [prepare, unprepared, formula, text]

theorem prepare_of_faults {textFault : SyntaxFault}
    (text : (Plan.prepare functions engine .text expression.plain).result =
      .error (.fault textFault)) :
    expression.prepare functions engine =
      (.failed formulaFault textFault, { expression with failureReported := true },
        (Plan.prepare functions engine .number expression.plain).events ++
          (Plan.prepare functions engine .text expression.plain).events ++
          if expression.failureReported then []
          else [.preparationFailed expression.plain formulaFault.message textFault.message]) := by
  simp only [prepare, unprepared, formula, text]

end NoFormula

/-- What an attempt comes to: a plan, a breakdown on one of two ways, or two faults. -/
inductive Attempted (functions : Registry) (engine : FormulaEngine) (expression : Expression) : Prop
  | prepared (plan : Plan) (held : expression.plan? = some plan)
  | formula (plan : Plan) (unprepared : expression.plan? = none)
    (formula : (Plan.prepare functions engine .number expression.plain).result = .ok plan)
  | breakdown (name : Text) (unprepared : expression.plan? = none)
    (formula : (Plan.prepare functions engine .number expression.plain).result =
      .error (.breakdown name))
  | text (formulaFault : SyntaxFault) (plan : Plan) (unprepared : expression.plan? = none)
    (formula : (Plan.prepare functions engine .number expression.plain).result =
      .error (.fault formulaFault))
    (text : (Plan.prepare functions engine .text expression.plain).result = .ok plan)
  | textBreakdown (formulaFault : SyntaxFault) (name : Text) (unprepared : expression.plan? = none)
    (formula : (Plan.prepare functions engine .number expression.plain).result =
      .error (.fault formulaFault))
    (text : (Plan.prepare functions engine .text expression.plain).result =
      .error (.breakdown name))
  | faults (formulaFault textFault : SyntaxFault) (unprepared : expression.plan? = none)
    (formula : (Plan.prepare functions engine .number expression.plain).result =
      .error (.fault formulaFault))
    (text : (Plan.prepare functions engine .text expression.plain).result =
      .error (.fault textFault))

theorem attempted (functions : Registry) (engine : FormulaEngine) (expression : Expression) :
    expression.Attempted functions engine := by
  cases unprepared : expression.plan? with
  | some plan => exact .prepared plan unprepared
  | none =>
    cases formula : (Plan.prepare functions engine .number expression.plain).result with
    | ok plan => exact .formula plan unprepared formula
    | error stop =>
      cases stop with
      | breakdown name => exact .breakdown name unprepared formula
      | fault formulaFault =>
        cases text : (Plan.prepare functions engine .text expression.plain).result with
        | ok plan => exact .text formulaFault plan unprepared formula text
        | error stop =>
          cases stop with
          | breakdown name => exact .textBreakdown formulaFault name unprepared formula text
          | fault textFault => exact .faults formulaFault textFault unprepared formula text

/-- An expression of a kind has the plan of its text as that kind, and is otherwise unchanged. -/
theorem prepare_of_kind {kind : ValueKind} (unprepared : expression.plan? = none)
    (known : (expression.prepare functions engine).1.kind? = some kind) :
    ∃ plan, (Plan.prepare functions engine kind expression.plain).result = .ok plan ∧
      (expression.prepare functions engine).2.1 = { expression with plan? := some plan } := by
  cases attempted functions engine expression with
  | prepared plan held => cases unprepared.symm.trans held
  | formula plan _ formula =>
    rw [prepare_of_formula unprepared formula] at known ⊢
    cases known
    exact ⟨plan, formula, rfl⟩
  | breakdown name _ formula =>
    rw [prepare_of_breakdown unprepared formula] at known
    cases known
  | text _ plan _ formula text =>
    rw [prepare_of_text unprepared formula text] at known ⊢
    cases known
    exact ⟨plan, text, rfl⟩
  | textBreakdown _ _ _ formula text =>
    rw [prepare_of_text_breakdown unprepared formula text] at known
    cases known
  | faults _ _ _ formula text =>
    rw [prepare_of_faults unprepared formula text] at known
    cases known

/-- An attempt without a plan for a result leaves an expression as it was, but for a failure having
been reported. -/
theorem prepare_of_kind?_eq_none
    (fruitless : (expression.prepare functions engine).1.kind? = none) :
    expression.plan? = none ∧
      (expression.prepare functions engine).2.1 =
        { expression with
          failureReported := expression.failureReported ||
            (expression.prepare functions engine).1.isFailed } := by
  cases attempted functions engine expression with
  | prepared plan held =>
    rw [prepare_of_prepared held] at fruitless
    cases fruitless
  | formula plan unprepared formula =>
    rw [prepare_of_formula unprepared formula] at fruitless
    cases fruitless
  | breakdown name unprepared formula =>
    rw [prepare_of_breakdown unprepared formula]
    exact ⟨unprepared, by simp [Outcome.isFailed]⟩
  | text _ plan unprepared formula text =>
    rw [prepare_of_text unprepared formula text] at fruitless
    cases fruitless
  | textBreakdown _ _ unprepared formula text =>
    rw [prepare_of_text_breakdown unprepared formula text]
    exact ⟨unprepared, by simp [Outcome.isFailed]⟩
  | faults _ _ unprepared formula text =>
    rw [prepare_of_faults unprepared formula text]
    exact ⟨unprepared, by simp [Outcome.isFailed]⟩

theorem kind?_prepare (functions : Registry) (engine : FormulaEngine) (expression : Expression) :
    (expression.prepare functions engine).2.1.kind? =
      (expression.prepare functions engine).1.kind? := by
  cases known : (expression.prepare functions engine).1.kind? with
  | none =>
    obtain ⟨unprepared, same⟩ := prepare_of_kind?_eq_none known
    rw [same, Expression.kind?, unprepared]
    rfl
  | some kind =>
    cases prepared : expression.plan? with
    | some plan =>
      rw [prepare_of_prepared prepared] at known ⊢
      rw [← known, Expression.kind?, prepared]
      rfl
    | none =>
      obtain ⟨plan, success, same⟩ := prepare_of_kind prepared known
      rw [same, Expression.kind?, ← Plan.kind_of_prepare success]
      rfl

end Expression

end SceneFormula
