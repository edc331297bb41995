import SceneFormula.Formula.Standard
import SceneFormula.Proofs.Declaration
import SceneFormula.Proofs.Preparation
import SceneFormula.Proofs.Word
import SceneFormula.Scene.Value

set_option autoImplicit false

namespace SceneFormula

/-- Whether a fault is one of arithmetic, of a conversion, or a custom function's own. -/
def EvaluationFault.isOrdinary : EvaluationFault → Bool
  | run (.computation (.arithmetic ..)) | notWhole _ | notANumber | failure => true
  | run (.computation (.breakdown _)) => false
  | notPrepared _ | wrongKind .. | noArgument | noObject | run (.valueCount ..) => false

/-- Which faults an evaluation may have: ordinary ones, breakdowns of some names, and misuse of
expressions and calls if functions may ask what they like. -/
def EvaluationFault.Allowed (lenient : Prop) (breaks : Text → Prop) : EvaluationFault → Prop
  | run (.computation (.arithmetic ..)) | notWhole _ | notANumber | failure => True
  | run (.computation (.breakdown name)) => breaks name
  | notPrepared _ | wrongKind .. | noArgument | noObject => lenient
  | run (.valueCount ..) => False

/-- Whether a formula is a plan's own, or one in the arguments of its calls at any depth. -/
inductive Compiled.Within (compiled : Compiled) : Plan → Prop
  | here {calls : List Instruction} : compiled.Within (.formula compiled calls)
  | deeper {plan inner : Plan} {outer : Instruction} {argument : Argument}
    (member : outer ∈ plan.calls) (among : argument ∈ outer.arguments)
    (prepared : argument.plan? = some inner) (within : compiled.Within inner) :
    compiled.Within plan

/-- Whether one of a plan's formulas breaks down for some values, with a name. -/
def Plan.Breaks (plan : Plan) (name : Text) : Prop :=
  ∃ (compiled : Compiled) (values : List Value), compiled.Within plan ∧
    compiled.eval values = .error (.computation (.breakdown name))

theorem Plan.Breaks.deeper {plan inner : Plan} {outer : Instruction} {argument : Argument}
    {name : Text} (breaks : inner.Breaks name) (member : outer ∈ plan.calls)
    (among : argument ∈ outer.arguments) (prepared : argument.plan? = some inner) :
    plan.Breaks name := by
  obtain ⟨compiled, values, within, failed⟩ := breaks
  exact ⟨compiled, values, .deeper member among prepared within, failed⟩

theorem Plan.Breaks.of_within {plan inner : Plan} {call : Instruction} {argument : Argument}
    {name : Text} (breaks : inner.Breaks name) (within : call.Within plan)
    (among : argument ∈ call.arguments) (prepared : argument.plan? = some inner) :
    plan.Breaks name := by
  induction within with
  | here member => exact breaks.deeper member among prepared
  | deeper member own held _ ih => exact ih.deeper member own held

theorem EvaluationFault.Allowed.mono {lenient : Prop} {breaks wider : Text → Prop}
    {fault : EvaluationFault} (allowed : fault.Allowed lenient breaks)
    (each : ∀ name, breaks name → wider name) : fault.Allowed lenient wider := by
  unfold Allowed at allowed ⊢
  split at allowed <;> first | exact allowed | exact each _ allowed

/-- Whether an argument can be read as a value of a kind with allowed faults only. -/
def Access.Delivers (allowed : EvaluationFault → Prop) (kind : ValueKind) (access : Access) :
    Prop :=
  match kind with
  | .number => access.number.Safe allowed
  | .text => access.text.Safe allowed

/-- Whether a plan can be evaluated to a value of a kind with allowed faults only. -/
def Plan.Delivers (allowed : EvaluationFault → Prop) (kind : ValueKind) (plan : Plan) : Prop :=
  ∀ who place plain, (Argument.access who place (.prepared plain plan)).Delivers allowed kind

section Calls

variable {allowed : EvaluationFault → Prop} {site : CallSite} {index : Nat}

theorem Access.Delivers.imp {other : EvaluationFault → Prop} {kind : ValueKind} {access : Access}
    (delivers : access.Delivers allowed kind) (each : ∀ fault, allowed fault → other fault) :
    access.Delivers other kind := by
  cases kind <;> exact fun scene fault failed => each fault (delivers scene fault failed)

theorem CallSite.safe_argument (missing : site.arguments[index]? = none → allowed .noArgument) :
    (site.argument index).Safe allowed := by
  unfold argument
  split
  · exact Evaluation.safe_pure _
  · exact Evaluation.safe_throw (missing ‹_›)

theorem CallSite.getElem?_of_argument {before after : Scene} {access : Access}
    (found : (site.argument index).runIn before = (.ok access, after)) :
    site.arguments[index]? = some access := by
  unfold argument at found
  split at found
  · cases found
    assumption
  · cases found

theorem CallSite.safe_number (missing : site.arguments[index]? = none → allowed .noArgument)
    (each : ∀ access, site.arguments[index]? = some access → access.Delivers allowed .number) :
    (site.number index).Safe allowed :=
  (safe_argument missing).bind_of_value fun access _ _ found =>
    each access (getElem?_of_argument found)

theorem CallSite.safe_text (missing : site.arguments[index]? = none → allowed .noArgument)
    (each : ∀ access, site.arguments[index]? = some access → access.Delivers allowed .text) :
    (site.text index).Safe allowed :=
  (safe_argument missing).bind_of_value fun access _ _ found =>
    each access (getElem?_of_argument found)

theorem CallSite.safe_object (missing : site.object? = none → allowed .noObject) :
    site.object.Safe allowed := by
  unfold object
  split
  · exact Evaluation.safe_pure _
  · exact Evaluation.safe_throw (missing ‹_›)

end Calls

theorem Argument.getElem?_accesses (who : Participants) (place : Place) (first index : Nat)
    (arguments : List Argument) :
    (accesses who place first arguments)[index]? =
      arguments[index]?.map (access who ((first + index) :: place)) := by
  induction arguments generalizing first index with
  | nil => simp [accesses]
  | cons argument rest ih =>
    cases index with
    | zero => simp [accesses]
    | succ index =>
      rw [accesses, List.getElem?_cons_succ, List.getElem?_cons_succ, ih, Nat.add_right_comm]
      rfl

/-- A call as its function sees it, when the call is evaluated at a place. -/
def Instruction.site (who : Participants) (place : Place) (instruction : Instruction) : CallSite :=
  ⟨instruction.source, instruction.object?, place,
    Argument.accesses who place 1 instruction.arguments, who⟩

theorem Instruction.value_eq_run (who : Participants) (place : Place) (instruction : Instruction) :
    instruction.value who place = instruction.function.body.run (instruction.site who place) := by
  obtain ⟨function, source, object?, arguments⟩ := instruction
  rw [value]
  rfl

/-- Whether evaluating a plan of a kind is sound: it has allowed faults only, at least when it is
asked for a value of this kind. -/
def Plan.Sound (lenient : Prop) (kind : ValueKind) (plan : Plan) : Prop :=
  ∀ value, value = kind ∨ lenient →
    plan.Delivers (EvaluationFault.Allowed lenient plan.Breaks) value

def Instruction.BreaksIn (breaks : Text → Prop) (instruction : Instruction) : Prop :=
  ∀ argument ∈ instruction.arguments, ∀ inner, argument.plan? = some inner →
    ∀ name, inner.Breaks name → breaks name

section Instructions

variable {lenient : Prop} {breaks : Text → Prop} {functions : Registry} {returns : ValueKind}
  {cut : Call} {instruction : Instruction}

/-- An argument is read as what its parameter is declared to be. -/
theorem Argument.Fits.delivers {plain : Text} {kind : ParameterKind} {argument : Argument}
    (fits : argument.Fits (fun kind _ plan => plan.Sound lenient kind) plain kind)
    (inner : ∀ plan, argument.plan? = some plan → ∀ name, plan.Breaks name → breaks name)
    {value : ValueKind} (read : kind.value? = some value ∨ lenient) (who : Participants)
    (place : Place) :
    (access who place argument).Delivers (EvaluationFault.Allowed lenient breaks) value := by
  cases argument with
  | name text =>
    have free : lenient := by
      rcases read with declared | free
      · rw [fits.2] at declared
        cases declared
      · exact free
    cases value <;> exact Evaluation.safe_throw free
  | prepared text plan =>
    obtain ⟨-, kept, known, sound⟩ := fits
    have wanted : value = kept ∨ lenient := by
      rw [known] at read
      exact read.imp_left fun same => (Option.some.inj same).symm
    exact (sound value wanted who place text).imp fun fault fine => fine.mono (inner plan rfl)

theorem Instruction.Binds.isSome_object? {prepared : ValueKind → Text → Plan → Prop}
    (binds : instruction.Binds functions returns prepared cut) {text : Text}
    (named : Name.front? text = some cut.name) :
    instruction.object?.isSome = instruction.function.isMember := by
  have key := List.find?_some binds.resolved
  rw [decide_eq_true_eq, Registry.keyOf] at key
  rw [binds.object, ← Bool.coe_iff_coe, ← Name.dot_mem_text_iff named]
  split at key
  · rename_i dotted
    exact iff_of_true dotted (congrArg FunctionKey.isMember key)
  · rename_i plain
    have free : instruction.function.isMember = false := congrArg FunctionKey.isMember key
    exact iff_of_false plain (by rw [free]; nofun)

theorem Instruction.Binds.allowed_noArgument
    (binds : instruction.Binds functions returns (fun kind _ plan => plan.Sound lenient kind) cut)
    {who : Participants} {place : Place} {kind : ParameterKind} {index : Nat}
    (fine : instruction.function.parameters[index]? = some kind ∨ lenient)
    (none : (instruction.site who place).arguments[index]? = none) :
    EvaluationFault.Allowed lenient breaks .noArgument := by
  rcases fine with declared | free
  · obtain ⟨inside, -⟩ := List.getElem?_eq_some_iff.mp declared
    rw [site, Argument.getElem?_accesses, Option.map_eq_none_iff, List.getElem?_eq_none_iff,
      binds.length_arguments] at none
    omega
  · exact free

theorem Instruction.Binds.delivers
    (binds : instruction.Binds functions returns (fun kind _ plan => plan.Sound lenient kind) cut)
    (inner : instruction.BreaksIn breaks) {who : Participants} {place : Place}
    {kind : ParameterKind} {value : ValueKind} {index : Nat} {access : Access}
    (fine : instruction.function.parameters[index]? = some kind ∨ lenient)
    (known : kind.value? = some value)
    (found : (instruction.site who place).arguments[index]? = some access) :
    access.Delivers (EvaluationFault.Allowed lenient breaks) value := by
  rw [site, Argument.getElem?_accesses, Option.map_eq_some_iff] at found
  obtain ⟨argument, among, rfl⟩ := found
  obtain ⟨plain, own, declared, fits⟩ := binds.fits_of_getElem? among
  refine fits.delivers (inner argument (List.mem_of_getElem? among))
    (fine.imp_left fun same => ?_) who _
  rw [declared, Option.some.injEq] at same
  rw [same, known]

theorem Instruction.Binds.allowed_noObject
    (binds : instruction.Binds functions returns (fun kind _ plan => plan.Sound lenient kind) cut)
    {text : Text} (named : Name.front? text = some cut.name)
    (fine : instruction.function.isMember = true ∨ lenient) (none : instruction.object? = none) :
    EvaluationFault.Allowed lenient breaks .noObject := by
  rcases fine with member | free
  · rw [← binds.isSome_object? named, none] at member
    cases member
  · exact free

theorem Instruction.Binds.safe_answer
    (binds : instruction.Binds functions returns (fun kind _ plan => plan.Sound lenient kind) cut)
    (inner : instruction.BreaksIn breaks) {text : Text} (named : Name.front? text = some cut.name)
    (who : Participants) (place : Place) {question : Question}
    (fine : question.Declared instruction.function.parameters instruction.function.isMember ∨
      lenient) :
    ((instruction.site who place).answer question).Safe
      (EvaluationFault.Allowed lenient breaks) := by
  -- what is declared is there; where a body may ask for anything, the fault is allowed
  cases question with
  | number index =>
    exact CallSite.safe_number (binds.allowed_noArgument fine) fun _ =>
      binds.delivers inner fine rfl
  | text index =>
    exact CallSite.safe_text (binds.allowed_noArgument fine) fun _ =>
      binds.delivers inner fine rfl
  | identifier index =>
    exact (CallSite.safe_argument (binds.allowed_noArgument fine)).bind fun _ =>
      Evaluation.safe_pure _
  | argumentId index =>
    exact (CallSite.safe_argument (binds.allowed_noArgument fine)).bind fun _ =>
      Evaluation.safe_step _
  | source => exact Evaluation.safe_pure _
  | object => exact CallSite.safe_object (binds.allowed_noObject named fine)
  | objectId =>
    exact (CallSite.safe_object (binds.allowed_noObject named fine)).bind fun _ =>
      Evaluation.safe_step _

/-- The function of a call either keeps its declaration or may ask what it likes; both ways it can
be called. -/
theorem Instruction.Binds.safe_value
    (binds : instruction.Binds functions returns (fun kind _ plan => plan.Sound lenient kind) cut)
    (inner : instruction.BreaksIn breaks) {text : Text} (named : Name.front? text = some cut.name)
    (keeps : ∀ function ∈ functions.functions, function.KeepsDeclaration ∨ lenient)
    (who : Participants) (place : Place) :
    (instruction.value who place).Safe (EvaluationFault.Allowed lenient breaks) := by
  have member := List.mem_of_find?_eq_some binds.resolved
  have answers (question : Question) (fine : question.Declared instruction.function.parameters
      instruction.function.isMember ∨ lenient) := binds.safe_answer inner named who place fine
  rw [Instruction.value_eq_run]
  rcases keeps instruction.function member with declared | free
  · exact declared.safe_run trivial (fun _ => trivial) fun question asked =>
      answers question (.inl asked)
  · exact instruction.function.body.safe_run trivial (fun _ => trivial) fun question =>
      answers question (.inr free)

end Instructions

section Plans

variable {lenient : Prop} {breaks : Text → Prop}

theorem Value.safe_returned (kind : ValueKind) (value : Value) :
    (value.returned kind).Safe (EvaluationFault.Allowed lenient breaks) := by
  cases kind with
  | text => exact Evaluation.safe_pure _
  | number =>
    refine Evaluation.Safe.bind ?_ fun x => Evaluation.safe_pure _
    unfold asNumber
    split
    · exact Evaluation.safe_pure _
    · split
      · exact Evaluation.safe_pure _
      · exact Evaluation.safe_throw trivial

/-- A formula takes a value for each of its slots, the only slot of one without calls included. -/
theorem Compiled.safe_evaluate {compiled : Compiled} {values : List Value}
    (count : compiled.slotCount = max values.length 1)
    (broken : ∀ values name, compiled.eval values = .error (.computation (.breakdown name)) →
      breaks name) :
    (compiled.evaluate values).Safe (EvaluationFault.Allowed lenient breaks) := by
  have size : (if values.isEmpty then [.number 0] else values).length = compiled.slotCount := by
    cases values with
    | nil => exact count.symm
    | cons x xs =>
      rw [count, List.length_cons, Nat.max_eq_left (by omega)]
      rfl
  unfold evaluate
  split
  · exact Evaluation.safe_pure _
  · rename_i fault failed
    refine Evaluation.safe_throw ?_
    cases fault with
    | valueCount expected given =>
      rw [eval, if_neg (by rw [size]; simp)] at failed
      generalize compiled.function _ = outcome at failed
      cases outcome <;> cases failed
    | computation fault =>
      cases fault with
      | arithmetic => trivial
      | breakdown name => exact broken _ name failed

theorem Binding.values_cons (who : Participants) (binding : Binding) (rest : List Binding) :
    values who (binding :: rest) = do
      let x ← (← Instruction.value who binding.place binding.instruction).returned
        binding.instruction.function.returns
      let xs ← values who rest
      return x :: xs := by
  simp only [values, List.mapM_cons, bind_assoc]

theorem Binding.length_of_values {who : Participants} {bindings : List Binding}
    {before after : Scene} {given : List Value}
    (done : (values who bindings).runIn before = (.ok given, after)) :
    given.length = bindings.length := by
  induction bindings generalizing before after given with
  | nil =>
    cases done
    rfl
  | cons binding rest ih =>
    simp only [values_cons, Evaluation.runIn_bind_eq_ok_iff] at done
    obtain ⟨value, _, _, x, _, _, xs, _, others, result⟩ := done
    cases result
    rw [List.length_cons, List.length_cons, ih others]

theorem Binding.safe_values {who : Participants} {bindings : List Binding}
    (each : ∀ binding ∈ bindings, (binding.instruction.value who binding.place).Safe
      (EvaluationFault.Allowed lenient breaks)) :
    (values who bindings).Safe (EvaluationFault.Allowed lenient breaks) := by
  induction bindings with
  | nil => exact Evaluation.safe_pure _
  | cons binding rest ih =>
    rw [values_cons]
    refine (each binding List.mem_cons_self).bind fun value => ?_
    refine (value.safe_returned _).bind fun x => ?_
    exact (ih fun other member => each other (List.mem_cons_of_mem _ member)).bind
      fun xs => Evaluation.safe_pure _

theorem Plan.values_bindings (who : Participants) (place : Place) (compiled : Compiled)
    (calls : List Instruction) :
    Binding.values who ((Plan.formula compiled calls).bindings place) =
      Instruction.values who place 0 calls := by
  rw [bindings]
  generalize 0 = first
  induction calls generalizing first with
  | nil => rfl
  | cons call rest ih =>
    rw [List.zipIdx_cons, List.map_cons, Binding.values_cons, Instruction.values, ih]

theorem Plan.sound_formula {compiled : Compiled} {calls : List Instruction}
    (count : compiled.slotCount = max calls.length 1)
    (each : ∀ call ∈ calls, ∀ who place, (call.value who place).Safe
      (EvaluationFault.Allowed lenient (formula compiled calls).Breaks)) :
    (formula compiled calls).Sound lenient .number := by
  rintro value wanted who place plain
  cases value with
  | number =>
    change (Plan.number who place plain (.formula compiled calls)).Safe _
    rw [Plan.number, ← values_bindings who place compiled calls]
    refine (Binding.safe_values fun binding member => ?_).bind_of_value fun values _ _ done => ?_
    · refine each _ ?_ who binding.place
      rw [← map_instruction_bindings place compiled calls]
      exact List.mem_map_of_mem member
    · refine Compiled.safe_evaluate ?_ fun values name failed =>
        ⟨compiled, values, .here, failed⟩
      rw [count, Binding.length_of_values done, ← List.length_map Binding.instruction,
        map_instruction_bindings]
  | text =>
    change (Plan.content who place plain (.formula compiled calls)).Safe _
    rw [Plan.content]
    exact Evaluation.safe_throw (wanted.resolve_left nofun)

theorem Plan.sound_text {segments : List Segment}
    (each : ∀ segment ∈ segments, ∀ call, segment.call? = some call → ∀ who place,
      (call.value who place).Safe (EvaluationFault.Allowed lenient (text segments).Breaks)) :
    (text segments).Sound lenient .text := by
  rintro value wanted who place plain
  cases value with
  | number =>
    change (Plan.number who place plain (.text segments)).Safe _
    rw [Plan.number]
    exact Evaluation.safe_throw (wanted.resolve_left nofun)
  | text =>
    change (Plan.content who place plain (.text segments)).Safe _
    rw [Plan.content]
    generalize (Plan.text segments).Breaks = breaks at each ⊢
    generalize 0 = first
    induction segments generalizing first with
    | nil => exact Evaluation.safe_pure _
    | cons segment rest ih =>
      have content : (segment.content who (first :: place)).Safe
          (EvaluationFault.Allowed lenient breaks) := by
        cases segment with
        | literal text => exact Evaluation.safe_pure _
        | call call =>
          rw [Segment.content]
          exact (each _ List.mem_cons_self call rfl who _).bind fun _ => Evaluation.safe_pure _
      rw [Segment.joined]
      refine content.bind fun front => ?_
      exact (ih (fun other member => each other (List.mem_cons_of_mem _ member)) (first + 1)).bind
        fun others => Evaluation.safe_pure _

theorem Plan.sound_of_prepare {functions : Registry} {engine : FormulaEngine} {kind : ValueKind}
    {text : Text} {plan : Plan}
    (keeps : ∀ function ∈ functions.functions, function.KeepsDeclaration ∨ lenient)
    (success : (prepare functions engine kind text).result = .ok plan) :
    plan.Sound lenient kind := by
  refine prepare_induction (motive := fun kind _ plan => plan.Sound lenient kind)
    ?formula ?expression kind success
  case formula =>
    intro text calls compiled _ bound parsed
    refine sound_formula (Compiled.of_parse parsed).2.1 fun call member who place => ?_
    obtain ⟨cut, front, named, binds⟩ := Draft.exists_binds_of_mem bound member
    refine binds.safe_value ?_ named keeps who place
    exact fun argument among inner held name broken => broken.deeper member among held
  case expression =>
    intro text parts segments _ rendered
    refine sound_text fun segment member call known who place => ?_
    obtain ⟨cut, front, named, binds⟩ := Term.exists_binds_of_mem rendered member known
    refine binds.safe_value ?_ named keeps who place
    intro argument among inner held name broken
    exact broken.deeper (List.mem_filterMap.mpr ⟨segment, member, known⟩) among held

theorem Plan.safe_answer_of_within {functions : Registry} {engine : FormulaEngine}
    {kind : ValueKind} {text : Text} {plan : Plan}
    (keeps : ∀ function ∈ functions.functions, function.KeepsDeclaration ∨ lenient)
    (success : (prepare functions engine kind text).result = .ok plan) {call : Instruction}
    (within : call.Within plan) (who : Participants) (place : Place) {question : Question}
    (fine : question.Declared call.function.parameters call.function.isMember ∨ lenient) :
    ((call.site who place).answer question).Safe
      (EvaluationFault.Allowed lenient plan.Breaks) := by
  obtain ⟨returns, cut, front, named, binds⟩ := exists_binds_of_within success within
  have sound : call.Binds functions returns (fun kind _ plan => plan.Sound lenient kind) cut :=
    binds.imp fun _ _ _ _ prepared => sound_of_prepare keeps prepared
  refine sound.safe_answer ?_ named who place fine
  exact fun argument among inner held name broken => broken.of_within within among held

end Plans

/-- Whether a fault may come up where a plan is evaluated that has been prepared: an ordinary one,
or the breakdown of one of the plan's formulas. -/
def Plan.MayFail (plan : Plan) (fault : EvaluationFault) : Prop :=
  fault.isOrdinary = true ∨
    ∃ name, fault = .run (.computation (.breakdown name)) ∧ plan.Breaks name

theorem EvaluationFault.Allowed.mayFail {plan : Plan} {fault : EvaluationFault}
    (allowed : fault.Allowed False plan.Breaks) : plan.MayFail fault := by
  cases fault with
  | run cause =>
    cases cause with
    | valueCount => exact allowed.elim
    | computation cause =>
      cases cause with
      | arithmetic => exact .inl rfl
      | breakdown name => exact .inr ⟨name, rfl, allowed⟩
  | notWhole | notANumber | failure => exact .inl rfl
  | notPrepared | wrongKind | noArgument | noObject => exact allowed.elim

namespace Expression

variable {functions : Registry} {engine : FormulaEngine} {expression : Expression}

/-- An expression without added bindings is evaluated as the plan of its text. -/
theorem number_eq_of_added_eq_nil {plan : Plan} (noneAdded : expression.added = [])
    (prepared : expression.plan? = some plan) (who : Participants) :
    expression.number who = plan.number who expression.place expression.plain := by
  cases plan with
  | formula compiled calls =>
    simp only [number, prepared, Plan.number, bindings, noneAdded, List.nil_append, Option.map_some,
      Option.getD_some, Plan.values_bindings]
  | text segments =>
    simp only [number, prepared, Plan.number]

/-- An expression that has been accepted, of calls to functions that keep their declarations, is
evaluated by the method of its kind with ordinary faults only, whatever the scene is like, unless
one of its formulas breaks down. Nor is there another fault that a function could catch: at any
depth, what a function is declared to ask is answered in the same way. -/
theorem mayFail_of_accepted (keeps : functions.KeepsDeclarations)
    (unprepared : expression.plan? = none) (noneAdded : expression.added = [])
    (accepted : (expression.prepare functions engine).1.kind?.isSome = true)
    (who : Participants) (scene : Scene) :
    let prepared := (expression.prepare functions engine).2.1
    ∃ plan, prepared.plan? = some plan ∧
      (plan.kind = .number → ∀ fault,
        ((prepared.number who).runIn scene).1 = .error fault → plan.MayFail fault) ∧
      (plan.kind = .text → ∀ fault,
        ((prepared.content who).runIn scene).1 = .error fault → plan.MayFail fault) ∧
      ∀ call : Instruction, call.Within plan → ∀ (place : Place) (question : Question),
        question.Declared call.function.parameters call.function.isMember → ∀ fault,
        (((call.site who place).answer question).runIn scene).1 = .error fault →
        plan.MayFail fault := by
  intro prepared
  obtain ⟨kind, known⟩ := Option.isSome_iff_exists.mp accepted
  obtain ⟨plan, success, same⟩ := prepare_of_kind unprepared known
  have declared : ∀ function ∈ functions.functions, function.KeepsDeclaration ∨ False :=
    fun function member => .inl (keeps function member)
  have sound : plan.Sound False kind := Plan.sound_of_prepare declared success
  have held : prepared.plan? = some plan := congrArg Expression.plan? same
  have own : prepared.added = [] := (congrArg Expression.added same).trans noneAdded
  rw [← Plan.kind_of_prepare success] at sound
  refine ⟨plan, held, ?_, ?_, ?_⟩
  · intro kind fault failed
    rw [number_eq_of_added_eq_nil own held] at failed
    exact (sound .number (.inl kind.symm) who _ _ scene fault failed).mayFail
  · intro kind fault failed
    rw [content, held] at failed
    exact (sound .text (.inl kind.symm) who _ _ scene fault failed).mayFail
  · intro call within place question asked fault failed
    have answered := Plan.safe_answer_of_within declared success within who place (.inl asked)
    exact (answered scene fault failed).mayFail

/-- A custom function that reads its formula twice and answers with a text if that fails. -/
def retrying : SceneFunction :=
  ⟨Text.lit "Retry", .number, [.expression, .identifier], true, .custom 0 <|
    .ask (.number 0) (fun x => .constant (.number x)) fun _ =>
      .ask (.number 0) (fun x => .constant (.number x)) fun _ =>
        .ask .object (fun name => .change (fun world => { world with name }) fun _ =>
          .constant (.text name)) fun _ => .pass⟩

/-- Calls in calls, of the library and of a function of its own, and a formula that is accepted and
breaks down whenever it is computed. -/
theorem mayFail_of_retrying :
    let functions := Registry.empty.insertLibrary.insert retrying
    let expression := Expression.ofText []
      (Text.lit "Hero.Name() + SubStr(ToString(Hero.Retry(Time(), x)), Hero.X(), Count(Hero))")
    let broken := Expression.ofText [] (Text.lit "abs(exp(Time()))")
    let scene := Scene.start (Text.lit "scene") (Identifiers.empty true 1) .standard 0
    functions.KeepsDeclarations ∧
      (∃ plan, (expression.prepare functions .standard).2.1.plan? = some plan ∧
        plan.kind = .text ∧ ∀ fault,
          (((expression.prepare functions .standard).2.1.content ⟨none, some 3⟩).runIn scene).1 =
            .error fault → plan.MayFail fault) ∧
      ∃ plan, (broken.prepare functions .standard).2.1.plan? = some plan ∧ plan.kind = .number ∧
        ((broken.prepare functions .standard).2.1.number ⟨none, none⟩).fault? scene =
          some (.run (.computation (.breakdown (Text.lit "NameError")))) ∧
        plan.Breaks (Text.lit "NameError") := by
  intro functions expression broken scene
  have keeps : functions.KeepsDeclarations := by
    refine Registry.keepsDeclarations_insert ?_ ?_
    · exact Registry.keepsDeclarations_insertLibrary nofun
    · exact ⟨rfl, fun _ => trivial, fun _ => ⟨rfl, fun _ => trivial, fun _ =>
        ⟨rfl, fun _ _ => trivial, fun _ => trivial⟩⟩⟩
  refine ⟨keeps, ?_, ?_⟩
  · have kind : (expression.prepare functions .standard).2.1.kind? = some .text := by
      decide +kernel
    have accepted := congrArg Option.isSome ((kind?_prepare functions .standard expression) ▸ kind)
    obtain ⟨plan, held, -, content, -⟩ :=
      mayFail_of_accepted keeps rfl rfl accepted ⟨none, some 3⟩ scene
    have text : plan.kind = .text := by
      rw [Expression.kind?, held] at kind
      exact Option.some.inj kind
    exact ⟨plan, held, text, content text⟩
  · have kind : (broken.prepare functions .standard).2.1.kind? = some .number := by
      decide +kernel
    have accepted := congrArg Option.isSome ((kind?_prepare functions .standard broken) ▸ kind)
    obtain ⟨plan, held, number, -, -⟩ :=
      mayFail_of_accepted keeps rfl rfl accepted ⟨none, none⟩ scene
    have formula : plan.kind = .number := by
      rw [Expression.kind?, held] at kind
      exact Option.some.inj kind
    have failed : ((broken.prepare functions .standard).2.1.number ⟨none, none⟩).fault? scene =
        some (.run (.computation (.breakdown (Text.lit "NameError")))) := by
      decide +kernel
    obtain ordinary | ⟨_, ⟨⟩, breaks⟩ := number formula _ (Evaluation.fault?_eq_some_iff.mp failed)
    · cases ordinary
    · exact ⟨plan, held, formula, failed, breaks⟩

end Expression

end SceneFormula
