import SceneFormula.Proofs.Descent

set_option autoImplicit false

namespace SceneFormula

/-- Whether a reading fails only for the text being no expression. -/
def Contained {α : Type} (reading : Except Mishap α) : Prop :=
  ∀ mishap, reading = .error mishap → ∃ fault, mishap = .fault fault

namespace Contained

variable {α β : Type}

theorem ok (value : α) : Contained (.ok value) := nofun

theorem fault (fault : SyntaxFault) : Contained (.error (.fault fault) : Except Mishap α) := by
  rintro _ ⟨⟩
  exact ⟨fault, rfl⟩

theorem bind {reading : Except Mishap α} {next : α → Except Mishap β} (first : Contained reading)
    (later : ∀ value, reading = .ok value → Contained (next value)) :
    Contained (reading >>= next) := by
  cases reading with
  | ok value => exact later value rfl
  | error mishap =>
    rintro _ ⟨⟩
    exact first mishap rfl

theorem mapM {xs : List α} {read : α → Except Mishap β} (each : ∀ x ∈ xs, Contained (read x)) :
    Contained (xs.mapM read) := by
  induction xs with
  | nil => exact ok []
  | cons x xs ih =>
    rw [List.mapM_cons]
    refine bind (each x List.mem_cons_self) fun y _ => ?_
    refine bind (ih fun z member => each z (List.mem_cons_of_mem x member)) fun ys _ => ?_
    exact ok (y :: ys)

theorem splitAt (text : Text) (separator : Char) : Contained (text.splitAt separator) := by
  rw [Text.splitAt_eq]
  cases text.split separator with
  | ok parts => exact ok parts
  | error fault => exact .fault (.call (.nesting fault))

/-- A formula is at fault for its text only, if what is built of its calls is. -/
theorem formulaFrom {isBuiltin : Name → Bool} {build : Call → Except Mishap α} {text : Text}
    (each : ∀ cut ∈ (Draft.ofText isBuiltin text).calls, Contained (build cut)) :
    Contained (text.formulaFrom isBuiltin build 0 [] []) := by
  rw [Text.formulaFrom_eq, Draft.buildFrom]
  refine bind (mapM each) fun more _ => ?_
  split
  · exact fault _
  · exact ok _

variable {functions : Registry} {returns : ValueKind}
  {prepare : ValueKind → Text → Except Mishap Plan}

theorem instruction {cut : Call}
    (each : ∀ argument ∈ cut.arguments, ∀ kind, Contained (prepare kind argument)) :
    Contained (Instruction.read functions returns prepare cut) := by
  rw [Instruction.read]
  split
  · exact fault _
  · split
    · exact fault _
    · refine bind (mapM fun pair member => ?_) fun arguments _ => ok _
      rw [Argument.read]
      split
      · exact ok _
      · exact bind (each pair.1 (List.of_mem_zip member).1 _) fun plan _ => ok _

theorem segment {build : Call → Except Mishap Instruction} {whole term : Text}
    (each : ∀ cut, Term.ofPart whole term = .ok (.call cut) → Contained (build cut)) :
    Contained (Segment.read build whole term) := by
  rw [Segment.read_eq]
  split
  · exact fault _
  · exact ok _
  · rename_i cut known
    exact bind (each cut known) fun call _ => ok _

variable {compile : Text → Nat → Except Mishap Compiled}

/-- A text that is prepared deeper than it leads is at fault for itself only. -/
theorem readWithin_of_unreached (compiles : ∀ source count, Contained (compile source count))
    {depth : Nat} {plain : Text} (unreached : ∀ inner, ¬ plain.Descends functions depth inner)
    (kind : ValueKind) : Contained (Plan.readWithin functions compile depth kind plain) := by
  induction depth generalizing plain kind with
  | zero => exact absurd (.here plain) (unreached plain)
  | succ depth ih =>
    cases kind with
    | number =>
      rw [Plan.readWithin]
      refine bind (formulaFrom fun cut member => instruction fun argument among kind => ?_)
        fun found _ => bind (compiles _ _) fun compiled _ => ok _
      exact ih (fun inner later => unreached inner (.argument (.formula member) among later)) kind
    | text =>
      rw [Plan.readWithin]
      split
      · exact fault _
      · rename_i visible
        refine bind (splitAt plain '+') fun terms done => ?_
        refine bind (mapM fun term member => ?_) fun segments _ => ok _
        refine segment fun cut known => instruction fun argument among kind => ?_
        have parted : Term.parts plain = .ok terms := by
          rw [Term.parts, if_neg visible, Text.split_of_splitAt done]
          rfl
        exact ih (fun inner later => unreached inner
          (.argument (.term parted member known) among later)) kind

theorem readWithin (compiles : ∀ source count, Contained (compile source count)) {depth : Nat}
    {plain : Text} (shallow : plain.length < depth) (kind : ValueKind) :
    Contained (Plan.readWithin functions compile depth kind plain) :=
  readWithin_of_unreached compiles (Text.not_descends_of_length_lt (by omega)) kind

theorem read (compiles : ∀ source count, Contained (compile source count)) (kind : ValueKind)
    (plain : Text) : Contained (Plan.read functions compile kind plain) :=
  readWithin compiles (Nat.lt_succ_self _) kind

end Contained

namespace Attempt

variable {α β : Type}

def reading (attempt : Attempt α) : Except Mishap α := attempt.result.mapError .ofStop

@[simp] theorem reading_pure (value : α) : (Pure.pure value : Attempt α).reading = .ok value := rfl

@[simp] theorem reading_bind (first : Attempt α) (next : α → Attempt β) :
    (first >>= next).reading = first.reading >>= fun value => (next value).reading := by
  change (bind first next).reading = _
  cases done : first.result with
  | error fault => simp [reading, bind_result_of_error done, done, Except.mapError]
  | ok value => simp [reading, bind_result_of_ok done, done, Except.mapError]

theorem mapM_eq_reading_forEach {xs : List α} {read : α → Except Mishap β}
    {attempt : α → Attempt β} (each : ∀ x ∈ xs, read x = (attempt x).reading) :
    xs.mapM read = (forEach xs fun x _ => attempt x).reading := by
  induction xs with
  | nil => rfl
  | cons x xs ih =>
    have unfolded : (forEach (x :: xs) fun x _ => attempt x) =
        (attempt x >>= fun y => (forEach xs fun x _ => attempt x) >>= fun ys =>
          Pure.pure (y :: ys)) := rfl
    rw [List.mapM_cons, unfolded, each x List.mem_cons_self,
      ih fun z member => each z (List.mem_cons_of_mem x member)]
    simp only [reading_bind, reading_pure]
    rfl

end Attempt

section Preparing

variable {functions : Registry} {returns : ValueKind}
  {prepare : ValueKind → Text → Except Mishap Plan} {attempt : ValueKind → Text → Attempt Plan}

/-- A call is bound by positions as it is bound, if its arguments are prepared so. -/
theorem Instruction.read_eq {cut : Call}
    (each : ∀ argument ∈ cut.arguments, ∀ kind, prepare kind argument =
      (attempt kind argument).reading) :
    Instruction.read functions returns prepare cut =
      (Instruction.ofCall functions returns cut fun argument _ kind =>
        attempt kind argument).reading := by
  rw [Instruction.read, Instruction.ofCall]
  cases functions.resolve cut.name.text returns with
  | none => rfl
  | some function =>
    by_cases arity : cut.arguments.length ≠ function.parameters.length
    · simp only [if_pos arity]
      rfl
    · simp only [if_neg arity, Attempt.reading_bind, Attempt.reading_pure]
      congr 1
      refine Attempt.mapM_eq_reading_forEach fun pair member => ?_
      rw [Argument.read]
      cases pair.2.value? with
      | none => rfl
      | some kind =>
        simp only [each pair.1 (List.of_mem_zip member).1, Attempt.reading_bind,
          Attempt.reading_pure]
        rfl

/-- A term is prepared by positions as it is prepared, if the call that it may be is. -/
theorem Segment.read_eq_reading {build : Call → Except Mishap Instruction} {whole term : Text}
    {attempt : Call → Attempt Instruction}
    (each : ∀ cut, Term.ofPart whole term = .ok (.call cut) → build cut = (attempt cut).reading) :
    Segment.read build whole term =
      (match _ : Term.ofPart whole term with
        | .error fault => Attempt.fail fault
        | .ok (.literal content) => Pure.pure (Segment.literal content)
        | .ok (.call cut) => do return .call (← attempt cut)).reading := by
  rw [Segment.read_eq]
  cases known : Term.ofPart whole term with
  | error fault => rfl
  | ok part =>
    cases part with
    | literal content => rfl
    | call cut =>
      simp only [each cut known, Attempt.reading_bind, Attempt.reading_pure]
      rfl

end Preparing

/-- The mishap that stops the compilation of a formula. -/
def Mishap.ofFormula (source : Text) : Stop FormulaFault → Mishap
  | .fault cause => .fault (.formula source cause)
  | .breakdown name => .breakdown name

namespace Compiled

variable (engine : FormulaEngine) (source : Text) (count : Nat)

def read : Except Mishap Compiled :=
  (parse engine source count).mapError (.ofFormula source)

/-- How a formula is compiled over its slots by one who has every breakdown for a fault. -/
def readGuarded : Except Mishap Compiled :=
  (parse engine source count).mapError fun _ => .fault (.formula source (.notComputable none))

theorem contained_readGuarded : Contained (readGuarded engine source count) := by
  rw [readGuarded]
  cases parse engine source count with
  | ok compiled => exact Contained.ok compiled
  | error stop => exact Contained.fault _

theorem read_eq : Compiled.read engine source count = (attempt engine source count).reading := by
  rw [Compiled.read, attempt]
  cases parse engine source count with
  | ok compiled => rfl
  | error stop => cases stop <;> rfl

end Compiled

theorem Plan.readWithin_text (functions : Registry) (compile : Text → Nat → Except Mishap Compiled)
    (depth : Nat) (plain : Text) :
    readWithin functions compile (depth + 1) .text plain = (do
      let terms ← (Term.parts plain).mapError .fault
      let segments ← terms.mapM
        (Segment.read (Instruction.read functions .text (readWithin functions compile depth)) plain)
      return .text segments) := by
  rw [readWithin, Term.parts, Text.splitAt_eq]
  split
  · rfl
  · cases plain.split '+' <;> rfl

/-- A text that is prepared by positions, and deeper than it leads, is prepared as it is. -/
theorem Plan.readWithin_eq {functions : Registry} {engine : FormulaEngine} {depth : Nat}
    {plain : Text}
    (unreached : ∀ inner, ¬ plain.Descends functions depth inner) (kind : ValueKind) :
    Plan.readWithin functions (Compiled.read engine) depth kind plain =
      (Plan.prepare functions engine kind plain).reading := by
  -- arguments are prepared one level down, and this text leads to them, so nothing below is as deep
  induction depth generalizing plain kind with
  | zero => exact absurd (.here plain) (unreached plain)
  | succ depth ih =>
    cases kind with
    | number =>
      have calls : (Draft.ofText (isBuiltinCall functions) plain).calls.mapM
            (Instruction.read functions .number
              (readWithin functions (Compiled.read engine) depth)) =
          (Attempt.forEach (Draft.ofText (isBuiltinCall functions) plain).calls fun cut _ =>
            Instruction.ofCall functions .number cut fun argument _ kind =>
              prepare functions engine kind argument).reading := by
        refine Attempt.mapM_eq_reading_forEach fun cut member =>
          Instruction.read_eq fun argument among kind => ?_
        exact ih (fun inner later => unreached inner (.argument (.formula member) among later)) kind
      have draft : Draft.scan (isBuiltinCall functions) (plain.take 0).getLast? 0 (plain.drop 0) =
          Draft.ofText (isBuiltinCall functions) plain := rfl
      rw [readWithin, prepare, Text.formulaFrom_eq, draft, Draft.buildFrom, calls, bind_assoc,
        Attempt.reading_bind]
      congr 1
      funext bound
      cases (Draft.ofText (isBuiltinCall functions) plain).fault? with
      | some fault => rfl
      | none =>
        simp only [Attempt.reading_bind, Attempt.reading_pure, Compiled.read_eq]
        rfl
    | text =>
      rw [readWithin_text, prepare]
      cases parted : Term.parts plain with
      | error fault => rfl
      | ok terms =>
        rw [Attempt.reading_bind]
        refine congrArg (fun found => found >>= fun segments => Except.ok (Plan.text segments))
          (Attempt.mapM_eq_reading_forEach fun term member => ?_)
        refine Segment.read_eq_reading fun cut known => ?_
        refine Instruction.read_eq fun argument among kind => ?_
        exact ih (fun inner later => unreached inner
          (.argument (.term parted member known) among later)) kind

theorem Plan.read_eq (functions : Registry) (engine : FormulaEngine) (kind : ValueKind)
    (plain : Text) :
    Plan.read functions (Compiled.read engine) kind plain =
      (Plan.prepare functions engine kind plain).reading :=
  readWithin_eq (Text.not_descends_of_length_lt (by omega)) kind

theorem Plan.kind_of_read {functions : Registry} {compile : Text → Nat → Except Mishap Compiled}
    {kind : ValueKind} {plain : Text} {plan : Plan}
    (done : Plan.read functions compile kind plain = .ok plan) : plan.kind = kind := by
  cases kind with
  | number =>
    rw [read, readWithin] at done
    obtain ⟨found, _, done⟩ := Mishap.exists_of_bind done
    obtain ⟨compiled, _, done⟩ := Mishap.exists_of_bind done
    cases done
    rfl
  | text =>
    rw [read, readWithin_text] at done
    obtain ⟨terms, _, done⟩ := Mishap.exists_of_bind done
    obtain ⟨segments, _, done⟩ := Mishap.exists_of_bind done
    cases done
    rfl

/-- What the outcome of a preparation tells of the expression before and after it. -/
structure Outcome.Tells (outcome : Outcome) (before after : Expression) : Prop where
  success : outcome.kind?.isSome = after.plan?.isSome
  kind : outcome.kind? = after.kind?
  textFault : outcome.textFault?.isSome = true ↔ outcome.kind? = none
  formulaFault : outcome.formulaFault?.isSome = true ↔
    outcome.kind? = none ∨ before.plan? = none ∧ after.kind? = some .text

namespace Expression

variable {functions : Registry} {compile : Text → Nat → Except Mishap Compiled}
  {expression : Expression}

theorem exists_tells_of_read (compiles : ∀ source count, Contained (compile source count)) :
    ∃ outcome after, expression.read functions compile = .ok (outcome, after) ∧
      outcome.Tells expression after := by
  rw [read]
  cases prepared : expression.plan? with
  | some plan =>
    refine ⟨_, _, rfl, ?_, ?_, ?_, ?_⟩ <;>
      simp [kind?, Outcome.kind?, Outcome.textFault?, Outcome.formulaFault?, prepared]
  | none =>
    have formula : Contained (Plan.read functions compile .number expression.plain) :=
      Contained.read compiles .number expression.plain
    have text : Contained (Plan.read functions compile .text expression.plain) :=
      Contained.read compiles .text expression.plain
    cases asFormula : Plan.read functions compile .number expression.plain with
    | ok plan =>
      have kind := Plan.kind_of_read asFormula
      refine ⟨_, _, rfl, ?_, ?_, ?_, ?_⟩ <;>
        simp [kind?, Outcome.kind?, Outcome.textFault?, Outcome.formulaFault?, kind]
    | error mishap =>
      obtain ⟨formulaFault, rfl⟩ := formula mishap asFormula
      cases asText : Plan.read functions compile .text expression.plain with
      | ok plan =>
        have kind := Plan.kind_of_read asText
        refine ⟨_, _, rfl, ?_, ?_, ?_, ?_⟩ <;>
          simp [kind?, Outcome.kind?, Outcome.textFault?, Outcome.formulaFault?, kind, prepared]
      | error mishap =>
        obtain ⟨textFault, rfl⟩ := text mishap asText
        refine ⟨_, _, rfl, ?_, ?_, ?_, ?_⟩ <;>
          simp [kind?, Outcome.kind?, Outcome.textFault?, Outcome.formulaFault?, prepared]

/-- What is left of a preparation by positions: its outcome and the expression, or a breakdown. -/
def settled : Outcome × Expression × List Event → Except Mishap (Outcome × Expression)
  | (.raised name, _, _) => .error (.breakdown name)
  | (outcome, after, _) => .ok (outcome, after)

/-- An expression is prepared by positions as it is prepared. -/
theorem read_eq (functions : Registry) (engine : FormulaEngine) (expression : Expression) :
    expression.read functions (Compiled.read engine) =
      settled (expression.prepare functions engine) := by
  rw [read]
  cases attempted functions engine expression with
  | prepared plan held =>
    rw [prepare_of_prepared held, held]
    rfl
  | formula plan unprepared formula =>
    simp only [unprepared, Plan.read_eq, Attempt.reading, formula]
    rw [prepare_of_formula unprepared formula]
    rfl
  | breakdown name unprepared formula =>
    simp only [unprepared, Plan.read_eq, Attempt.reading, formula]
    rw [prepare_of_breakdown unprepared formula]
    rfl
  | text _ plan unprepared formula text =>
    simp only [unprepared, Plan.read_eq, Attempt.reading, formula, text]
    rw [prepare_of_text unprepared formula text]
    rfl
  | textBreakdown _ name unprepared formula text =>
    simp only [unprepared, Plan.read_eq, Attempt.reading, formula, text]
    rw [prepare_of_text_breakdown unprepared formula text]
    rfl
  | faults _ _ unprepared formula text =>
    simp only [unprepared, Plan.read_eq, Attempt.reading, formula, text]
    rw [prepare_of_faults unprepared formula text, unprepared]
    rfl

/-- The preparation of an expression always has an outcome, provided that formulas are compiled
without any mishap but faults. Nothing in it looks past a text's end or takes a name for granted
that is not there, however deep inside of calls, and the outcome tells what became of the
expression. It is the same preparation as that of the expressions of a scene, which breaks down only
where the compilation of a formula does. -/
theorem read_contained (functions : Registry) {compile : Text → Nat → Except Mishap Compiled}
    (compiles : ∀ source count, Contained (compile source count)) (expression : Expression) :
    (∃ outcome after, expression.read functions compile = .ok (outcome, after) ∧
      outcome.Tells expression after) ∧
    (∀ depth kind plain, plain.length < depth →
      Contained (Plan.readWithin functions compile depth kind plain)) ∧
    ∀ engine, expression.read functions (Compiled.read engine) =
      settled (expression.prepare functions engine) :=
  ⟨exists_tells_of_read compiles,
    fun _ kind _ shallow => Contained.readWithin compiles shallow kind,
    fun engine => read_eq functions engine expression⟩

/-- An argument is missing inside of the arguments of arguments. -/
theorem read_contained_missing_argument :
    let expression := ofText [] (Text.lit "1 + StrLength(\"a\" + ToString(Random(2,)))")
    let functions := Registry.empty.insertLibrary
    (∀ source count, Contained (Compiled.readGuarded .standard source count)) ∧
      (∃ outcome after,
        expression.read functions (Compiled.readGuarded .standard) = .ok (outcome, after) ∧
        outcome.Tells expression after) ∧
      expression.read functions (Compiled.read .standard) =
        settled (expression.prepare functions .standard) ∧
      (expression.prepare functions .standard).1.formulaFault?.map SyntaxFault.message =
        some (Text.lit "Empty argument in call Random") := by
  intro expression functions
  have compiles := Compiled.contained_readGuarded .standard
  obtain ⟨contained, -, same⟩ := read_contained functions compiles expression
  exact ⟨compiles, contained, same .standard, by decide +kernel⟩

end Expression

end SceneFormula
