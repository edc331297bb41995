import SceneFormula.Proofs.Positions

set_option autoImplicit false

namespace SceneFormula

namespace Text

variable {text : Text} {i : Nat}

theorem front?_of_nameAt {name : Name} (named : nameAt text i = .ok name) :
    Name.front? (text.drop i) = some name := by
  rw [nameAt] at named
  split at named
  · cases named
    assumption
  · cases named

theorem nameAt_of_front? {name : Name} (named : Name.front? (text.drop i) = some name) :
    nameAt text i = .ok name := by
  rw [nameAt, named]

theorem front?_of_callAt {cut : Call} {next : Nat}
    (found : callAt text i = .ok (some (cut, next))) :
    Call.front? i (text.drop i) = .ok (some cut) ∧ next = i + cut.source.length := by
  rw [callAt_eq] at found
  cases called : Call.front? i (text.drop i) with
  | error fault =>
    rw [called] at found
    cases found
  | ok cut? =>
    rw [called] at found
    cases cut? with
    | none => cases found
    | some cut =>
      cases found
      exact ⟨rfl, rfl⟩

/-- A formula's text from a position on, with slots for its calls, and what is built of each of
these as soon as it is met. -/
def formulaFrom {α : Type} (isBuiltin : Name → Bool) (build : Call → Except Mishap α) (text : Text)
    (i : Nat) (rewritten : Text) (built : List α) : Except Mishap (Text × List α) :=
  if _ : i < text.length then do
    let c ← charAt text i
    if c = Literal.quote then .error (.fault .literalInFormula)
    else
      let starts ← startsNameAt text i
      if !starts then formulaFrom isBuiltin build text (i + 1) (rewritten ++ [c]) built
      else
        match _ : callAt text i with
        | .error mishap => .error mishap
        | .ok none =>
          match _ : nameAt text i with
          | .error mishap => .error mishap
          | .ok name =>
            if slotPrefix.isPrefixOf name.text then .error (.fault (.reservedName name))
            else
              formulaFrom isBuiltin build text (i + name.text.length) (rewritten ++ name.text) built
        | .ok (some (cut, next)) =>
          if isBuiltin cut.name then
            formulaFrom isBuiltin build text (i + cut.name.text.length) (rewritten ++ cut.name.text)
              built
          else
            let value ← build cut
            formulaFrom isBuiltin build text next (rewritten ++ slotName built.length)
              (built ++ [value])
  else return (rewritten, built)
termination_by text.length - i
decreasing_by
  · omega
  · have := List.length_pos_iff.mpr (Name.text_ne_nil_of_front? (front?_of_nameAt ‹_›))
    omega
  · have found := Call.front?_name (front?_of_callAt ‹_›).1
    have := List.length_pos_iff.mpr (Name.text_ne_nil_of_front? found)
    omega
  · obtain ⟨found, past⟩ := front?_of_callAt ‹_›
    have := List.length_pos_iff.mpr (Call.source_ne_nil_of_front? found)
    omega

end Text

namespace Draft

variable {α : Type}

/-- What is built of the calls of a draft and the formula with slots for them, behind what was built
and written before. -/
def buildFrom (build : Call → Except Mishap α) (rewritten : Text) (built : List α) (draft : Draft) :
    Except Mishap (Text × List α) := do
  let more ← draft.calls.mapM build
  match draft.fault? with
  | some fault => .error (.fault fault)
  | none => return (rewritten ++ rewriteFrom built.length draft.parts, built ++ more)

section

variable {build : Call → Except Mishap α} {rewritten : Text} {built : List α}

theorem buildFrom_verbatim (text : Text) (draft : Draft) :
    buildFrom build rewritten built (after (.verbatim text) draft) =
      buildFrom build (rewritten ++ text) built draft := by
  have calls : (after (.verbatim text) draft).calls = draft.calls := rfl
  have parts : rewriteFrom built.length (after (.verbatim text) draft).parts =
      text ++ rewriteFrom built.length draft.parts := rfl
  rw [buildFrom, buildFrom, calls, parts, ← List.append_assoc]
  rfl

theorem buildFrom_call (cut : Call) (draft : Draft) :
    buildFrom build rewritten built (after (.call cut) draft) = (do
      let value ← build cut
      buildFrom build (rewritten ++ slotName built.length) (built ++ [value]) draft) := by
  have calls : (after (.call cut) draft).calls = cut :: draft.calls := rfl
  have parts : rewriteFrom built.length (after (.call cut) draft).parts =
      slotName built.length ++ rewriteFrom (built.length + 1) draft.parts := rfl
  have fault : (after (.call cut) draft).fault? = draft.fault? := rfl
  rw [buildFrom, calls, parts, fault, List.mapM_cons, bind_assoc]
  congr 1
  funext value
  simp only [buildFrom, bind_assoc, pure_bind, List.length_append, List.length_singleton,
    List.append_assoc, List.singleton_append]

end

end Draft

namespace Text

variable {α : Type} {isBuiltin : Name → Bool} {build : Call → Except Mishap α} {text : Text}
  {i : Nat} {rewritten : Text} {built : List α}

theorem formulaFrom_of_drop_cons {c : Char} {rest : Text} (tail : text.drop i = c :: rest) :
    formulaFrom isBuiltin build text i rewritten built =
      if c = Literal.quote then .error (.fault .literalInFormula)
      else if Name.startsAfter (text.take i).getLast? (c :: rest) = false then
        formulaFrom isBuiltin build text (i + 1) (rewritten ++ [c]) built
      else callAt text i >>= fun found =>
        match found with
        | none => nameAt text i >>= fun name =>
          if slotPrefix.isPrefixOf name.text then .error (.fault (.reservedName name))
          else
            formulaFrom isBuiltin build text (i + name.text.length) (rewritten ++ name.text) built
        | some (cut, next) =>
          if isBuiltin cut.name then
            formulaFrom isBuiltin build text (i + cut.name.text.length) (rewritten ++ cut.name.text)
              built
          else build cut >>= fun value =>
            formulaFrom isBuiltin build text next (rewritten ++ slotName built.length)
              (built ++ [value]) := by
  rw [formulaFrom, dif_pos (lt_length_of_drop tail), charAt_of_drop tail, Mishap.ok_bind,
    startsNameAt_eq tail, Mishap.ok_bind]
  simp only [Bool.not_eq_true']
  split
  · rfl
  · split
    · rfl
    · split
      · rename_i failed
        rw [failed]
        rfl
      · rename_i missing
        rw [missing, Mishap.ok_bind]
        split
        · rename_i failed
          rw [failed]
          rfl
        · rename_i named
          rw [named]
          rfl
      · rename_i found
        rw [found]
        rfl

theorem formulaFrom_eq (text : Text) (i : Nat) (rewritten : Text) (built : List α) :
    formulaFrom isBuiltin build text i rewritten built =
      (Draft.scan isBuiltin (text.take i).getLast? i (text.drop i)).buildFrom build rewritten
        built := by
  generalize before : (text.take i).getLast? = previous
  generalize tail : text.drop i = rest
  -- the scan knows what stands before it and what follows, in place of a position in the text
  fun_induction Draft.scan isBuiltin previous i rest generalizing rewritten built with
  | case1 =>
    have beyond := List.drop_eq_nil_iff.mp tail
    rw [formulaFrom, dif_neg beyond.not_gt]
    simp [Draft.buildFrom, Draft.calls, Draft.rewriteFrom]
  | case2 previous i rest =>
    rw [formulaFrom_of_drop_cons tail, if_pos rfl]
    rfl
  | case3 previous i c rest unquoted unnamed ih =>
    rw [formulaFrom_of_drop_cons tail, if_neg unquoted, before,
      if_pos (Draft.startsAfter_of_unnamed unnamed), Draft.buildFrom_verbatim]
    have whole : text.drop i = [c] ++ rest := tail
    exact ih _ _ (getLast?_take_of_drop whole (List.cons_ne_nil _ _))
      (drop_succ_of_drop tail)
  | case4 previous i c rest unquoted name named fault called =>
    obtain ⟨starts, -⟩ := Draft.startsAfter_of_named named
    rw [← tail] at called
    rw [formulaFrom_of_drop_cons tail, if_neg unquoted, before, starts, callAt_of_fault called]
    rfl
  | case5 previous i c rest unquoted name named found called kept ih =>
    obtain ⟨starts, first⟩ := Draft.startsAfter_of_named named
    have whole : text.drop i = name.text ++ (c :: rest).drop name.text.length := by
      rw [tail, Name.text_append_drop_of_front? first]
    have later := ih (rewritten ++ name.text) built
      (getLast?_take_of_drop whole (Name.text_ne_nil_of_front? first)) (drop_add_of_drop whole)
    rw [Draft.buildFrom_verbatim, ← later, formulaFrom_of_drop_cons tail, if_neg unquoted, before,
      starts, if_neg (by decide), callAt_of_found (tail ▸ called), Mishap.ok_bind]
    cases found with
    | none =>
      have unslotted : slotPrefix.isPrefixOf name.text = false := by simpa using kept
      simp only [Option.map_none, nameAt_of_front? (tail ▸ first), Mishap.ok_bind, unslotted,
        Bool.false_eq_true, if_false]
    | some cut =>
      have builtin : isBuiltin name = true := by simpa using kept
      have same : cut.name = name := Option.some.inj ((Call.front?_name called).symm.trans first)
      simp only [Option.map_some, same, builtin, if_true]
  | case6 previous i c rest unquoted name named called _ changed =>
    obtain ⟨starts, first⟩ := Draft.startsAfter_of_named named
    have slotted : slotPrefix.isPrefixOf name.text = true := by simpa using changed
    rw [formulaFrom_of_drop_cons tail, if_neg unquoted, before, starts, if_neg (by decide),
      callAt_of_found (tail ▸ called), Mishap.ok_bind]
    simp only [Option.map_none, nameAt_of_front? (tail ▸ first), Mishap.ok_bind, slotted, if_true]
    rfl
  | case7 previous i c rest unquoted name named cut called _ changed ih =>
    obtain ⟨starts, first⟩ := Draft.startsAfter_of_named named
    have same : cut.name = name := Option.some.inj ((Call.front?_name called).symm.trans first)
    have foreign : isBuiltin cut.name = false := by simpa [same] using changed
    have whole : text.drop i = cut.source ++ (c :: rest).drop cut.source.length := by
      rw [tail, Call.source_append_drop_of_front? called]
    have later (value : α) := ih (rewritten ++ slotName built.length) (built ++ [value])
      (getLast?_take_of_drop whole (Call.source_ne_nil_of_front? called)) (drop_add_of_drop whole)
    rw [Draft.buildFrom_call, formulaFrom_of_drop_cons tail, if_neg unquoted, before, starts,
      if_neg (by decide), callAt_of_found (tail ▸ called), Mishap.ok_bind]
    simp only [Option.map_some, foreign, Bool.false_eq_true, if_false, later]

end Text

def Argument.read (prepare : ValueKind → Text → Except Mishap Plan) (plain : Text)
    (kind : ParameterKind) : Except Mishap Argument :=
  match kind.value? with
  | none => return .name plain
  | some value => return .prepared plain (← prepare value plain)

def Instruction.read (functions : Registry) (returns : ValueKind)
    (prepare : ValueKind → Text → Except Mishap Plan) (cut : Call) : Except Mishap Instruction :=
  match functions.resolve cut.name.text returns with
  | none => .error (.fault (.unknownFunction cut.name returns))
  | some function =>
    if cut.arguments.length ≠ function.parameters.length then
      .error (.fault (.argumentCount cut.name function.parameters.length cut.arguments.length))
    else do
      let arguments ← (cut.arguments.zip function.parameters).mapM fun pair =>
        Argument.read prepare pair.1 pair.2
      return .mk function cut.source cut.name.object? arguments

/-- A term of a text expression, given how a call is bound; `whole` is the expression. -/
def Segment.read (bind : Call → Except Mishap Instruction) (whole term : Text) :
    Except Mishap Segment :=
  if term = [] then .error (.fault (.emptyTerm whole))
  else do
    let c ← term.charAt 0
    if c = Literal.quote then
      let next ← term.literalEndAt 0
      if next ≠ term.length then .error (.fault (.afterLiteral term))
      else return .literal (← Text.unescapedFrom term.tail.dropLast 0)
    else
      let starts ← term.startsNameAt 0
      let found ← if starts then term.callAt 0 else pure none
      match found with
      | none => .error (.fault (.notATerm term))
      | some (cut, next) =>
        if next ≠ term.length then .error (.fault (.notATerm term))
        else return .call (← bind cut)

theorem Segment.read_eq (bind : Call → Except Mishap Instruction) (whole term : Text) :
    Segment.read bind whole term =
      match Term.ofPart whole term with
      | .error fault => .error (.fault fault)
      | .ok (.literal content) => .ok (.literal content)
      | .ok (.call cut) => return .call (← bind cut) := by
  cases term with
  | nil => rfl
  | cons c rest =>
    have tail : (c :: rest).drop 0 = c :: rest := rfl
    rw [Segment.read, if_neg (List.cons_ne_nil _ _), Text.charAt_of_drop tail, Mishap.ok_bind,
      Term.ofPart]
    by_cases quoted : c = Literal.quote
    · rw [if_pos quoted, if_pos quoted, Text.literalEndAt_eq, Text.literalEnd, Nat.zero_add,
        List.drop_succ_cons, List.drop_zero]
      cases closed : Literal.close? rest with
      | none => rfl
      | some cut =>
        obtain ⟨body, after⟩ := cut
        have size : (c :: rest).length = body.length + 2 + after.length := by
          rw [List.length_cons, Literal.length_of_close? closed]
          omega
        have ended : (Except.ok (0 + body.length + 2)).mapError Mishap.ofNesting =
            .ok (body.length + 2) := by
          rw [Nat.zero_add]
          rfl
        rw [ended, Mishap.ok_bind, size]
        cases after with
        | nil =>
          rw [if_neg (by simp), Text.unescapedFrom_eq]
          rfl
        | cons d after => exact if_pos (by simp)
    · rw [if_neg quoted, if_neg quoted, Text.startsNameAt_eq tail, Mishap.ok_bind, List.take_zero,
        List.getLast?_nil]
      cases Name.startsAfter none (c :: rest) with
      | false => rfl
      | true =>
        rw [if_pos rfl, if_pos rfl]
        cases called : Call.front? 0 (c :: rest) with
        | error fault =>
          rw [Text.callAt_of_fault called]
          rfl
        | ok found =>
          rw [Text.callAt_of_found called, Mishap.ok_bind]
          cases found with
          | none => rfl
          | some cut =>
            simp only [Option.map_some, Nat.zero_add, ne_eq, ite_not]
            split <;> rfl

namespace Plan

/-- Prepare a text as an expression of a kind, with calls inside of calls down to a depth, given how
a formula is compiled over its slots. -/
def readWithin (functions : Registry) (compile : Text → Nat → Except Mishap Compiled) :
    Nat → ValueKind → Text → Except Mishap Plan
  | 0, _, _ => .error .tooDeep
  | depth + 1, .number, plain => do
    let (source, calls) ← plain.formulaFrom (isBuiltinCall functions)
      (Instruction.read functions .number (readWithin functions compile depth)) 0 [] []
    let compiled ← compile source calls.length
    return .formula compiled calls
  | depth + 1, .text, plain => do
    if plain.isAllBlank then .error (.fault .emptyText)
    else
      let terms ← plain.splitAt '+'
      let segments ← terms.mapM
        (Segment.read (Instruction.read functions .text (readWithin functions compile depth)) plain)
      return .text segments

/-- Prepare a text as an expression of a kind. No call is nested deeper than the text is long. -/
def read (functions : Registry) (compile : Text → Nat → Except Mishap Compiled) (kind : ValueKind)
    (plain : Text) : Except Mishap Plan :=
  readWithin functions compile (plain.length + 1) kind plain

end Plan

/-- Prepare an expression unless it has been: as a formula, or else as a text expression. Only that
the text is no expression is held back; any other mishap breaks out. -/
def Expression.read (functions : Registry) (compile : Text → Nat → Except Mishap Compiled)
    (expression : Expression) : Except Mishap (Outcome × Expression) :=
  match expression.plan? with
  | some plan => return (.prepared plan.kind none, expression)
  | none =>
    match Plan.read functions compile .number expression.plain with
    | .ok plan => return (.prepared .number none, { expression with plan? := some plan })
    | .error (.fault formulaFault) =>
      match Plan.read functions compile .text expression.plain with
      | .ok plan =>
        return (.prepared .text (some formulaFault), { expression with plan? := some plan })
      | .error (.fault textFault) =>
        return (.failed formulaFault textFault, { expression with failureReported := true })
      | .error mishap => .error mishap
    | .error mishap => .error mishap

end SceneFormula
