import SceneFormula.Proofs.Concatenation
import SceneFormula.Proofs.Drafting
import SceneFormula.Proofs.EngineLaws
import SceneFormula.Proofs.Soundness

set_option autoImplicit false

namespace SceneFormula

namespace Call

/-- A text that shows something and is balanced, without commas outside of its parentheses, can be
the argument of a call, which is given the text without the blanks at its ends. -/
theorem written_of_argument {name : Name} (wellFormed : name.WellFormed) {text : Text}
    (filled : text.strip ≠ []) (balanced : text.Balanced [','] 0) :
    Written ⟨name, [text.strip], name.text ++ '(' :: (text ++ [')'])⟩ := by
  have own : text.strip.IsArgument := ⟨filled, text.strip_strip, balanced.strip⟩
  refine ⟨wellFormed, [], text, rfl, ?_, rfl⟩
  have lists : Lists [text.strip] (List.intercalate [','] [text]) :=
    .some (List.cons_ne_nil _ _) (.cons ⟨own, text.pads_strip⟩ .nil)
  simpa using lists

end Call

/-- A text that is a call is drafted as this call alone, unless the call is left to the formula. -/
theorem Draft.ofText_source {isBuiltin : Name → Bool} {cut : Call} (written : cut.Written)
    (foreign : isBuiltin cut.name = false) : ofText isBuiltin cut.source = ⟨[.call cut], none⟩ := by
  have found : Call.front? 0 cut.source = .ok (some cut) :=
    Call.front?_eq_ok_some_iff.mpr ⟨written, List.prefix_rfl⟩
  have named := Call.front?_name found
  have size : cut.source.drop cut.source.length = [] := List.drop_length
  obtain ⟨c, rest, source, start⟩ := written.exists_cons
  have unquoted : c ≠ Literal.quote := by
    rintro rfl
    exact absurd start (by decide)
  have starts : Name.startsAfter none (c :: rest) = true := by
    simp [Name.startsAfter_cons, start]
  generalize whole : cut.source = text at found named size
  rw [whole] at source
  subst source
  rw [ofText, scan, if_neg unquoted]
  split
  · rename_i none_
    rw [if_pos starts, named] at none_
    cases none_
  · rename_i name some_
    rw [if_pos starts, named] at some_
    cases some_
    split
    · rename_i failed
      rw [found] at failed
      cases failed
    · rename_i found? same
      rw [found] at same
      cases same
      simp only [Option.isNone_some, Bool.false_and, Option.isSome_some, Bool.true_and, foreign,
        Bool.or_self, Bool.false_eq_true, if_false]
      rw [whole, size, scan]
      rfl

namespace Plan

variable {functions : Registry} {engine : FormulaEngine} {cut : Call} {instruction : Instruction}

theorem exists_prepare_number_source (computes : engine.ComputesSlots) (written : cut.Written)
    (binds : instruction.Binds functions .number (fun kind plain plan =>
      (prepare functions engine kind plain).result = .ok plan) cut) :
    ∃ compiled, (prepare functions engine .number cut.source).result =
        .ok (.formula compiled [instruction]) ∧ ∀ x, compiled.eval [.number x] = .ok x := by
  obtain ⟨compiled, parsed, slot⟩ := Compiled.exists_parse_slot computes
  have foreign : isBuiltinCall functions cut.name = false := by
    simp [isBuiltinCall, binds.resolved]
  have draft := Draft.ofText_source written foreign
  refine ⟨compiled, prepare_number_eq_ok_iff.mpr ⟨[instruction], compiled, rfl, ?_⟩, slot⟩
  rw [draft]
  refine ⟨rfl, .cons binds .nil, ?_⟩
  change Compiled.parse engine (slotName 0 ++ []) 1 = _
  rw [List.append_nil]
  exact parsed

/-- A call that is left to no formula and bound to no function with a number as its value is no
formula. -/
theorem prepare_number_source_of_unknown (written : cut.Written)
    (foreign : isBuiltinCall functions cut.name = false)
    (unknown : functions.resolve cut.name.text .number = none) :
    (prepare functions engine .number cut.source).result =
      .error (.fault (.unknownFunction cut.name .number)) := by
  rw [prepare, Draft.ofText_source written foreign]
  refine Attempt.bind_result_of_error (Attempt.bind_result_of_error ?_)
  simp only [Instruction.ofCall, unknown]
  rfl

theorem prepare_text_source (written : cut.Written)
    (binds : instruction.Binds functions .text (fun kind plain plan =>
      (prepare functions engine kind plain).result = .ok plan) cut) :
    (prepare functions engine .text cut.source).result = .ok (.text [.call instruction]) := by
  have whole : Term.Concatenated [.call cut] (List.intercalate ['+'] [cut.source]) :=
    ⟨[cut.source], List.cons_ne_nil _ _, rfl,
      .cons ⟨cut.source, ⟨[], [], rfl, rfl, (List.append_nil _).symm⟩, .call written⟩ .nil⟩
  rw [List.intercalate_singleton] at whole
  exact prepare_text_eq_ok_iff_concatenated.mpr
    ⟨[.call cut], [.call instruction], whole, rfl, .cons ⟨instruction, rfl, binds⟩ .nil⟩

theorem number_slot {compiled : Compiled} (slot : ∀ x, compiled.eval [.number x] = .ok x)
    (returns : instruction.function.returns = .number) (who : Participants) (place : Place)
    (plain : Text) :
    (formula compiled [instruction]).number who place plain =
      instruction.value who (0 :: place) >>= Value.asNumber := by
  have value (x : Float) : compiled.evaluate [.number x] = pure x := by
    rw [Compiled.evaluate, List.isEmpty_cons, if_neg Bool.false_ne_true, slot]
  simp only [number, Instruction.values, returns, Value.returned, bind_assoc, pure_bind, value,
    bind_pure]

theorem content_call (who : Participants) (place : Place) (plain : Text)
    (instruction : Instruction) :
    (text [.call instruction]).content who place plain =
      Value.joined <$> instruction.value who (0 :: place) := by
  simp only [content, Segment.joined, Segment.content, bind_assoc, pure_bind, List.append_nil,
    map_eq_pure_bind]

end Plan

namespace Evaluation

theorem runIn_map {α β : Type} (f : α → β) (evaluation : Evaluation α) (scene : Scene) :
    (f <$> evaluation).runIn scene =
      ((evaluation.runIn scene).1.map f, (evaluation.runIn scene).2) := by
  rw [map_eq_pure_bind, runIn_bind]
  rcases evaluation.runIn scene with ⟨_ | _, _⟩ <;> rfl

end Evaluation

namespace Expression

variable {functions : Registry} {engine : FormulaEngine} {text : Text} {plan : Plan}

/-- A new expression whose text can be prepared as a formula is prepared as that. -/
theorem prepare_ofText_of_number (place : Place)
    (success : (Plan.prepare functions engine .number text).result = .ok plan) :
    ((ofText place text).prepare functions engine).1.kind? = some .number ∧
      ((ofText place text).prepare functions engine).2.1 =
        { ofText place text with plan? := some plan } := by
  rw [prepare_of_formula rfl success]
  exact ⟨rfl, rfl⟩

/-- A new expression whose text is no formula and can be prepared as a text expression is prepared
as that. -/
theorem prepare_ofText_of_text (place : Place) {fault : SyntaxFault}
    (formula : (Plan.prepare functions engine .number text).result = .error (.fault fault))
    (success : (Plan.prepare functions engine .text text).result = .ok plan) :
    ((ofText place text).prepare functions engine).1.kind? = some .text ∧
      ((ofText place text).prepare functions engine).2.1 =
        { ofText place text with plan? := some plan } := by
  rw [prepare_of_text rfl formula success]
  exact ⟨rfl, rfl⟩

end Expression

namespace LibraryFunction

/-- A call of a function with a text as its only argument. -/
def wrap (function : LibraryFunction) (text : Text) : Text :=
  function.name ++ '(' :: (text ++ [')'])

def callName (function : LibraryFunction) : Name := ⟨none, function.name⟩

theorem wellFormed_callName (function : LibraryFunction) : function.callName.WellFormed := by
  refine ⟨nofun, ?_⟩
  cases function <;> exact ⟨_, _, rfl, by decide, by decide⟩

variable {function : LibraryFunction} {text : Text}

theorem written_wrap (filled : text.strip ≠ []) (balanced : text.Balanced [','] 0) :
    Call.Written ⟨function.callName, [text.strip], function.wrap text⟩ :=
  Call.written_of_argument function.wellFormed_callName filled balanced

/-- In a registry that has a function with one value as its argument, a call of it is bound as soon
as the argument is prepared. -/
theorem binds_wrap {functions : Registry} {prepared : ValueKind → Text → Plan → Prop}
    {kind : ParameterKind} {value : ValueKind} {plan : Plan}
    (known : functions.get? function.declared.key = some function.declared)
    (free : function.isMember = false) (parameters : function.parameters = [kind])
    (valued : kind.value? = some value) (success : prepared value text.strip plan) :
    (Instruction.mk function.declared (function.wrap text) none
      [.prepared text.strip plan]).Binds functions function.returns prepared
        ⟨function.callName, [text.strip], function.wrap text⟩ := by
  have key : Registry.keyOf function.name function.returns = function.declared.key := by
    have plain : '.' ∉ function.name := by cases function <;> decide
    rw [Registry.keyOf, if_neg plain, SceneFunction.key, declared, free]
  refine ⟨?_, rfl, rfl, ?_, ?_⟩
  · exact (congrArg functions.get? key).trans known
  · exact (congrArg List.length parameters).symm
  · change List.Forall₂ _ ([text.strip].zip function.parameters) _
    rw [parameters]
    exact .cons ⟨rfl, value, valued, success⟩ .nil

end LibraryFunction

namespace Plan

variable (who : Participants) (place : Place) (whole plain : Text) (inner : Plan)

theorem number_textLength {compiled : Compiled} (slot : ∀ x, compiled.eval [.number x] = .ok x)
    (source : Text) :
    (formula compiled [.mk LibraryFunction.textLength.declared source none
        [.prepared plain inner]]).number who place whole =
      (fun content : Text => Double.ofInt content.length) <$>
        inner.content who (1 :: 0 :: place) plain := by
  rw [number_slot slot rfl, Instruction.value_eq_run]
  simp only [Instruction.function, LibraryFunction.declared, Body.run, LibraryFunction.run,
    CallSite.text, CallSite.argument, Instruction.site, Instruction.arguments, Argument.accesses,
    Argument.access, List.getElem?_cons_zero, Value.asNumber, pure_bind, bind_assoc,
    map_eq_pure_bind]

/-- A number as a text expression is what the value of the number is shown as. -/
theorem content_toText (source : Text) :
    (text [.call (.mk LibraryFunction.toText.declared source none
        [.prepared plain inner])]).content who place whole =
      Value.numberText <$> inner.number who (1 :: 0 :: place) plain := by
  rw [content_call, Instruction.value_eq_run]
  simp only [Instruction.function, LibraryFunction.declared, Body.run, LibraryFunction.run,
    CallSite.number, CallSite.argument, Instruction.site, Instruction.arguments,
    Argument.accesses, Argument.access, List.getElem?_cons_zero, Value.joined, pure_bind,
    bind_assoc, map_eq_pure_bind]

theorem prepare_text_strip {functions : Registry} {engine : FormulaEngine} {source : Text}
    {plan : Plan}
    (success : (prepare functions engine .text source).result = .ok plan) :
    (prepare functions engine .text source.strip).result = .ok plan ∧
      source.strip ≠ [] ∧ source.Balanced [','] 0 := by
  obtain ⟨terms, segments, concatenated, rfl, renders⟩ :=
    prepare_text_eq_ok_iff_concatenated.mp success
  refine ⟨?_, ?_, concatenated.balanced (by decide) (by decide)⟩
  · exact prepare_text_eq_ok_iff_concatenated.mpr
      ⟨terms, segments, concatenated.strip, rfl, renders⟩
  · obtain ⟨raws, some_raw, whole, each⟩ := concatenated.strip
    obtain ⟨raw, member⟩ := List.exists_mem_of_ne_nil raws some_raw
    obtain ⟨_, _, _, ⟨_, _, _, _, rfl⟩, written⟩ := exists_of_forall₂ each.flip member
    obtain ⟨c, rest, rfl, _⟩ := written.exists_cons
    have inside : c ∈ List.intercalate ['+'] raws := Text.mem_intercalate (by simp) member
    rw [whole]
    exact List.ne_nil_of_mem inside

theorem prepare_number_strip {functions : Registry} {engine : FormulaEngine} {source : Text}
    {plan : Plan} (ignores : engine.IgnoresBlanks) (closes : engine.ClosesParentheses)
    (success : (prepare functions engine .number source).result = .ok plan) :
    (∃ stripped, (prepare functions engine .number source.strip).result = .ok stripped ∧
      ∀ who place plain other, stripped.number who place plain = plan.number who place other) ∧
      source.strip ≠ [] ∧ source.Balanced [','] 0 := by
  obtain ⟨calls, compiled, rfl, faultless, bound, parsed⟩ := prepare_number_eq_ok_iff.mp success
  obtain ⟨kept, same, pads⟩ := Draft.ofText_strip faultless
  have balanced :=
    (Draft.cuts_of_faultless faultless).balanced (Compiled.balanced_of_parse closes parsed)
  generalize shown : (Draft.ofText (isBuiltinCall functions) source.strip).rewritten = inner at pads
  have stripped : Compiled.parse engine inner calls.length =
      .ok { compiled with source := inner } := by
    rw [Compiled.parse_strip ignores, pads.strip_eq] at parsed
    rw [Compiled.parse_strip ignores]
    generalize Compiled.parse engine _ _ = built at parsed ⊢
    cases built <;> cases parsed
    rfl
  refine ⟨⟨.formula { compiled with source := inner } calls, ?_, fun _ _ _ _ => rfl⟩, ?_, balanced⟩
  · rw [← same] at bound
    rw [← shown] at stripped
    exact prepare_number_eq_ok_iff.mpr ⟨calls, _, by rw [shown], kept, bound, stripped⟩
  · intro empty
    rw [empty, Draft.ofText, Draft.scan] at shown
    subst shown
    cases stripped

theorem exists_prepare_textLength {functions : Registry} {engine : FormulaEngine} {source : Text}
    {plan : Plan} (computes : engine.ComputesSlots)
    (known : functions.get? LibraryFunction.textLength.declared.key =
      some LibraryFunction.textLength.declared)
    (success : (prepare functions engine .text source).result = .ok plan) :
    ∃ compiled,
      (prepare functions engine .number (LibraryFunction.textLength.wrap source)).result =
        .ok (.formula compiled [.mk LibraryFunction.textLength.declared
          (LibraryFunction.textLength.wrap source) none [.prepared source.strip plan]]) ∧
      ∀ x, compiled.eval [.number x] = .ok x := by
  obtain ⟨stripped, filled, balanced⟩ := prepare_text_strip success
  exact exists_prepare_number_source computes (LibraryFunction.written_wrap filled balanced)
    (LibraryFunction.binds_wrap known rfl rfl rfl stripped)

theorem exists_prepare_toText {functions : Registry} {engine : FormulaEngine} {source : Text}
    {plan : Plan} (ignores : engine.IgnoresBlanks) (closes : engine.ClosesParentheses)
    (known : functions.get? LibraryFunction.toText.declared.key =
      some LibraryFunction.toText.declared)
    (unknown : functions.resolve LibraryFunction.toText.name .number = none)
    (success : (prepare functions engine .number source).result = .ok plan) :
    (prepare functions engine .number (LibraryFunction.toText.wrap source)).result =
      .error (.fault (.unknownFunction LibraryFunction.toText.callName .number)) ∧
    ∃ stripped,
      (prepare functions engine .text (LibraryFunction.toText.wrap source)).result =
        .ok (.text [.call (.mk LibraryFunction.toText.declared
          (LibraryFunction.toText.wrap source) none [.prepared source.strip stripped])]) ∧
      ∀ who place plain other, stripped.number who place plain = plan.number who place other := by
  obtain ⟨⟨stripped, prepared, same⟩, filled, balanced⟩ :=
    prepare_number_strip ignores closes success
  have written : Call.Written ⟨LibraryFunction.toText.callName, [source.strip],
      LibraryFunction.toText.wrap source⟩ := LibraryFunction.written_wrap filled balanced
  have foreign : isBuiltinCall functions LibraryFunction.toText.callName = false := by
    have word : (Builtin.named? LibraryFunction.toText.name).isSome = false := by decide
    simp [isBuiltinCall, LibraryFunction.callName, word]
  refine ⟨prepare_number_source_of_unknown written foreign unknown, stripped, ?_, same⟩
  exact prepare_text_source written (LibraryFunction.binds_wrap known rfl rfl rfl prepared)

end Plan

/-- The value of a formula as a text is evaluated as the formula is, at a place of its own. -/
theorem Expression.content_toText {functions : Registry} {engine : FormulaEngine} {source : Text}
    {plan : Plan} (place : Place) (ignores : engine.IgnoresBlanks)
    (closes : engine.ClosesParentheses)
    (known : functions.get? LibraryFunction.toText.declared.key =
      some LibraryFunction.toText.declared)
    (unknown : functions.resolve LibraryFunction.toText.name .number = none)
    (success : (Plan.prepare functions engine .number source).result = .ok plan) :
    let attempt :=
      (ofText place (LibraryFunction.toText.wrap source)).prepare functions engine
    attempt.1.kind? = some .text ∧ ∀ who plain,
      attempt.2.1.content who =
        Value.numberText <$> plan.number who (1 :: 0 :: place) plain := by
  intro attempt
  obtain ⟨formula, stripped, prepared, number⟩ :=
    Plan.exists_prepare_toText ignores closes known unknown success
  obtain ⟨kind, same⟩ := prepare_ofText_of_text place formula prepared
  refine ⟨kind, fun who plain => ?_⟩
  rw [same, content, ← number who _ source.strip plain]
  exact Plan.content_toText who place _ _ stripped _

theorem Expression.number_textLength {functions : Registry} {engine : FormulaEngine}
    {source : Text} {plan : Plan} (place : Place) (computes : engine.ComputesSlots)
    (known : functions.get? LibraryFunction.textLength.declared.key =
      some LibraryFunction.textLength.declared)
    (success : (Plan.prepare functions engine .text source).result = .ok plan) :
    let attempt :=
      (ofText place (LibraryFunction.textLength.wrap source)).prepare functions engine
    attempt.1.kind? = some .number ∧ ∀ who plain,
      attempt.2.1.number who = (fun content : Text => Double.ofInt content.length) <$>
        plan.content who (1 :: 0 :: place) plain := by
  intro attempt
  obtain ⟨compiled, prepared, slot⟩ := Plan.exists_prepare_textLength computes known success
  obtain ⟨kind, same⟩ := prepare_ofText_of_number place prepared
  refine ⟨kind, fun who plain => ?_⟩
  obtain ⟨parts, segments, rfl, -, -⟩ := Plan.prepare_text_eq_ok_iff.mp success
  have anyway : Plan.content who (1 :: 0 :: place) plain (.text segments) =
      Plan.content who (1 :: 0 :: place) source.strip (.text segments) := by
    rw [Plan.content, Plan.content]
  rw [same, number_eq_of_added_eq_nil rfl rfl, anyway]
  exact Plan.number_textLength who place _ _ _ slot _

end SceneFormula
