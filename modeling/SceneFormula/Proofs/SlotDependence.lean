import SceneFormula.Proofs.Arity
import SceneFormula.Proofs.Spelling

set_option autoImplicit false

namespace SceneFormula

theorem slotName_injective {index other : Nat} (same : slotName index = slotName other) :
    index = other := by
  have digits := List.append_cancel_left same
  rw [← Nat.ofDigitChars_toDigits (b := 10) (n := index) (by decide) (by decide), digits,
    Nat.ofDigitChars_toDigits (by decide) (by decide)]

/-- Whether the name of a slot is one of the tokens that make up a text. -/
def Text.NamesSlot (text : Text) (index : Nat) : Prop :=
  ∃ tokens, Token.Spells tokens text ∧ .name (slotName index) ∈ tokens

/-- Whether two lists of values have the same value for each slot that a text names. -/
def Text.AgreeOnSlots (text : Text) (values others : List Value) : Prop :=
  ∀ index, text.NamesSlot index → values[index]? = others[index]?

theorem Text.NamesSlot.mem_names {text : Text} {index : Nat} (names : text.NamesSlot index) :
    slotName index ∈ Token.names (Token.cut text).1 := by
  obtain ⟨tokens, spelled, named⟩ := names
  rw [Token.spells_iff.mp spelled]
  exact Token.mem_names_iff.mpr named

namespace Compiled

variable {engine : FormulaEngine} {text : Text} {count : Nat} {compiled : Compiled}

theorem of_check {x : Symbolic} {onSlots : List Value → Except ComputationFault Float}
    (checked : check x count = .ok onSlots) :
    unknownNames count x = [] ∧
      (∃ function, x.function = .ok function ∧
        onSlots = fun values => function (valuesByName count values)) ∧
      trial x count onSlots = .ok () := by
  unfold check at checked
  split at checked
  · cases checked
  · rename_i known
    rw [not_not] at known
    split at checked
    · cases checked
    · split at checked
      · cases checked
      · split at checked
        · cases checked
        · rename_i function compiles
          dsimp only at checked
          cases tried : trial x count fun values => function (valuesByName count values) with
          | error stop =>
            rw [tried] at checked
            cases checked
          | ok done =>
            rw [tried] at checked
            cases checked
            exact ⟨known, ⟨function, compiles, rfl⟩, tried⟩

theorem exists_of_trial {x : Symbolic} {function : List Value → Except ComputationFault Float}
    (closed : x.freeSymbols = []) (tried : trial x count function = .ok ()) :
    ∃ result, Double.isFinite result = true ∧
      function (List.replicate count (.number 0)) = .ok result := by
  rw [trial, closed, List.isEmpty_nil, if_pos rfl] at tried
  split at tried
  · rename_i result computed
    split at tried
    · exact ⟨result, ‹_›, computed⟩
    · cases tried
  · cases tried
  · cases tried

section Parse

variable (laws : engine.GoesByNames) (success : parse engine text count = .ok compiled)
include laws success

theorem exists_symbolic_of_parse : ∃ (x : Symbolic)
    (function : (Text → Option Value) → Except ComputationFault Float),
    check x (max count 1) = .ok compiled.function ∧
      (∀ name ∈ x.freeSymbols, ∃ index, slotNamed? (max count 1) name = some index ∧
        text.NamesSlot index) ∧
      compiled.function = (fun values => function (valuesByName (max count 1) values)) ∧
      ∀ values others, (∀ name ∈ x.freeSymbols, values name = others name) →
        function values = function others := by
  obtain ⟨-, -, faultless, x, read, checked⟩ := of_parse success
  obtain ⟨known, ⟨function, compiles, same⟩, -⟩ := of_check checked
  refine ⟨x, function, checked, fun name free => ?_, same,
    laws.computes text _ x function faultless read compiles⟩
  have slot : (slotNamed? (max count 1) name).isSome = true := by
    cases none_ : slotNamed? (max count 1) name with
    | some index => rfl
    | none =>
      have unknown : name ∈ unknownNames (max count 1) x :=
        List.mem_mergeSort.mpr (List.mem_filter.mpr ⟨free, by rw [none_]; rfl⟩)
      rw [known] at unknown
      cases unknown
  obtain ⟨index, found⟩ := Option.isSome_iff_exists.mp slot
  have own : slotName index = name := by simpa using List.find?_some found
  obtain ⟨whole, -⟩ := tokenFault?_eq_none_iff.mp faultless
  have among := laws.named text _ x faultless read name free
  exact ⟨index, found, _, Token.spells_cut whole, own ▸ Token.mem_names_iff.mp among⟩

theorem eval_congr {values others : List Value} (size : values.length = compiled.slotCount)
    (otherSize : others.length = compiled.slotCount) (agree : text.AgreeOnSlots values others) :
    compiled.eval values = compiled.eval others := by
  obtain ⟨x, function, -, symbols, same, depends⟩ := exists_symbolic_of_parse laws success
  have alike : compiled.function values = compiled.function others := by
    rw [same]
    refine depends _ _ fun name free => ?_
    obtain ⟨index, found, names⟩ := symbols name free
    rw [valuesByName, valuesByName, found, Option.bind_some, Option.bind_some, agree index names]
  rw [eval, if_neg (not_not.mpr size), eval, if_neg (not_not.mpr otherSize), alike]

theorem exists_eval_of_slotless (slotless : ∀ index, ¬ text.NamesSlot index) :
    ∃ result, Double.isFinite result = true ∧
      ∀ values, values.length = compiled.slotCount → compiled.eval values = .ok result := by
  obtain ⟨x, -, checked, symbols, -⟩ := exists_symbolic_of_parse laws success
  have closed : x.freeSymbols = [] := by
    refine List.eq_nil_iff_forall_not_mem.mpr fun name free => ?_
    obtain ⟨index, -, names⟩ := symbols name free
    exact slotless index names
  obtain ⟨-, -, tried⟩ := of_check checked
  obtain ⟨result, finite, computed⟩ := exists_of_trial closed tried
  refine ⟨result, finite, fun values size => ?_⟩
  -- What the function was tried with are values as good as any others.
  have zeros : (List.replicate (max count 1) (Value.number 0)).length = compiled.slotCount := by
    rw [List.length_replicate, (of_parse success).2.1]
  rw [eval_congr laws success size zeros fun index names => absurd names (slotless index),
    eval, if_neg (not_not.mpr zeros), computed]
  rfl

end Parse

end Compiled

namespace Draft

theorem digitFollowsCall_eq_false_of_callless {parts : List Part}
    (callless : parts.filterMap Part.call? = []) : digitFollowsCall parts = false := by
  induction parts with
  | nil => rfl
  | cons part rest ih =>
    cases part with
    | verbatim text => exact ih callless
    | call cut => cases callless

/-- A text without calls names no slot in the formula that it is compiled as. -/
theorem not_namesSlot_of_callless {functions : Registry} {engine : FormulaEngine} {text : Text}
    {compiled : Compiled} (apart : engine.KeepsNamesApart)
    (faultless : (ofText (isBuiltinCall functions) text).fault? = none)
    (callless : (ofText (isBuiltinCall functions) text).calls = [])
    (parsed : Compiled.parse engine (ofText (isBuiltinCall functions) text).rewritten 0 =
      .ok compiled) (index : Nat) :
    ¬ (ofText (isBuiltinCall functions) text).rewritten.NamesSlot index := by
  intro names
  have none : compiled.slotTokens = [] := by
    have counted : Compiled.parse engine (ofText (isBuiltinCall functions) text).rewritten
        (ofText (isBuiltinCall functions) text).calls.length = .ok compiled := by
      rwa [callless]
    have slots := slotTokens_eq_iff_of_parse apart faultless counted
    rw [callless] at slots
    exact slots.mpr (digitFollowsCall_eq_false_of_callless callless)
  have among : slotName index ∈ compiled.slotTokens := by
    rw [Compiled.slotTokens, (Compiled.of_parse parsed).1]
    refine List.mem_filter.mpr ⟨names.mem_names, ?_⟩
    exact List.isPrefixOf_iff_prefix.mpr (List.prefix_append _ _)
  rw [none] at among
  cases among

end Draft

/-- A formula that is prepared without calls has one finite value, also as an argument. -/
theorem Plan.exists_evaluate_of_callless {functions : Registry} {engine : FormulaEngine}
    {text : Text} {compiled : Compiled} (laws : engine.GoesByNames)
    (success : (prepare functions engine .number text).result = .ok (.formula compiled [])) :
    ∃ result, Double.isFinite result = true ∧
      ∀ scene, (compiled.evaluate []).runIn scene = (.ok result, scene) := by
  obtain ⟨calls, compiled, same, faultless, bound, parsed⟩ := prepare_number_eq_ok_iff.mp success
  cases same
  have callless := List.forall₂_nil_right_iff.mp bound
  obtain ⟨result, finite, value⟩ := Compiled.exists_eval_of_slotless laws parsed
    (Draft.not_namesSlot_of_callless laws.apart faultless callless parsed)
  refine ⟨result, finite, fun scene => ?_⟩
  have zero := value [.number 0] (Compiled.of_parse parsed).2.1.symm
  rw [Compiled.evaluate, List.isEmpty_nil, if_pos rfl, zero]
  rfl

theorem Usage.exists_number_of_bindings_eq_nil {place : Place} {plain : Text} {scene : Scene}
    {uses : List Use} (laws : ∀ before after, uses = before ++ .prepare :: after →
      ((start place plain scene).run before).scene.engine.GoesByNames)
    (formula : ((start place plain scene).run uses).expression.kind? = some .number)
    (unbound : ((start place plain scene).run uses).expression.bindings = []) :
    ∃ result, Double.isFinite result = true ∧ ∀ who current,
      (((start place plain scene).run uses).expression.number who).runIn current =
        (.ok result, current) := by
  obtain ⟨plan, held, _⟩ := Option.map_eq_some_iff.mp formula
  obtain ⟨before, after, split, unprepared, same⟩ := exists_attempt_of_run rfl held
  have outcome : ((start place plain scene).run before).attempt.1.kind? = some .number := by
    rw [attempt, ← Expression.kind?_prepare]
    exact (congrArg Expression.kind? same).symm.trans formula
  obtain ⟨_, success, prepared⟩ := Expression.prepare_of_kind unprepared outcome
  obtain ⟨calls, compiled, rfl, -⟩ := Plan.prepare_number_eq_ok_iff.mp success
  generalize ((start place plain scene).run uses).expression = used at *
  have held : used.plan? = some (.formula compiled calls) := congrArg _ (same.trans prepared)
  have callless : calls = [] := by
    rw [← Plan.map_instruction_bindings used.place compiled calls, List.map_eq_nil_iff]
    rw [Expression.bindings, held] at unbound
    exact (List.append_eq_nil_iff.mp unbound).2
  subst callless
  obtain ⟨result, finite, value⟩ :=
    Plan.exists_evaluate_of_callless (laws before after split) success
  refine ⟨result, finite, fun who current => ?_⟩
  simp only [Expression.number, held, unbound, Evaluation.runIn_bind]
  exact value current

namespace Compiled

theorem exists_parse_of_toOption {engine : FormulaEngine} {text : Text} {count : Nat}
    {values : List Value} {result : Float}
    (found : (parse engine text count).toOption.bind (fun compiled =>
      (compiled.eval values).toOption) = some result) :
    ∃ compiled, parse engine text count = .ok compiled ∧ compiled.eval values = .ok result := by
  cases accepted : parse engine text count with
  | error stop =>
    rw [accepted] at found
    cases found
  | ok compiled =>
    rw [accepted, Except.toOption, Option.bind_some] at found
    cases value : compiled.eval values with
    | error fault =>
      rw [value] at found
      cases found
    | ok x =>
      rw [value] at found
      exact ⟨compiled, rfl, value.trans (congrArg Except.ok (Option.some.inj found))⟩

end Compiled
end SceneFormula
