import SceneFormula.Proofs.Containment
import SceneFormula.Proofs.Iterations

set_option autoImplicit false

namespace SceneFormula

namespace Plan

variable {functions : Registry} {compile : Text → Nat → Except Mishap Compiled}

theorem exists_descends_of_tooDeep (compiles : ∀ source count, Contained (compile source count))
    {depth : Nat} {kind : ValueKind} {plain : Text}
    (exhausted : readWithin functions compile depth kind plain = .error .tooDeep) :
    ∃ inner, plain.Descends functions depth inner := by
  by_contra unreached
  have contained := Contained.readWithin_of_unreached compiles (not_exists.mp unreached) kind
  obtain ⟨fault, same⟩ := contained .tooDeep exhausted
  cases same

/-- Preparing a text ends. A call that is found in a text ends behind its start and inside of the
text, and each of its arguments is shorter than the text by at least three characters. Every loop
advances in each turn. So the levels of calls inside of calls are at most a third of the length of
the text, and with more levels allowed for than that, none is missing: the text is prepared as if
there were no limit. -/
theorem reading_ends (functions : Registry) :
    (∀ (text : Text) (i next : Nat) (cut : Call), text.callAt i = .ok (some (cut, next)) →
      i < next ∧ next ≤ text.length ∧
        ∀ argument ∈ cut.arguments, argument.length + 3 ≤ text.length) ∧
    (∀ text : Text, text.LoopsAdvance) ∧
    (∀ (depth : Nat) (text inner : Text), text.Descends functions depth inner →
      inner.length + 3 * depth ≤ text.length) ∧
    ∀ (depth : Nat) (kind : ValueKind) (plain : Text), plain.length < 3 * depth →
      (∀ compile, (∀ source count, Contained (compile source count)) →
        readWithin functions compile depth kind plain ≠ .error .tooDeep) ∧
      ∀ engine, readWithin functions (Compiled.read engine) depth kind plain =
        (prepare functions engine kind plain).reading := by
  refine ⟨fun text i next cut => Text.bounds_of_callAt, Text.loopsAdvance,
    fun depth text inner => Text.Descends.length_add_le, fun depth kind plain shallow => ?_⟩
  have unreached (inner : Text) : ¬ plain.Descends functions depth inner :=
    Text.not_descends_of_length_lt shallow inner
  refine ⟨fun compile compiles exhausted => ?_, fun engine => readWithin_eq unreached kind⟩
  obtain ⟨inner, descends⟩ := exists_descends_of_tooDeep compiles exhausted
  exact unreached inner descends

/-- A call in a call: two levels, and six are allowed for. -/
theorem reading_ends_random :
    let plain := Text.lit "Random(Random(2))"
    let functions := Registry.empty.insertLibrary
    (∃ i next cut, plain.callAt i = .ok (some (cut, next)) ∧ i < next ∧ next ≤ plain.length ∧
      ∀ argument ∈ cut.arguments, argument.length + 3 ≤ plain.length) ∧
    plain.Descends functions 2 ['2'] ∧ List.length ['2'] + 3 * 2 ≤ plain.length ∧
    plain.length < 3 * 6 ∧
    readWithin functions (Compiled.readGuarded .standard) 6 .number plain ≠ .error .tooDeep ∧
    readWithin functions (Compiled.read .standard) 6 .number plain =
      (prepare functions .standard .number plain).reading := by
  intro plain functions
  have outer : ∃ cut ∈ (Draft.ofText (isBuiltinCall functions) plain).calls,
      Text.lit "Random(2)" ∈ cut.arguments := by decide +kernel
  have inner : ∃ cut ∈ (Draft.ofText (isBuiltinCall functions) (Text.lit "Random(2)")).calls,
      ['2'] ∈ cut.arguments := by decide +kernel
  have shallow : plain.length < 3 * 6 := by decide
  obtain ⟨first, met, among⟩ := outer
  obtain ⟨second, later, within⟩ := inner
  have descends : plain.Descends functions 2 ['2'] :=
    .argument (.formula met) among (.argument (.formula later) within (.here ['2']))
  obtain ⟨i, found⟩ := Draft.exists_front?_drop_of_mem_scan met
  rw [Nat.zero_add] at found
  have called := Text.callAt_of_found found
  obtain ⟨calls, -, levels, ends⟩ := reading_ends functions
  obtain ⟨enough, same⟩ := ends 6 .number plain shallow
  exact ⟨⟨i, _, first, called, calls plain i _ first called⟩, descends,
    levels 2 plain ['2'] descends, shallow,
    enough (Compiled.readGuarded .standard) (Compiled.contained_readGuarded .standard),
    same .standard⟩

end Plan
end SceneFormula
