import SceneFormula.Proofs.Preparation
import SceneFormula.Proofs.Trimming

set_option autoImplicit false

namespace SceneFormula

def Text.marks (text : Text) : Text :=
  text.filter fun c => c ∈ ['(', ')', ',']

theorem Text.marks_append (front rest : Text) : (front ++ rest).marks = front.marks ++ rest.marks :=
  List.filter_append _ _

theorem Text.marks_eq_nil {text : Text} (unmarked : ∀ c ∈ text, c ∉ ['(', ')', ',']) :
    text.marks = [] := by
  refine List.filter_eq_nil_iff.mpr fun c member => ?_
  simpa using unmarked c member

-- What is relied upon about the library that formulas are read and compiled with. It is handed no
-- text but those whose tokens are without a fault, so nothing is assumed about others.
namespace FormulaEngine

/-- Blanks around a text play no part in what it is read as. -/
def IgnoresBlanks (engine : FormulaEngine) : Prop :=
  ∀ text count, tokenFault? count text = none →
    engine.read text.strip count = engine.read text count

/-- A text is not read with a name directly behind a number. -/
def KeepsNamesApart (engine : FormulaEngine) : Prop :=
  ∀ text count x?, tokenFault? count text = none → engine.read text count = .ok x? →
    ∀ a b, ¬ [.number a, .name b] <:+: (Token.cut text).1

/-- The text of a formula closes its parentheses, and has no comma outside of them. -/
def ClosesParentheses (engine : FormulaEngine) : Prop :=
  ∀ text count x, tokenFault? count text = none → engine.read text count = .ok (some x) →
    text.marks.Balanced [','] 0

/-- The symbols of a formula are names in its text. -/
def NamesSymbols (engine : FormulaEngine) : Prop :=
  ∀ text count x, tokenFault? count text = none → engine.read text count = .ok (some x) →
    ∀ name ∈ x.freeSymbols, name ∈ Token.names (Token.cut text).1

/-- What a formula is compiled to looks at no values but those of its symbols. -/
def ComputesFromSymbols (engine : FormulaEngine) : Prop :=
  ∀ text count x function, tokenFault? count text = none →
    engine.read text count = .ok (some x) → x.function = .ok function →
    ∀ values others, (∀ name ∈ x.freeSymbols, values name = others name) →
      function values = function others

/-- What a text is compiled to depends on nothing but the values of the names in it. -/
structure GoesByNames (engine : FormulaEngine) : Prop where
  apart : engine.KeepsNamesApart
  named : engine.NamesSymbols
  computes : engine.ComputesFromSymbols

/-- A slot by itself is a formula and has its value. -/
def ComputesSlots (engine : FormulaEngine) : Prop :=
  ∃ x function, engine.read (slotName 0) 1 = .ok (some x) ∧ x.freeSymbols = [slotName 0] ∧
    x.isFinite = true ∧ x.isReal = true ∧ x.function = .ok function ∧
    ∀ values number, values (slotName 0) = some (.number number) → function values = .ok number

end FormulaEngine

theorem tokenFault?_eq_none_iff {count : Nat} {text : Text} :
    tokenFault? count text = none ↔ (Token.cut text).2 = [] ∧
      ∀ word ∈ Token.names (Token.cut text).1, isKnownName count word = true := by
  simp only [tokenFault?]
  split
  · rename_i word found
    simp only [reduceCtorEq, false_iff, not_and]
    intro _ known
    have unknown := List.find?_some found
    rw [known word (List.mem_of_find?_eq_some found)] at unknown
    cases unknown
  · rename_i known
    rw [List.find?_eq_none] at known
    simpa using fun _ => known

namespace Compiled

variable {engine : FormulaEngine} {text : Text} {count : Nat} {compiled : Compiled}

theorem parse_strip (ignores : engine.IgnoresBlanks) (text : Text) (count : Nat) :
    parse engine text count =
      (parse engine text.strip count).map fun compiled => { compiled with source := text } := by
  obtain ⟨front, back, rest, cut, head⟩ := Token.exists_cut_strip text
  have blank : text.isAllBlank = text.strip.isAllBlank := by
    rw [Bool.eq_iff_iff]
    refine ⟨fun all => ?_, fun all => ?_⟩
    · rw [Text.strip_eq_nil all]
      rfl
    · refine Text.isAllBlank_of_strip_eq_nil ?_
      rw [← text.strip_strip]
      exact Text.strip_eq_nil all
  have fault : tokenFault? (max count 1) text = tokenFault? (max count 1) text.strip := by
    simp only [tokenFault?, cut, Token.names_ofBlanks, head]
  cases visible : text.isAllBlank with
  | true => simp only [parse, ← blank, visible, if_true, Except.map]
  | false =>
    cases faulty : tokenFault? (max count 1) text with
    | some cause =>
      simp only [parse, ← blank, ← fault, visible, faulty, Bool.false_eq_true, if_false, Except.map]
    | none =>
      simp only [parse, ← blank, ← fault, visible, faulty, Bool.false_eq_true, if_false,
        ignores _ _ faulty]
      cases engine.read text (max count 1) with
      | error words? => rfl
      | ok x? =>
        cases x? with
        | none => rfl
        | some x =>
          dsimp only
          cases check x (max count 1) <;> rfl

theorem exists_parse_slot (computes : engine.ComputesSlots) :
    ∃ compiled, parse engine (slotName 0) 1 = .ok compiled ∧
      ∀ x, compiled.eval [.number x] = .ok x := by
  obtain ⟨x, function, read, symbols, finite, real, compiles, value⟩ := computes
  have faultless : tokenFault? 1 (slotName 0) = none := by decide +kernel
  have visible : (slotName 0).isAllBlank = false := by decide
  have known : unknownNames 1 x = [] := by
    rw [unknownNames, symbols]
    decide +kernel
  have checked : check x 1 = .ok fun values => function (valuesByName 1 values) := by
    simp [check, known, finite, real, compiles, trial, symbols, Except.map]
  refine ⟨⟨slotName 0, 1, fun values => function (valuesByName 1 values)⟩, ?_, fun number => ?_⟩
  · simp only [parse, visible, faultless, Bool.false_eq_true, if_false, Nat.max_self, read, checked,
      Except.map]
  · have found : slotNamed? 1 (slotName 0) = some 0 := by decide
    have given : valuesByName 1 [.number number] (slotName 0) = some (.number number) := by
      rw [valuesByName, found]
      rfl
    simp only [eval, List.length_singleton, ne_eq, not_true_eq_false, if_false, value _ _ given,
      Except.mapError]

/-- A text without literals that compiles closes its parentheses, with no comma outside of them. -/
theorem balanced_of_parse (closes : engine.ClosesParentheses)
    (success : parse engine text count = .ok compiled) : text.marks.Balanced [','] 0 := by
  obtain ⟨-, -, faultless, x, read, -⟩ := of_parse success
  exact closes _ _ x faultless read

theorem names_eq_wordsAfter (apart : engine.KeepsNamesApart)
    (success : parse engine text count = .ok compiled) :
    Token.names (Token.cut text).1 = Text.wordsAfter none text ∧
      ∀ word ∈ Text.wordsAfter none text, isKnownName (max count 1) word = true := by
  obtain ⟨-, -, faultless, x, read, -⟩ := of_parse success
  obtain ⟨whole, known⟩ := tokenFault?_eq_none_iff.mp faultless
  have same : Token.names (Token.cut text).1 = Text.wordsAfter none text :=
    Token.names_cut_eq_wordsAfter whole (apart _ _ _ faultless read) fun _ _ => rfl
  exact ⟨same, same ▸ known⟩

end Compiled
end SceneFormula
