import SceneFormula.Value

set_option autoImplicit false

namespace SceneFormula

/-- Why an arithmetic computation has no result. -/
inductive ArithmeticFault where
  /-- A division by zero, or a negative power of zero. -/
  | divisionByZero
  /-- A result beyond the range of doubles. -/
  | overflow
  /-- An argument outside the domain of a function. -/
  | domain
  /-- A value of a kind that there is no use for, such as a text or a complex number. -/
  | kind
deriving DecidableEq

/-- What a compiled function raises. Only faults of arithmetic are caught where a constant formula
is tried. -/
inductive ComputationFault where
  /-- The fault, and what the engine says about it. -/
  | arithmetic (fault : ArithmeticFault) (words? : Option Text)
  /-- Anything else, by its name: a function is called that is not there, or memory is short. -/
  | breakdown (name : Text)
deriving DecidableEq

/-- A formula that an engine has read. -/
structure Symbolic where
  /-- The names of the symbols that it holds, each once. -/
  freeSymbols : List Text
  /-- Whether it holds nothing infinite or undefined. -/
  isFinite : Bool
  /-- Whether it does not hold the imaginary unit. -/
  isReal : Bool
  /-- What it is compiled to, a function of the values that symbols have by their names, or what the
  engine says where it cannot be compiled. -/
  function : Except (Option Text) ((Text → Option Value) → Except ComputationFault Float)

/-- The library that reads and compiles formulas. -/
structure FormulaEngine where
  /-- What a text is read as over the first `count` slots: a formula, something that is none, or
  nothing at all, with what the engine says about the text then. -/
  read : (text : Text) → (count : Nat) → Except (Option Text) (Option Symbolic)

end SceneFormula
