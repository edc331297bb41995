import SceneFormula.Formula.Code
import SceneFormula.Formula.Compiled
import SceneFormula.Formula.Meaning

set_option autoImplicit false

namespace SceneFormula

namespace Formula

variable {slots : List Nat}

/-- Whether a formula holds a number that is not finite. -/
def hasNonfinite (x : Formula slots) : Bool :=
  x.any fun y => match y with
    | .number n => !n.isFinite
    | _ => false

def hasImaginary (x : Formula slots) : Bool :=
  x.any fun y => match y with
    | .constant .imaginary => true
    | _ => false

def hasSpread (x : Formula slots) : Bool :=
  x.any fun y => match y with
    | .apply .spread _ => true
    | _ => false

/-- Whether a formula holds an exact number that is too long to be written, or even to be worked
out. -/
def hasTooLong (x : Formula slots) : Bool :=
  x.any fun y => match y with
    | .number n => n.isTooLong
    | .power (.number (.exact _)) (.number n) => n.isInteger
    | .apply .factorial [.number n] => n.isInteger
    | _ => false

def freeSlots (x : Formula slots) : List Nat :=
  (x.mentioned.map Subtype.val).eraseDups

/-- The number that a value is; zero if it is none, or there is no value. -/
def numberOf : Option Value → Float
  | some (.number x) => x
  | some (.text _) | none => 0

/-- The value of a formula for the values that its slots have by name. There is no use for a text
among these. -/
def compute (x : Formula slots) (values : Text → Option Value) : Executed Float :=
  if x.freeSlots.any fun index => (values (slotName index)).any Value.isText then
    .error (.arithmetic .kind none)
  else
    ((Code.ofFormula x).run fun index _ => .real (numberOf (values (slotName index)))).bind
      fun y => y.toDouble?.executed

def symbolic (x : Formula slots) : Symbolic where
  freeSymbols := x.freeSlots.map slotName
  isFinite := !x.hasNonfinite
  isReal := !x.hasImaginary
  function := if x.hasSpread || x.hasTooLong then .error none else .ok x.compute

end Formula

def namedSlots (count : Nat) (tokens : List Token) : List Nat :=
  (Token.names tokens).filterMap (slotNamed? count)

namespace FormulaEngine

/-- What a tree is over slots: a formula, something that is none, or nothing at all. -/
def readTree (slots : List Nat) (tree? : Option Tree) : Except (Option Text) (Option Symbolic) :=
  match tree?.bind (Meaning.ofTree? (@Algebra.standard slots)) with
  | none => .error none
  | some (.formula x) => .ok (some x.symbolic)
  | some _ => .ok none

/-- The engine that computes with doubles. It has no words for what goes wrong. -/
def standard : FormulaEngine where
  read text count :=
    let tokens := (Token.cut text).1
    readTree (namedSlots count tokens) (Tree.ofTokens? tokens)

/-- An engine that reads formulas and cannot compile them. -/
def readOnly : FormulaEngine where
  read text count := (standard.read text count).map fun found =>
    found.map fun x => { x with function := .error none }

/-- The engine under a name. Of those there can be, only the standard one is at hand. -/
def ofModules (name : Text) : FormulaEngine :=
  if name = Text.lit "math" then standard else readOnly

end FormulaEngine
end SceneFormula
