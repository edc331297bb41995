import SceneFormula.Formula.Sum
import SceneFormula.Formula.Product
import SceneFormula.Formula.Power
import SceneFormula.Formula.Exponential
import SceneFormula.Formula.Rounding
import SceneFormula.Formula.Extremum
import SceneFormula.Formula.Remainder

set_option autoImplicit false

namespace SceneFormula

namespace Formula

variable {slots : List Nat}

def factorial? (x : Formula slots) : Option (Formula slots) :=
  match x with
  | .number .undefined | .number .unsigned => some (.number .undefined)
  | .number (.infinite false) => some x
  | .number n =>
    if n.isZero then some 1
    else match n.int? with
      | some k =>
        if k < 0 then some (.number .unsigned)
        else (Roots.factorial? k.toNat).map fun product => ofInt product
      | none => none
  | _ => none

def measuredCall? (A : Algebra slots) (f : Fn) (xs : List (Formula slots)) :
    Option (Formula slots) :=
  let arguments := xs.map fun x => match x with
    | .number (.measured y bits) => some (y, bits)
    | _ => none
  (arguments.mapM id).bind fun pairs =>
    let bits := (pairs.map (·.2)).foldl max 0
    if pairs.isEmpty then none
    else (f.approx? (bits + 80) (pairs.map (·.1))).map (ofApprox A bits)

/-- The function as it stands, computed if all arguments are measured. -/
def plainCall (A : Algebra slots) (f : Fn) (xs : List (Formula slots)) : Formula slots :=
  (measuredCall? A f xs).getD (.apply f xs)

/-- A function applied to formulas. Fails on a remainder by zero, on an extremum of what cannot be
compared, and on the factorial of a measured negative whole number. -/
def applied (A : Algebra slots) (f : Fn) (xs : List (Formula slots)) : Option (Formula slots) :=
  let orPlain (found : Option (Formula slots)) : Option (Formula slots) :=
    some (found.getD (plainCall A f xs))
  match f, xs with
  | .sin, [x] => orPlain (sine? A x)
  | .cos, [x] => orPlain (cosine? A x)
  | .tan, [x] => orPlain (tangent? A x)
  | .cot, [x] => orPlain (if x.startsNegative then some (A.neg (A.call .cot [A.neg x])) else none)
  | .asin, [x] => orPlain (arcSine? A x)
  | .acos, [x] => orPlain (arcCosine? A x)
  | .atan, [x] => orPlain (arcTangent? A x)
  | .atan2, [y, x] => orPlain (pointAngle? A y x)
  | .sinh, [x] | .cosh, [x] | .tanh, [x] => orPlain (hyperbolic? A f x)
  | .exp, [x] => orPlain (exponential? A x)
  | .log, [x] => orPlain (logarithm? A x)
  | .log, [x, base] => some (logarithmTo A x base)
  | .abs, [x] => some (absolute A x)
  | .floor, [x] => some (rounded A false x)
  | .ceiling, [x] => some (rounded A true x)
  | .remainder, [p, q] => remainder? A p q
  | .minimum, xs | .maximum, xs => extremum? A f xs
  | .factorial, [x] =>
    match factorial? x with
    | some value => some value
    | none => if x.isMeasured then measuredCall? A f xs else some (.apply f xs)
  | f, xs => some (.apply f xs)

end Formula

namespace Algebra

variable {slots : List Nat}

def next (A : Algebra slots) : Algebra slots where
  sum := Formula.sumOf A
  product := Formula.productOf A
  power := Formula.powerOf A
  apply := Formula.applied A

/-- The rules stacked so many levels high on the plain constructors. -/
def tower : Nat → Algebra slots
  | 0 => plain
  | levels + 1 => next (tower levels)

def standard : Algebra slots := tower 40

end Algebra
end SceneFormula
