import SceneFormula.Formula.Approximation

set_option autoImplicit false

namespace SceneFormula

/-- Which kinds of value are possible. -/
structure Range where
  negative : Bool
  zero : Bool
  positive : Bool
  nonreal : Bool
  infinite : Bool

namespace Range

def all : Range := ⟨true, true, true, true, true⟩

/-- A finite real number with the sign of the given one. -/
def ofSign (sign : Int) : Range := ⟨sign < 0, sign = 0, 0 < sign, false, false⟩

/-- A finite number that is not real. -/
def complex : Range := ⟨false, false, false, true, false⟩

def real : Range := ⟨true, true, true, false, true⟩

def isReal (r : Range) : Bool := !r.nonreal

def isNonreal (r : Range) : Bool := !(r.negative || r.zero || r.positive)

def isFinite (r : Range) : Bool := !r.infinite

def isPositive (r : Range) : Bool := r.isReal && !r.negative && !r.zero

def isNegative (r : Range) : Bool := r.isReal && !r.positive && !r.zero

/-- Real and not below zero. -/
def isNonnegative (r : Range) : Bool := r.isReal && !r.negative

/-- Real and not above zero. -/
def isNonpositive (r : Range) : Bool := r.isReal && !r.positive

def isZero (r : Range) : Bool := !(r.negative || r.positive || r.nonreal)

def isNonzero (r : Range) : Bool := !r.zero

def neg (r : Range) : Range := { r with negative := r.positive, positive := r.negative }

def add (r s : Range) : Range :=
  if r.nonreal || s.nonreal then all
  else
    { negative := r.negative || s.negative
      zero := (r.zero && s.zero) || (r.negative && s.positive) || (r.positive && s.negative)
      positive := r.positive || s.positive
      nonreal := false
      infinite := r.infinite || s.infinite }

def mul (r s : Range) : Range :=
  if r.nonreal || s.nonreal then { all with zero := r.zero || s.zero }
  else
    { negative := (r.negative && s.positive) || (r.positive && s.negative)
      zero := r.zero || s.zero
      positive := (r.positive && s.positive) || (r.negative && s.negative)
      nonreal := false
      infinite := r.infinite || s.infinite }

/-- The possible values of a power with an exact exponent. -/
def powRat (r : Range) (e : Rat) : Range :=
  if r.nonreal then all
  else if e < 0 && r.zero then all
  else if e.den = 1 then
    if e.num % 2 = 0 then
      { negative := false, zero := r.zero, positive := r.negative || r.positive
        nonreal := false, infinite := r.infinite }
    else r
  else if r.negative then all
  else r

end Range

namespace Number

def range : Number → Range
  | exact q => .ofSign q.num
  | measured x _ => .ofSign x.mantissa
  | infinite negative => ⟨negative, false, !negative, false, true⟩
  | unsigned => ⟨false, false, false, true, true⟩
  | undefined => .all

end Number

namespace Fn

/-- What is known about the value of a function, from what is known of its arguments. -/
def range (f : Fn) (arguments : List Range) : Range :=
  match f, arguments with
  | .abs, [r] =>
    ⟨false, r.zero, r.negative || r.positive || r.nonreal, false, r.infinite⟩
  | .exp, [r] => if r.isReal then ⟨false, false, true, false, r.infinite⟩ else .all
  | .cosh, [r] => if r.isReal then ⟨false, false, true, false, r.infinite⟩ else .all
  | .sin, [r] | .cos, [r] =>
    if r.isReal then { Range.real with infinite := r.infinite } else .all
  | .atan, [r] | .tanh, [r] => if r.isReal then { r with infinite := false } else .all
  | .sinh, [r] => if r.isReal then r else .all
  | .log, [r] => if r.isPositive then .real else .all
  | .atan2, [r, s] =>
    if r.isReal && s.isReal then { Range.real with infinite := false } else .all
  | .floor, [r] =>
    if r.isReal && r.isFinite then { r with zero := r.zero || r.positive } else .all
  | .ceiling, [r] =>
    if r.isReal && r.isFinite then { r with zero := r.zero || r.negative } else .all
  | .remainder, [_, s] =>
    if s.isPositive && s.isFinite then ⟨false, true, true, false, false⟩
    else if s.isNegative && s.isFinite then ⟨true, true, false, false, false⟩
    else .all
  | .maximum, rs =>
    if rs.any fun r => r.isPositive && r.isFinite then
      ⟨false, false, true, false, rs.any Range.infinite⟩
    else if rs.any fun r => r.isNonnegative && r.isFinite then
      ⟨false, true, true, false, rs.any Range.infinite⟩
    else if rs.all Range.isReal then
      { negative := rs.all Range.negative, zero := rs.any Range.zero
        positive := rs.any Range.positive, nonreal := false, infinite := rs.any Range.infinite }
    else .all
  | .minimum, rs =>
    if rs.any fun r => r.isNegative && r.isFinite then
      ⟨true, false, false, false, rs.any Range.infinite⟩
    else if rs.any fun r => r.isNonpositive && r.isFinite then
      ⟨true, true, false, false, rs.any Range.infinite⟩
    else if rs.all Range.isReal then
      { negative := rs.any Range.negative, zero := rs.any Range.zero
        positive := rs.all Range.positive, nonreal := false, infinite := rs.any Range.infinite }
    else .all
  | .realPart, [_] => .real
  | _, _ => .all

end Fn

namespace Formula

variable {slots : List Nat}

/-- What the computed value of a constant formula tells. A value that cancelled out may be off
zero by less than was computed. -/
def computedRange? (x : Formula slots) : Option Range :=
  x.constantValue?.map fun z =>
    if !z.im.isZero then .complex
    else if z.re.isZero then { Range.real with infinite := false }
    else .ofSign z.re.mantissa

mutual

/-- What is known about the value of a formula: a constant one is computed, for others it follows
from the parts. -/
def range : Formula slots → Range
  | number n => n.range
  | constant .imaginary => .complex
  | constant _ => .ofSign 1
  | slot _ _ => .all
  | x@(sum xs) => x.computedRange?.getD ((rangesOf xs).foldl Range.add (.ofSign 0))
  | x@(product xs) => x.computedRange?.getD ((rangesOf xs).foldl Range.mul (.ofSign 1))
  | x@(power b e) => x.computedRange?.getD <|
    match e with
    | number (.exact q) => (range b).powRat q
    | e =>
      if (range b).isPositive && (range e).isReal then ⟨false, false, true, false, true⟩ else .all
  | x@(apply f xs) => x.computedRange?.getD (f.range (rangesOf xs))

def rangesOf : List (Formula slots) → List Range
  | [] => []
  | x :: xs => range x :: rangesOf xs

end

end Formula
end SceneFormula
