import SceneFormula.Number.Basic

set_option autoImplicit false

namespace SceneFormula

/-- Numbers with a name of their own. -/
inductive Constant where
  | pi
  | e
  | imaginary
deriving DecidableEq

/-- Functions that a formula may apply. The last two come only from simplification: the real part
of a value, and the range of values of an oscillating function at infinity. -/
inductive Fn where
  | sin | cos | tan | cot | asin | acos | atan | atan2
  | sinh | cosh | tanh | exp | log
  | abs | floor | ceiling | remainder | minimum | maximum | factorial
  | realPart | spread
deriving DecidableEq

/-- A formula over the slots of a list. -/
inductive Formula (slots : List Nat) where
  | number (value : Number)
  | constant (name : Constant)
  | slot (index : Nat) (named : index ∈ slots)
  | sum (terms : List (Formula slots))
  | product (factors : List (Formula slots))
  | power (base exponent : Formula slots)
  | apply (function : Fn) (arguments : List (Formula slots))

namespace Number

/-- An arbitrary total order on numbers, under which only equal ones are equal. -/
def order : Number → Number → Ordering
  | exact p, exact q => if p < q then .lt else if p = q then .eq else .gt
  | measured x m, measured y n =>
    ((compare m n).then (compare x.exponent y.exponent)).then (compare x.mantissa y.mantissa)
  | infinite a, infinite b => compare a b
  | a, b => compare (rank a) (rank b)
where
  rank : Number → Nat
    | exact _ => 0
    | measured _ _ => 1
    | infinite _ => 2
    | unsigned => 3
    | undefined => 4

end Number

def Constant.rank : Constant → Nat
  | .pi => 0
  | .e => 1
  | .imaginary => 2

def Fn.rank : Fn → Nat
  | .sin => 0 | .cos => 1 | .tan => 2 | .cot => 3 | .asin => 4 | .acos => 5 | .atan => 6
  | .atan2 => 7 | .sinh => 8 | .cosh => 9 | .tanh => 10 | .exp => 11 | .log => 12
  | .abs => 13 | .floor => 14 | .ceiling => 15 | .remainder => 16 | .minimum => 17
  | .maximum => 18 | .factorial => 19 | .realPart => 20 | .spread => 21

namespace Formula

variable {slots : List Nat}

instance : Inhabited (Formula slots) := ⟨.number 0⟩
instance : OfNat (Formula slots) 0 := ⟨.number 0⟩
instance : OfNat (Formula slots) 1 := ⟨.number 1⟩

def ofInt (n : Int) : Formula slots := .number (.ofInt n)

def ofRat (q : Rat) : Formula slots := .number (.exact q)

def rank : Formula slots → Nat
  | number _ => 0
  | constant _ => 1
  | slot _ _ => 2
  | power _ _ => 3
  | product _ => 4
  | sum _ => 5
  | apply _ _ => 6

mutual

/-- An arbitrary total order on formulas, under which only equal ones are equal. -/
def order : Formula slots → Formula slots → Ordering
  | number a, number b => a.order b
  | constant a, constant b => compare a.rank b.rank
  | slot i _, slot j _ => compare i j
  | sum xs, sum ys => orderAll xs ys
  | product xs, product ys => orderAll xs ys
  | power a x, power b y => (order a b).then (order x y)
  | apply f xs, apply g ys => (compare f.rank g.rank).then (orderAll xs ys)
  | a, b => compare a.rank b.rank

def orderAll : List (Formula slots) → List (Formula slots) → Ordering
  | [], [] => .eq
  | [], _ :: _ => .lt
  | _ :: _, [] => .gt
  | x :: xs, y :: ys => (order x y).then (orderAll xs ys)

end

instance : BEq (Formula slots) := ⟨fun x y => order x y == .eq⟩

mutual

/-- Whether a part of the formula, or the whole, has a property. -/
def any (p : Formula slots → Bool) : Formula slots → Bool
  | x@(number _) | x@(constant _) | x@(slot _ _) => p x
  | x@(sum xs) => p x || anyOf p xs
  | x@(product xs) => p x || anyOf p xs
  | x@(power b e) => p x || any p b || any p e
  | x@(apply _ xs) => p x || anyOf p xs

def anyOf (p : Formula slots → Bool) : List (Formula slots) → Bool
  | [] => false
  | x :: xs => any p x || anyOf p xs

end

mutual

/-- One more than the number of constructors around the deepest part. -/
def depth : Formula slots → Nat
  | number _ | constant _ | slot _ _ => 1
  | sum xs | product xs | apply _ xs => depthOf xs + 1
  | power b e => max (depth b) (depth e) + 1

def depthOf : List (Formula slots) → Nat
  | [] => 0
  | x :: xs => max (depth x) (depthOf xs)

end

mutual

/-- The slots that the formula mentions, each as often as it does. -/
def mentioned : Formula slots → List {i : Nat // i ∈ slots}
  | number _ | constant _ => []
  | slot i named => [⟨i, named⟩]
  | sum xs | product xs | apply _ xs => mentionedIn xs
  | power b e => mentioned b ++ mentioned e

def mentionedIn : List (Formula slots) → List {i : Nat // i ∈ slots}
  | [] => []
  | x :: xs => mentioned x ++ mentionedIn xs

end

mutual

def isConstant : Formula slots → Bool
  | number _ | constant _ => true
  | slot _ _ => false
  | sum xs | product xs | apply _ xs => areConstant xs
  | power b e => isConstant b && isConstant e

def areConstant : List (Formula slots) → Bool
  | [] => true
  | x :: xs => isConstant x && areConstant xs

end

def number? : Formula slots → Option Number
  | number n => some n
  | _ => none

def rat? : Formula slots → Option Rat
  | number (.exact q) => some q
  | _ => none

/-- The exact whole number that a formula is. -/
def int? : Formula slots → Option Int
  | number n => n.int?
  | _ => none

def isNumber (x : Formula slots) : Bool := x.number?.isSome

def isMeasured : Formula slots → Bool
  | number n => n.isMeasured
  | _ => false

def isExactZero : Formula slots → Bool
  | number n => n.isExactZero
  | _ => false

def isOne : Formula slots → Bool
  | number n => n.isOne
  | _ => false

def isSum : Formula slots → Bool
  | sum _ => true
  | _ => false

def isProduct : Formula slots → Bool
  | product _ => true
  | _ => false

def terms : Formula slots → List (Formula slots)
  | sum xs => xs
  | x => [x]

/-- The factors that multiply to the formula. -/
def factors : Formula slots → List (Formula slots)
  | product xs => xs
  | x => [x]

/-- A product of factors that are already as simple as they get. -/
def ofFactors : List (Formula slots) → Formula slots
  | [] => 1
  | [x] => x
  | xs => product xs

/-- A sum of terms that are already as simple as they get. -/
def ofTerms : List (Formula slots) → Formula slots
  | [] => 0
  | [x] => x
  | xs => sum xs

def coefficient : Formula slots → Number × Formula slots
  | number n => (n, 1)
  | product (number n :: rest) => (n, ofFactors rest)
  | x => (1, x)

/-- A leading fraction and what it multiplies; a measured number stays where it is. -/
def rationalCoefficient : Formula slots → Rat × Formula slots
  | number (.exact q) => (q, 1)
  | product (number (.exact q) :: rest) => (q, ofFactors rest)
  | x => (1, x)

/-- A number times a formula that has no leading number. -/
def withCoefficient (n : Number) (x : Formula slots) : Formula slots :=
  if n.isOne then x
  else match x with
    | number m => number (n.mul m)
    | product xs => product (number n :: xs)
    | x => product [number n, x]

/-- Base and exponent; the base of a unit fraction's power is turned over. -/
def baseAndExponent : Formula slots → Formula slots × Formula slots
  | power (number (.exact q)) e =>
    if q.num = 1 ∧ q.den ≠ 1 then
      match e with
      | number n => (ofInt q.den, number n.neg)
      | e => (number (.exact q), e)
    else (number (.exact q), e)
  | power b e => (b, e)
  | apply .exp [x] => (constant .e, x)
  | x => (x, 1)

def sorted (xs : List (Formula slots)) : List (Formula slots) :=
  xs.mergeSort fun x y => order x y != .gt

end Formula
end SceneFormula
