import SceneFormula.Formula.Trigonometry
import SceneFormula.Number.Roots

set_option autoImplicit false

namespace SceneFormula.Formula

variable {slots : List Nat}

/-- The exponential of a multiple of the imaginary half turn. -/
def turnExponential? (A : Algebra slots) (x : Formula slots) : Option (Formula slots) :=
  match ((imaginaryFactor? A x).bind (piFactor? A)).bind rat? with
  | none => none
  | some q =>
    let unit : Formula slots := .constant .imaginary
    if q.den = 1 then some (ofInt (if q.num % 2 = 0 then 1 else -1))
    else if q.den = 2 then
      some (if q.num % 4 = 1 then unit else .product [ofInt (-1), unit])
    else
      let turned := wrap q
      let turned := if 1 < turned then turned - 2 else turned
      if turned = q then none
      else some (A.call .exp [A.product [ofRat turned, .constant .pi, unit]])

/-- The argument of the one logarithm in a product whose other factors are real constants, and
these factors. -/
def singleLog? (xs : List (Formula slots)) :
    Option (Formula slots × List (Formula slots)) :=
  match xs with
  | [] => none
  | .apply .log [y] :: rest => if rest.all isComparable then some (y, rest) else none
  | x :: rest =>
    if isComparable x then (singleLog? rest).map fun (y, others) => (y, x :: others) else none

def exponential? (A : Algebra slots) (x : Formula slots) : Option (Formula slots) :=
  match x with
  | .number .undefined | .number .unsigned => some (.number .undefined)
  | .number (.infinite negative) => some (.number (if negative then 0 else .infinite false))
  | .number n =>
    if n.isZero then some 1 else if n.isOne then some (.constant .e) else none
  | .apply .log [y] => some y
  | .product xs =>
    match turnExponential? A x with
    | some value => some value
    | none => (singleLog? xs).map fun (y, others) => A.power y (A.product others)
  | .constant .imaginary => none
  | .sum xs =>
    let split := xs.foldl (fun (out, kept, changed) a =>
      if a.isOne then (out, kept ++ [a], changed)
      else match A.call .exp [a] with
        | .apply .exp [b] => (out, kept ++ [b], changed || !(b == a))
        | value => (out ++ [value], kept, changed))
      (([] : List (Formula slots)), ([] : List (Formula slots)), false)
    let (out, kept, changed) := split
    if out.isEmpty && !changed then none
    else some (A.product (out ++ [.apply .exp [A.sum kept]]))
  | x => if x.range.isZero then some 1 else none

def logarithm? (A : Algebra slots) (x : Formula slots) : Option (Formula slots) :=
  let turn (sign : Rat) := A.product [ofRat sign, .constant .pi, .constant .imaginary]
  match x with
  | .number .undefined => some x
  | .number .unsigned => some x
  | .number (.infinite _) => some (.number (.infinite false))
  | .constant .e => some 1
  | .apply .exp [y] => if y.range.isReal then some y else none
  | x =>
    if x.number?.any Number.isZero then some (.number .unsigned)
    else if x.isOne then some 0
    else if x.rat?.any fun q => q.num = 1 then
      some (A.neg (A.call .log [A.power x (ofInt (-1))]))
    else
      let r := x.range
      if x.isConstant && r.isNegative then some (A.add (turn 1) (A.call .log [A.neg x]))
      else if r.isZero then some (.number .unsigned)
      else match (imaginaryFactor? A x).bind rat? with
        | some q =>
          some (if 0 ≤ q then A.add (turn (mkRat 1 2)) (A.call .log [ofRat q])
            else A.add (turn (mkRat (-1) 2)) (A.call .log [ofRat (-q)]))
        | none => none

/-- How often a whole number above one divides another one, zero apart. -/
def multiplicityInt? (p n : Int) : Option Int :=
  if p < 2 ∨ n = 0 then none
  else some (Roots.divideOut n.natAbs p.toNat n.natAbs.log2).1

/-- The power of a fraction that another fraction is a multiple of, as its numerator and
denominator show it. -/
def multiplicity? (p n : Rat) : Option Int :=
  if p.den = 1 ∧ n.den = 1 then multiplicityInt? p.num n.num
  else if p.den = 1 then
    if n.num = 1 then (multiplicityInt? p.num n.den).map (- ·)
    else do return (← multiplicityInt? p.num n.num) - (← multiplicityInt? p.num n.den)
  else if p.num = 1 then multiplicityInt? p.den n.den
  else do
    let like := min (← multiplicityInt? p.num n.num) (← multiplicityInt? p.den n.den)
    let cross := min (← multiplicityInt? p.den n.num) (← multiplicityInt? p.num n.den)
    return like - cross

def logarithmTo (A : Algebra slots) (x base : Formula slots) : Formula slots :=
  if base.isOne then .number (if x.isOne then .undefined else .unsigned)
  else
    let ratio (y : Formula slots) := A.div (A.call .log [y]) (A.call .log [base])
    match x.rat?, base.rat? with
    | some q, some p =>
      match multiplicity? p q with
      | none | some 0 => ratio x
      | some n => A.add (ofInt n) (ratio (A.div x (A.power base (ofInt n))))
    | _, _ =>
      match base with
      | .constant .e => A.call .log [x]
      | _ => ratio x

end SceneFormula.Formula
