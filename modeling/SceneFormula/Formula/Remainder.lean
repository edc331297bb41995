import SceneFormula.Formula.CommonFactor
import SceneFormula.Formula.Rounding

set_option autoImplicit false

namespace SceneFormula.Number

/-- The remainder of two finite numbers with a nonzero divisor. Fractions are exact; with a
measured divisor the exact remainder is rounded at the end. -/
def remainder (x y : Number) : Number :=
  let exactly (p q : Rat) : Rat := p - q * (p / q).floor
  match x, y with
  | .exact p, .exact q => .exact (exactly p q)
  | .exact p, .measured b bits => .measured ((Binary.ofRat bits (exactly p b.toRat))) bits
  | .measured a bits, .exact q =>
    if q.den ≠ 1 then .measured (Binary.ofRat bits (exactly a.toRat q)) bits
    else .ofBinary bits (Binary.ofRat bits (exactly a.toRat q))
  | .measured a m, .measured b n =>
    let quotient := Binary.div (max m n) a b
    if quotient.isInteger then .measured Binary.zero (max m n)
    else .ofBinary (max m n) (Binary.ofRat (max m n) (exactly a.toRat b.toRat))
  | _, _ => .undefined

end SceneFormula.Number

namespace SceneFormula.Formula

variable {slots : List Nat}

/-- The outcome of looking for a remainder: a value, no value since the divisor is zero, or
nothing known. -/
inductive Remainder (slots : List Nat) where
  | value (x : Formula slots)
  | byZero
  | unknown

def isRemainder : Formula slots → Bool
  | .apply .remainder _ => true
  | _ => false

/-- A remainder that is known because both are numbers, or constants, or since the one is between
zero and the other. -/
def knownRemainder (A : Algebra slots) (p q : Formula slots) : Remainder slots :=
  let infinite (x : Formula slots) : Bool := match x with
    | .number n => !n.isFinite
    | _ => false
  if q.number?.any Number.isZero || (q.isConstant && q.range.isZero) then .byZero
  else if infinite p || infinite q then .value (.number .undefined)
  else if p.isExactZero || p == q || p == A.neg q || (p.int?.isSome && q.isOne) then .value 0
  else match p, q with
    | .number m, .number n => .value (.number (m.remainder n))
    | p, q =>
      if p.isConstant && q.isConstant then
        match roundConstant? false (A.div p q) with
        | some turns => .value (A.sub p (A.product [ofInt turns, q]))
        | none => .unknown
      else
        let rq := q.range
        let rp := p.range
        let first := A.sub (A.call .abs [p]) (A.call .abs [q])
        let answer (d : Formula slots) : Remainder slots :=
          if rq.isPositive && rp.isPositive then .value (A.add d q)
          else if rq.isPositive && rp.isNegative then .value (A.neg d)
          else if rq.isNegative && rp.isPositive then .value d
          else if rq.isNegative && rp.isNegative then .value (A.sub q d)
          else .unknown
        if first.range.isNegative then answer first
        else
          let second := A.sub first (A.call .abs [q])
          if second.range.isNegative then answer second else .unknown

def remainderCount (x : Formula slots) : Nat :=
  match x with
  | .apply .remainder _ => 1
  | .product xs | .sum xs => xs.countP fun y => y.any isRemainder
  | x => if x.any isRemainder then 1 else 0

def denest? (A : Algebra slots) (p q : Formula slots) : Option (Formula slots) :=
  let divides (inner : Formula slots) : Bool := match A.apply .remainder [inner, q] with
    | some r => r.isExactZero
    | none => false
  match p with
  | .apply .remainder [a, inner] =>
    if divides inner then A.apply .remainder [a, q]
    else if (A.product [inner, A.sub q inner]).range.isNonnegative then some p
    else none
  | .product [.number n, .apply .remainder [a, inner]] =>
    if n.int? != some (-1) then none
    else if divides inner then A.apply .remainder [A.neg a, q]
    else if (A.product [inner, A.add q inner]).range.isNonpositive then some p
    else none
  | .sum xs =>
    let innerOf (x : Formula slots) : Option (Formula slots) := match x with
      | .apply .remainder [a, inner] => if inner == q then some a else none
      | _ => none
    let nested := xs.filter isRemainder
    if nested.isEmpty || nested.any fun x => (innerOf x).isNone then none
    else A.apply .remainder
      [A.sum ((xs.filter fun x => !isRemainder x) ++ nested.filterMap innerOf), q]
  | _ => none

def coefficientStep (A : Algebra slots) (g p q : Formula slots) :
    Formula slots × Formula slots × Formula slots :=
  let (cp, rp) := p.coefficient
  let (cq, rq) := q.coefficient
  if cp.isExact && cq.isExact then (g, p, q)
  else if (cp.remainder cq).isZero then
    match cp.value?, cq.value? with
    | some a, some b =>
      let turns := a / b
      let turns := if turns < 0 then -(-turns).floor else turns.floor
      (A.product [g, .number cq], A.product [ofInt turns, rp], rq)
    | _, _ => (g, p, q)
  else (g, p, q)

def remainder? (A : Algebra slots) (p q : Formula slots) : Option (Formula slots) :=
  match knownRemainder A p q with
  | .value x => some x
  | .byZero => none
  | .unknown =>
    match denest? A p q with
    | some x => some x
    | none =>
      let (g, p', q') := commonFactor A p q
      let (g, p', q') := match p' with
        | .sum xs =>
          let reduced := xs.map fun x =>
            match A.apply .remainder [x, q'] with
            | some r => if remainderCount x < remainderCount r then x else r
            | none => x
          (g, A.sum reduced, q')
        | p' => coefficientStep A g p' q'
      let (g, p', q') := if p'.startsNegative && q'.startsNegative
        then (A.neg g, A.neg p', A.neg q') else (g, p', q')
      match knownRemainder A p' q' with
      | .byZero => none
      | .value r => some (A.product [r, g])
      | .unknown =>
        if p' == p && q' == q then some (A.product [g, .apply .remainder [p', q']])
        else do return A.product [g, ← A.apply .remainder [p', q']]

end SceneFormula.Formula
