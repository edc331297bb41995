import SceneFormula.Formula.Algebra

set_option autoImplicit false

namespace SceneFormula.Formula

variable {slots : List Nat}

/-- What the circle number is multiplied by, if the formula is a multiple of it. -/
def piFactor? (A : Algebra slots) (x : Formula slots) : Option (Formula slots) :=
  let isPi (y : Formula slots) : Bool := match y with
    | .constant .pi => true
    | _ => false
  match x with
  | .constant .pi => some 1
  | .product xs =>
    if xs.countP isPi = 1 then some (A.product (xs.filter fun y => !isPi y)) else none
  | _ => none

/-- What the imaginary unit is multiplied by, if the formula is a multiple of it. -/
def imaginaryFactor? (A : Algebra slots) (x : Formula slots) : Option (Formula slots) :=
  let isUnit (y : Formula slots) : Bool := match y with
    | .constant .imaginary => true
    | _ => false
  match x with
  | .constant .imaginary => some 1
  | .product xs =>
    if xs.countP isUnit = 1 then some (A.product (xs.filter fun y => !isUnit y)) else none
  | _ => none

def wrap (q : Rat) : Rat := q - 2 * (q / 2).floor

/-- The fraction that a measured number is, if few bits after the point are enough: as many as
the magnitude of its fractional part suggests. -/
def recast? (x : Binary) : Option Rat :=
  let q := x.toRat
  let size := if q < 0 then -q else q
  let part := size - size.floor
  if part = 0 then some q
  else
    let logarithm := (Binary.log 64 (Binary.ofRat 64 part)).toRat /
      (Binary.log 64 ⟨2, 0⟩).toRat
    let places := -((2 * logarithm + 1) / 2).floor
    let scaled := q * (2 : Rat) ^ places.toNat
    if scaled.den = 1 then some q else none

/-- The number of half turns in a formula, reduced to a whole turn where it is a fraction. -/
def halfTurns? (A : Algebra slots) (x : Formula slots) : Option (Formula slots) :=
  if x.isExactZero then some 0
  else (piFactor? A x).map fun factor =>
    match factor with
    | .number (.exact q) => ofRat (wrap q)
    | .number (.measured y bits) =>
      match recast? y with
      | some q => ofRat (wrap q)
      | none => .number (.ofBinary bits (Binary.ofRat bits (wrap y.toRat)))
    | .product (.number (.measured y _) :: rest) =>
      match recast? y with
      | some q => A.product (ofRat q :: rest)
      | none => factor
    | factor => factor

/-- The exact cosine of a fraction of a half turn, where roots of whole numbers give it. -/
def exactCosine? (A : Algebra slots) (q : Rat) : Nat → Option (Formula slots)
  | 0 => none
  | fuel + 1 =>
    let q := wrap q
    if 1 < q then exactCosine? A (2 - q) fuel
    else if mkRat 1 2 < q then (exactCosine? A (1 - q) fuel).map A.neg
    else
      let quarter := mkRat 1 4
      let fifths (sign : Rat) :=
        A.sum [ofRat (sign * quarter), A.product [ofRat quarter, A.sqrt (ofInt 5)]]
      match q.den with
      | 1 => some 1
      | 2 => some 0
      | 3 => some (.number .half)
      | 4 => some (A.product [.number .half, A.sqrt (ofInt 2)])
      | 5 => some (if q.num = 1 then fifths 1 else fifths (-1))
      | 6 => some (A.product [.number .half, A.sqrt (ofInt 3)])
      | 8 | 10 => (exactCosine? A (2 * q) fuel).map fun c =>
          A.sqrt (A.product [.number .half, A.sum [1, c]])
      | 12 => difference (q.num * mkRat 1 3) (q.num * quarter) fuel
      | 15 => difference (q.num * mkRat 1 6) (q.num * mkRat 1 10) fuel
      | 20 => difference (q.num * quarter) (q.num * mkRat 1 5) fuel
      | 24 => difference (q.num * mkRat 1 6) (q.num * mkRat 1 8) fuel
      | 30 => difference (q.num * mkRat 1 5) (q.num * mkRat 1 6) fuel
      | _ => none
where
  difference (a b : Rat) (fuel : Nat) : Option (Formula slots) := do
    let half := mkRat 1 2
    let straight := A.product [← exactCosine? A a fuel, ← exactCosine? A b fuel]
    let across := A.product [← exactCosine? A (half - a) fuel, ← exactCosine? A (half - b) fuel]
    return A.sum [straight, across]

def peelTurns (A : Algebra slots) (x : Formula slots) : Formula slots × Rat :=
  let turnsOf (t : Formula slots) : Option Rat := (piFactor? A t).bind rat?
  let total := (x.terms.filterMap turnsOf).foldl (· + ·) 0
  if total = 0 then (x, 0)
  else
    let small := total - mkRat 1 2 * (2 * total).floor
    let rest := x.terms.filter fun t => (turnsOf t).isNone
    (A.sum (rest ++ [A.product [ofRat small, .constant .pi]]), total - small)

def ofTurns (A : Algebra slots) (q : Rat) : Formula slots :=
  A.product [ofRat q, .constant .pi]

/-- The sine of a sum that is no number, where a rule applies. -/
def sine? (A : Algebra slots) (x : Formula slots) : Option (Formula slots) :=
  match x with
  | .number (.infinite _) => some (.apply .spread [])
  | .number .unsigned => some (.number .undefined)
  | x =>
    if x.isExactZero then some 0
    else if x.startsNegative then some (A.neg (A.call .sin [A.neg x]))
    else match imaginaryFactor? A x, halfTurns? A x with
      | some y, _ => some (A.product [.constant .imaginary, A.call .sinh [y]])
      | none, some (.number (.exact q)) =>
        match exactCosine? A (q - mkRat 1 2) 12 with
        | some value => some value
        | none =>
          if 1 < q then some (A.neg (A.call .sin [ofTurns A (q - 1)]))
          else if mkRat 1 2 < q then some (A.call .sin [ofTurns A (1 - q)])
          else reduced .sin x (ofTurns A q)
      | none, some factor => reduced .sin x (A.product [factor, .constant .pi])
      | none, none =>
        let (rest, turns) := if x.isSum then peelTurns A x else (x, 0)
        if turns ≠ 0 then
          let angle := ofTurns A turns
          some (A.sum [A.product [A.call .sin [angle], A.call .cos [rest]],
            A.product [A.call .cos [angle], A.call .sin [rest]]])
        else match x with
          | .apply .asin [y] => some y
          | .apply .atan [y] => some (A.div y (A.sqrt (A.add 1 (A.power y (ofInt 2)))))
          | .apply .atan2 [y, z] =>
            some (A.div y (A.sqrt (A.add (A.power z (ofInt 2)) (A.power y (ofInt 2)))))
          | .apply .acos [y] => some (A.sqrt (A.sub 1 (A.power y (ofInt 2))))
          | _ => none
where
  reduced (f : Fn) (given reduced : Formula slots) : Option (Formula slots) :=
    if reduced == given then none else some (A.call f [reduced])

def cosine? (A : Algebra slots) (x : Formula slots) : Option (Formula slots) :=
  match x with
  | .number (.infinite _) => some (.apply .spread [])
  | .number .unsigned => some (.number .undefined)
  | x =>
    if x.isExactZero then some 1
    else if x.startsNegative then some (A.call .cos [A.neg x])
    else match imaginaryFactor? A x, halfTurns? A x with
      | some y, _ => some (A.call .cosh [y])
      | none, some (.number (.exact q)) =>
        match exactCosine? A q 12 with
        | some value => some value
        | none =>
          if 1 < q then some (A.neg (A.call .cos [ofTurns A (q - 1)]))
          else if mkRat 1 2 < q then some (A.neg (A.call .cos [ofTurns A (1 - q)]))
          else sine?.reduced A .cos x (ofTurns A q)
      | none, some factor => sine?.reduced A .cos x (A.product [factor, .constant .pi])
      | none, none =>
        let (rest, turns) := if x.isSum then peelTurns A x else (x, 0)
        if turns ≠ 0 then
          let angle := ofTurns A turns
          some (A.sum [A.product [A.call .cos [angle], A.call .cos [rest]],
            A.neg (A.product [A.call .sin [angle], A.call .sin [rest]])])
        else match x with
          | .apply .acos [y] => some y
          | .apply .atan [y] => some (A.div 1 (A.sqrt (A.add 1 (A.power y (ofInt 2)))))
          | .apply .atan2 [y, z] =>
            some (A.div z (A.sqrt (A.add (A.power z (ofInt 2)) (A.power y (ofInt 2)))))
          | .apply .asin [y] => some (A.sqrt (A.sub 1 (A.power y (ofInt 2))))
          | _ => none

def tangent? (A : Algebra slots) (x : Formula slots) : Option (Formula slots) :=
  match x with
  | .number (.infinite _) | .number .unsigned => some (.number .undefined)
  | x =>
    if x.isExactZero then some 0
    else if x.startsNegative then some (A.neg (A.call .tan [A.neg x]))
    else match imaginaryFactor? A x, halfTurns? A x with
      | some y, _ => some (A.product [.constant .imaginary, A.call .tanh [y]])
      | none, some (.number (.exact q)) =>
        match exactCosine? A (q - mkRat 1 2) 12, exactCosine? A q 12 with
        | some s, some c =>
          some (if c.isExactZero then .number .unsigned else A.div s c)
        | _, _ =>
          let shifted := q + mkRat 1 2
          sine?.reduced A .tan x (ofTurns A (shifted - shifted.floor - mkRat 1 2))
      | none, some factor => sine?.reduced A .tan x (A.product [factor, .constant .pi])
      | none, none =>
        let (rest, turns) := if x.isSum then peelTurns A x else (x, 0)
        if turns ≠ 0 then
          if turns.den = 1 then some (A.call .tan [rest])
          else some (A.neg (A.call .cot [rest]))
        else match x with
          | .apply .atan [y] => some y
          | .apply .atan2 [y, z] => some (A.div y z)
          | .apply .asin [y] => some (A.div y (A.sqrt (A.sub 1 (A.power y (ofInt 2)))))
          | .apply .acos [y] => some (A.div (A.sqrt (A.sub 1 (A.power y (ofInt 2)))) y)
          | _ => none

def knownSines (A : Algebra slots) : List (Formula slots × Rat) :=
  let quarter := mkRat 1 4
  let fifths (one five : Rat) := A.sum [ofRat (one * quarter),
    A.product [ofRat (five * quarter), A.sqrt (ofInt 5)]]
  [(A.product [.number .half, A.sqrt (ofInt 3)], mkRat 1 3),
    (A.product [.number .half, A.sqrt (ofInt 2)], quarter),
    (.number .half, mkRat 1 6), (fifths (-1) 1, mkRat 1 10), (fifths 1 (-1), mkRat (-1) 10),
    (fifths 1 1, mkRat 3 10), (fifths (-1) (-1), mkRat (-3) 10)]

/-- Tangents that are known, each with its angle in half turns. -/
def knownTangents (A : Algebra slots) : List (Formula slots × Rat) :=
  let root (n : Int) := A.sqrt (ofInt n)
  [(A.product [ofRat (mkRat 1 3), root 3], mkRat 1 6), (root 3, mkRat 1 3),
    (A.sum [ofInt (-1), root 2], mkRat 1 8), (A.sum [1, A.neg (root 2)], mkRat (-1) 8),
    (A.sum [1, root 2], mkRat 3 8), (A.sum [ofInt 2, A.neg (root 3)], mkRat 1 12),
    (A.sum [ofInt (-2), root 3], mkRat (-1) 12), (A.sum [ofInt 2, root 3], mkRat 5 12)]

def lookUp (A : Algebra slots) (table : List (Formula slots × Rat)) (x : Formula slots) :
    Option (Formula slots) :=
  (table.find? fun entry => entry.1 == x).map fun entry => ofTurns A entry.2

def isAbove (x y : Formula slots) : Bool :=
  match x.realValue?, y.realValue? with
  | some a, some b => Binary.compare a b == .gt
  | _, _ => false

def isComparable (x : Formula slots) : Bool := x.realValue?.isSome

def reduceAngle? (A : Algebra slots) (x : Formula slots) (period : Int) :
    Option (Formula slots) :=
  if isComparable x then A.apply .remainder [x, ofTurns A period] else none

def arcSine? (A : Algebra slots) (x : Formula slots) : Option (Formula slots) :=
  match x with
  | .number (.infinite negative) =>
    some (A.product [.number (.infinite (!negative)), .constant .imaginary])
  | .number .unsigned => some x
  | x =>
    if x.isExactZero then some 0
    else if x.isOne then some (ofTurns A (mkRat 1 2))
    else if x.startsNegative then some (A.neg (A.call .asin [A.neg x]))
    else if let some angle := lookUp A (knownSines A) x then some angle
    else match x with
      | .apply .sin [y] => (reduceAngle? A y 2).map fun angle =>
        let flip (z : Formula slots) := A.sub (.constant .pi) z
        let angle := if isAbove angle (.constant .pi) then flip angle else angle
        let angle := if isAbove angle (ofTurns A (mkRat 1 2)) then flip angle else angle
        if isAbove (ofTurns A (mkRat (-1) 2)) angle then A.neg (A.add angle (.constant .pi))
        else angle
      | .apply .cos [y] =>
        if isComparable y then some (A.sub (ofTurns A (mkRat 1 2)) (A.call .acos [x])) else none
      | _ => none

def arcCosine? (A : Algebra slots) (x : Formula slots) : Option (Formula slots) :=
  match x with
  | .number (.infinite negative) =>
    some (A.product [.number (.infinite negative), .constant .imaginary])
  | .number .unsigned => some x
  | x =>
    if x.isExactZero then some (ofTurns A (mkRat 1 2))
    else if x.isOne then some 0
    else if x.int? == some (-1) then some (.constant .pi)
    else if let some angle := lookUp A (knownSines A) x then
      some (A.sub (ofTurns A (mkRat 1 2)) angle)
    else if let some angle := lookUp A (knownSines A) (if x.isConstant then A.neg x else x) then
      some (A.add (ofTurns A (mkRat 1 2)) angle)
    else match x with
      | .apply .cos [y] => (reduceAngle? A y 2).map fun angle =>
        if isAbove angle (.constant .pi) then A.sub (ofTurns A 2) angle else angle
      | .apply .sin [y] =>
        if isComparable y then some (A.sub (ofTurns A (mkRat 1 2)) (A.call .asin [x])) else none
      | _ => none

def arcTangent? (A : Algebra slots) (x : Formula slots) : Option (Formula slots) :=
  match x with
  | .number (.infinite negative) => some (ofTurns A (mkRat (if negative then -1 else 1) 2))
  | .number .unsigned => some (.apply .spread [])
  | x =>
    if x.isExactZero then some 0
    else if x.isOne then some (ofTurns A (mkRat 1 4))
    else if x.startsNegative then some (A.neg (A.call .atan [A.neg x]))
    else if let some angle := lookUp A (knownTangents A) x then some angle
    else match x with
      | .apply .tan [y] => (reduceAngle? A y 1).map fun angle =>
        if isAbove angle (ofTurns A (mkRat 1 2)) then A.sub angle (.constant .pi) else angle
      | _ => none

/-- The angle of a point, from its second and first coordinate, where a rule applies. -/
def pointAngle? (A : Algebra slots) (y x : Formula slots) : Option (Formula slots) :=
  let ry := y.range
  let rx := x.range
  if rx.isReal && ry.isReal then
    let slope := A.call .atan [A.div y x]
    if rx.isPositive then some slope
    else if rx.isNegative && ry.isNegative then some (A.sub slope (.constant .pi))
    else if rx.isNegative && ry.isNonnegative then some (A.add slope (.constant .pi))
    else if rx.isZero && ry.isPositive then some (ofTurns A (mkRat 1 2))
    else if rx.isZero && ry.isNegative then some (ofTurns A (mkRat (-1) 2))
    else if rx.isZero && ry.isZero then some (.number .undefined)
    else none
  else match x with
    | .number (.infinite false) => some 0
    | _ => none

def hyperbolic? (A : Algebra slots) (f : Fn) (x : Formula slots) : Option (Formula slots) :=
  match f, x with
  | _, .number .unsigned => some (.number .undefined)
  | .sinh, .number (.infinite _) => some x
  | .cosh, .number (.infinite _) => some (.number (.infinite false))
  | .tanh, .number (.infinite negative) => some (ofInt (if negative then -1 else 1))
  | f, x =>
    if x.isExactZero then some (if f = .cosh then 1 else 0)
    else if let some y := imaginaryFactor? A x then
      some (match f with
        | .cosh => A.call .cos [y]
        | .sinh => A.product [.constant .imaginary, A.call .sin [y]]
        | _ => A.product [.constant .imaginary, A.call .tan [y]])
    else if x.startsNegative then
      let flipped := A.call f [A.neg x]
      some (if f = .cosh then flipped else A.neg flipped)
    else none

end SceneFormula.Formula
