import SceneFormula.Formula.Engine
import SceneFormula.Number.Binary
import SceneFormula.Number.Roots

set_option autoImplicit false

namespace SceneFormula

inductive Scalar where
  | whole (n : Int)
  | real (x : Float)
  | complex (re im : Float)

abbrev Computed := Except ArithmeticFault

namespace Double

/-- The double nearest to an integer, unless that is beyond the range. -/
def ofInt? (n : Int) : Computed Float :=
  let x := ofInt n
  if isFinite x then .ok x else .error .overflow

def isOdd (x : Float) : Bool :=
  match toRat? x with
  | some q => q.den == 1 && q.num % 2 != 0
  | none => false

def isWhole (x : Float) : Bool :=
  match toRat? x with
  | some q => q.den == 1
  | none => false

/-- The remainder of a division toward zero, which is exact and has the sign of the dividend. -/
def remainder (x y : Float) : Float :=
  match toRat? x, toRat? y with
  | some p, some q =>
    let turns := (p / q).num.tdiv (p / q).den
    let rest := p - turns * q
    if rest = 0 then ofSignAndBits (isNegative x) 0 else ofRat rest
  | some _, none => if y.isNaN then y else x
  | none, _ => undefined

def hypotenuse (x y : Float) : Float :=
  match parts? x, parts? y with
  | some p, some q =>
    let square (p : Parts) : Binary := Binary.mul ⟨p.mantissa, p.exponent⟩ ⟨p.mantissa, p.exponent⟩
    (Binary.sqrt 53 (Binary.add (square p) (square q))).toDouble
  | _, _ => if x.isInf || y.isInf then infinity else undefined

end Double

namespace Scalar

/-- The value as a double. -/
def toDouble? : Scalar → Computed Float
  | whole n => Double.ofInt? n
  | real x => .ok x
  | complex _ _ => .error .kind

def parts? : Scalar → Computed (Float × Float)
  | complex re im => .ok (re, im)
  | x => x.toDouble?.map fun y => (y, 0)

def isComplex : Scalar → Bool
  | complex _ _ => true
  | _ => false

/-- An operation that is done on doubles, or on complex numbers if one operand is complex. -/
def lift (onReals : Float → Float → Computed Scalar)
    (onComplex : Float × Float → Float × Float → Computed Scalar) (x y : Scalar) :
    Computed Scalar :=
  if x.isComplex || y.isComplex then do
    let z ← x.parts?
    let w ← y.parts?
    onComplex z w
  else do
    let a ← x.toDouble?
    let b ← y.toDouble?
    onReals a b

def neg : Scalar → Scalar
  | whole n => whole (-n)
  | real x => real (-x)
  | complex re im => complex (-re) (-im)

def add (x y : Scalar) : Computed Scalar :=
  match x, y with
  | whole m, whole n => .ok (whole (m + n))
  | x, y => lift (fun a b => .ok (real (a + b)))
      (fun z w => .ok (complex (z.1 + w.1) (z.2 + w.2))) x y

def complexMul (z w : Float × Float) : Float × Float :=
  (z.1 * w.1 - z.2 * w.2, z.1 * w.2 + z.2 * w.1)

def mul (x y : Scalar) : Computed Scalar :=
  match x, y with
  | whole m, whole n => .ok (whole (m * n))
  | x, y => lift (fun a b => .ok (real (a * b)))
      (fun z w => let p := complexMul z w; .ok (complex p.1 p.2)) x y

/-- The quotient of two complex numbers; the part of the divisor that is larger divides first. -/
def complexDiv (z w : Float × Float) : Computed (Float × Float) :=
  let (a, b) := z
  let (c, d) := w
  let sizeC := c.abs
  let sizeD := d.abs
  if sizeC ≥ sizeD then
    if sizeC == 0 then .error .divisionByZero
    else
      let ratio := d / c
      let denominator := c + d * ratio
      .ok ((a + b * ratio) / denominator, (b - a * ratio) / denominator)
  else if sizeD ≥ sizeC then
    let ratio := c / d
    let denominator := c * ratio + d
    .ok ((a * ratio + b) / denominator, (b * ratio - a) / denominator)
  else .ok (Double.undefined, Double.undefined)

def div (x y : Scalar) : Computed Scalar :=
  match x, y with
  | whole m, whole n =>
    if n = 0 then .error .divisionByZero
    else
      let q := Double.ofRatio ((m < 0) != (n < 0)) m.natAbs n.natAbs
      if Double.isFinite q then .ok (real q) else .error .overflow
  | x, y => lift (fun a b => if b == 0 then .error .divisionByZero else .ok (real (a / b)))
      (fun z w => (complexDiv z w).map fun q => complex q.1 q.2) x y

def mod (x y : Scalar) : Computed Scalar :=
  match x, y with
  | whole m, whole n => if n = 0 then .error .divisionByZero else .ok (whole (m.fmod n))
  | x, y => lift (fun a b =>
      if b == 0 then .error .divisionByZero
      else
        let rest := Double.remainder a b
        if rest == 0 then .ok (real (Double.ofSignAndBits (Double.isNegative b) 0))
        else if (b < 0) != (rest < 0) then .ok (real (rest + b))
        else .ok (real rest)) (fun _ _ => .error .kind) x y

def complexPowNat (z : Float × Float) (n : Nat) : Float × Float :=
  go z (1, 0) n (n.log2 + 1)
where
  go (square result : Float × Float) (n : Nat) : Nat → Float × Float
    | 0 => result
    | fuel + 1 =>
      if n = 0 then result
      else
        let result := if n % 2 = 1 then complexMul result square else result
        go (complexMul square square) result (n / 2) fuel

def polarPow (z w : Float × Float) : Computed (Float × Float) :=
  if w.1 == 0 && w.2 == 0 then .ok (1, 0)
  else if z.1 == 0 && z.2 == 0 then
    if w.2 != 0 || w.1 < 0 then .error .divisionByZero else .ok (0, 0)
  else
    let size := Double.hypotenuse z.1 z.2
    let angle := Float.atan2 z.2 z.1
    let length := Float.pow size w.1
    let (length, phase) := if w.2 == 0 then (length, angle * w.1)
      else (length / Float.exp (angle * w.2), angle * w.1 + w.2 * Float.log size)
    .ok (length * Float.cos phase, length * Float.sin phase)

def complexPow (z w : Float × Float) : Computed Scalar := do
  let whole := if w.2 == 0 && w.1.abs ≤ 100 then
      (Double.toRat? w.1).bind fun q => if q.den = 1 then some q.num else none
    else none
  let (re, im) ← match whole with
    | some n =>
      if 0 < n then .ok (complexPowNat z n.toNat)
      else complexDiv (1, 0) (complexPowNat z n.natAbs)
    | none => polarPow z w
  if re.isInf || im.isInf then .error .overflow else .ok (complex re im)

/-- A power of a double. A negative base with a broken exponent gives a complex number. -/
def realPow (x y : Float) : Computed Scalar :=
  if y == 0 then .ok (real 1)
  else if x.isNaN then .ok (real x)
  else if y.isNaN then .ok (real (if x == 1 then 1 else y))
  else if y.isInf then
    let size := x.abs
    .ok (real (if size == 1 then 1
      else if (0 < y) == (1 < size) then y.abs else 0))
  else if x.isInf then
    .ok (real (if 0 < y then (if Double.isOdd y then x else x.abs)
      else Double.ofSignAndBits (Double.isOdd y && Double.isNegative x) 0))
  else if x == 0 then
    if y < 0 then .error .divisionByZero
    else .ok (real (if Double.isOdd y then x else 0))
  else if x < 0 && !Double.isWhole y then complexPow (x, 0) (y, 0)
  else
    let size := Float.pow x.abs y
    if size.isInf then .error .overflow
    else .ok (real (if x < 0 && Double.isOdd y then -size else size))

def pow (x y : Scalar) : Computed Scalar :=
  match x, y with
  | whole m, whole n =>
    if 0 ≤ n then
      match Roots.power? m n.toNat with
      | some power => .ok (whole power)
      | none => .error .overflow
    else lift realPow complexPow x y
  | x, y => lift realPow complexPow x y

/-- The order of two real values; an undefined one has no place. -/
def compare? (x y : Scalar) : Computed (Option Ordering) :=
  let against (n : Int) (a : Float) : Option Ordering :=
    match Double.toRat? a with
    | some q => some (if (n : Rat) < q then .lt else if (n : Rat) = q then .eq else .gt)
    | none => if a.isNaN then none else some (if 0 < a then .lt else .gt)
  match x, y with
  | whole m, whole n => .ok (some (compare m n))
  | whole m, real b => .ok (against m b)
  | real a, whole n => .ok ((against n a).map Ordering.swap)
  | real a, real b =>
    .ok (if a < b then some .lt else if a == b then some .eq else if b < a then some .gt else none)
  | _, _ => .error .kind

/-- The first of the values that no other one exceeds on the given side. -/
def extremum (side : Ordering) : List Scalar → Computed Scalar
  | [] => .error .kind
  | x :: rest => rest.foldlM (fun best y => do
      let order ← y.compare? best
      return if order = some side then y else best) x

/-- The absolute value, of a complex number as well. -/
def abs : Scalar → Computed Scalar
  | whole n => .ok (whole n.natAbs)
  | real x => .ok (real x.abs)
  | complex re im =>
    let size := Double.hypotenuse re im
    if size.isInf && !re.isInf && !im.isInf then .error .overflow else .ok (real size)

def toWhole (rounding : Rat → Int) : Scalar → Computed Scalar
  | whole n => .ok (whole n)
  | real x =>
    match Double.toRat? x with
    | some q => .ok (whole (rounding q))
    | none => .error (if x.isNaN then .domain else .overflow)
  | complex _ _ => .error .kind

/-- A function of a double. An undefined result is outside the domain, an infinite one is beyond
the range where the function is `unbounded` and outside the domain elsewhere. -/
def onDouble (f : Float → Float) (unbounded : Bool) (x : Scalar) : Computed Scalar := do
  let a ← x.toDouble?
  let y := f a
  if y.isNaN && !a.isNaN then .error .domain
  else if y.isInf && Double.isFinite a then .error (if unbounded then .overflow else .domain)
  else .ok (real y)

/-- The natural logarithm, of whole numbers beyond the range of doubles as well. -/
def log : Scalar → Computed Scalar
  | whole n =>
    if n ≤ 0 then .error .domain
    else
      let x := Double.ofInt n
      if Double.isFinite x then .ok (real x.log)
      else
        let shift := n.natAbs.log2 + 1
        let fraction := Double.ofRatio false n.natAbs (Nat.pow 2 shift)
        .ok (real (fraction.log + Float.log 2 * Double.ofInt shift))
  | real x => if x ≤ 0 then .error .domain else .ok (real x.log)
  | complex _ _ => .error .kind

def factorial : Scalar → Computed Scalar
  | whole n =>
    if n < 0 then .error .domain
    else match Roots.factorial? n.toNat with
      | some product => .ok (whole product)
      | none => .error .overflow
  | _ => .error .kind

def angle (y x : Scalar) : Computed Scalar := do
  let b ← y.toDouble?
  let a ← x.toDouble?
  return real (Float.atan2 b a)

end Scalar
end SceneFormula
