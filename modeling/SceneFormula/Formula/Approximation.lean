import SceneFormula.Formula.Basic
import SceneFormula.Number.Elementary

set_option autoImplicit false

namespace SceneFormula

/-- A complex number to many bits. -/
structure Approx where
  re : Binary
  im : Binary

namespace Approx

def ofReal (x : Binary) : Approx := ⟨x, Binary.zero⟩

def real? (z : Approx) : Option Binary :=
  if z.im.isZero then some z.re else none

/-- The sum of numbers. A sum far smaller than its terms is taken for zero. -/
def sumReal (bits : Nat) (xs : List Binary) : Binary :=
  let present := xs.filter fun x => !x.isZero
  match present.map Binary.magnitude with
  | [] => Binary.zero
  | m :: ms =>
    let most := ms.foldl max m
    let total := present.foldl (Binary.addTo (bits + 16)) Binary.zero
    if total.isZero then total
    else if total.magnitude + bits < most + 60 then Binary.zero
    else total.round bits

def sum (bits : Nat) (zs : List Approx) : Approx :=
  ⟨sumReal bits (zs.map re), sumReal bits (zs.map im)⟩

def mul (bits : Nat) (z w : Approx) : Approx :=
  ⟨sumReal bits [z.re.mul w.re, (z.im.mul w.im).neg],
    sumReal bits [z.re.mul w.im, z.im.mul w.re]⟩

def norm (bits : Nat) (z : Approx) : Binary :=
  Binary.addTo bits (z.re.mul z.re) (z.im.mul z.im)

/-- The inverse, if the number is not zero. -/
def inv? (bits : Nat) (z : Approx) : Option Approx :=
  let size := norm bits z
  if size.isZero then none
  else some ⟨Binary.div bits z.re size, Binary.div bits z.im.neg size⟩

/-- The direction of a nonzero number, in half turns of the circle number. -/
def angle (bits : Nat) (z : Approx) : Binary :=
  if z.re.isZero then
    let half : Binary := ⟨(Binary.pi bits).mantissa, (Binary.pi bits).exponent - 1⟩
    if z.im.isNegative then half.neg else half
  else
    let slope := Binary.atan bits (Binary.div bits z.im z.re)
    if !z.re.isNegative then slope
    else if z.im.isNegative then Binary.addTo bits slope (Binary.pi bits).neg
    else Binary.addTo bits slope (Binary.pi bits)

def powNat (bits : Nat) (z : Approx) : Nat → Approx
  | 0 => ofReal ⟨1, 0⟩
  | n + 1 => mul bits z (powNat bits z n)

def polarPow (bits : Nat) (z : Approx) (e : Binary) : Option Approx :=
  let logSize := Binary.log bits (norm bits z)
  let scaled := (logSize.mul e).round bits
  if 60 < scaled.magnitude then none
  else
    let size := Binary.exp bits ⟨scaled.mantissa, scaled.exponent - 1⟩
    let (s, c) := Binary.sinCos bits (((angle bits z).mul e).round bits)
    some ⟨(size.mul c).round bits, (size.mul s).round bits⟩

def pow? (bits : Nat) (z w : Approx) : Option Approx := do
  let e ← w.real?
  if z.re.isZero && z.im.isZero then
    if 0 < e.mantissa then some (ofReal Binary.zero) else none
  else if e.isInteger && e.magnitude < 40 then
    let n := e.floor.natAbs
    let power ← match z.real? with
      | some x => some (ofReal (Binary.powNat bits x n))
      | none => if n < 1000 then some (powNat bits z n) else none
    if e.isNegative then inv? bits power else some power
  else match z.real? with
    | some x =>
      if x.isNegative then polarPow bits z e
      else
        let scaled := ((Binary.log bits x).mul e).round bits
        if !scaled.isZero && 60 < scaled.magnitude then none
        else some (ofReal (Binary.pow bits x e))
    | none => polarPow bits z e

/-- The exponential, unless it is too large to hold. -/
def exp? (bits : Nat) (x : Binary) : Option Binary :=
  if !x.isZero && 60 < x.magnitude then none else some (Binary.exp bits x)

/-- The larger root part `log (x + sqrt (x ^ 2 - 1))` of a number above one. -/
def areaCosine (bits : Nat) (x : Binary) : Binary :=
  Binary.log bits (Binary.addTo bits x
    (Binary.sqrt bits (Binary.addTo bits (x.mul x) ⟨-1, 0⟩)))

end Approx

namespace Fn

def inUnit (x : Binary) : Bool :=
  Binary.compare x.abs ⟨1, 0⟩ != .gt

/-- Whether a number is small enough to be reduced to a part of a turn. -/
def isTurnable (x : Binary) : Bool := x.isZero || x.magnitude < 100000

def approx? (bits : Nat) (f : Fn) (arguments : List Binary) : Option Approx :=
  match f, arguments with
  | .sin, [x] => if isTurnable x then some (.ofReal (Binary.sinCos bits x).1) else none
  | .cos, [x] => if isTurnable x then some (.ofReal (Binary.sinCos bits x).2) else none
  | .tan, [x] => if isTurnable x then some (.ofReal (Binary.tan bits x)) else none
  | .cot, [x] =>
    if isTurnable x then
      let (s, c) := Binary.sinCos bits x
      if s.isZero then none else some (.ofReal (Binary.div bits c s))
    else none
  | .asin, [x] =>
    if inUnit x then some (.ofReal (Binary.asin bits x))
    else
      let quarter := Binary.asin bits ⟨1, 0⟩
      let rise := Approx.areaCosine bits x.abs
      some (if x.isNegative then ⟨quarter.neg, rise⟩ else ⟨quarter, rise.neg⟩)
  | .acos, [x] =>
    if inUnit x then some (.ofReal (Binary.acos bits x))
    else
      let rise := Approx.areaCosine bits x.abs
      some (if x.isNegative then ⟨Binary.pi bits, rise.neg⟩ else ⟨Binary.zero, rise⟩)
  | .atan, [x] => some (.ofReal (Binary.atan bits x))
  | .atan2, [y, x] =>
    if x.isZero && y.isZero then none else some (.ofReal (Approx.angle bits ⟨x, y⟩))
  | .sinh, [x] => (Approx.exp? bits x).map fun _ => .ofReal (Binary.sinhCosh bits x).1
  | .cosh, [x] => (Approx.exp? bits x).map fun _ => .ofReal (Binary.sinhCosh bits x).2
  | .tanh, [x] =>
    if !x.isZero && 12 < x.magnitude then some (.ofReal ⟨if x.isNegative then -1 else 1, 0⟩)
    else some (.ofReal (Binary.tanh bits x))
  | .exp, [x] => (Approx.exp? bits x).map .ofReal
  | .log, [x] =>
    if x.isZero then none
    else if x.isNegative then some ⟨Binary.log bits x.abs, Binary.pi bits⟩
    else some (.ofReal (Binary.log bits x))
  | .abs, [x] => some (.ofReal x.abs)
  | .floor, [x] => if x.magnitude < 4000 then some (.ofReal (.ofInt x.floor)) else none
  | .ceiling, [x] => if x.magnitude < 4000 then some (.ofReal (.ofInt (-x.neg.floor))) else none
  | .remainder, [x, y] =>
    if y.isZero || 2000 < x.magnitude || 2000 < y.magnitude.natAbs then none
    else
      let turns := ((Binary.div (bits + x.magnitude.natAbs + y.magnitude.natAbs) x y)).floor
      some (.ofReal (Approx.sumReal bits [x, (y.mul (.ofInt turns)).neg]))
  | .minimum, x :: xs =>
    some (.ofReal (xs.foldl (fun m y => if Binary.compare y m == .lt then y else m) x))
  | .maximum, x :: xs =>
    some (.ofReal (xs.foldl (fun m y => if Binary.compare y m == .gt then y else m) x))
  | .factorial, [x] =>
    if x.isInteger && x.isNegative then none
    else if 40 < x.magnitude then none
    else if Binary.compare x ⟨-1, 0⟩ == .gt then some (.ofReal (Binary.factorialAbove bits x))
    else
      let turn := (x.mul (Binary.pi (bits + 64))).neg
      let mirrored := Binary.factorialAbove (bits + 32) (x.neg.sub ⟨1, 0⟩)
      some (.ofReal (Binary.div bits (Binary.pi (bits + 8))
        ((Binary.sinCos (bits + 32) turn).1.mul mirrored)))
  | .realPart, [x] => some (.ofReal x)
  | _, _ => none

end Fn

namespace Formula

variable {slots : List Nat}

mutual

/-- The value of a formula without slots, if it is finite and within reach. -/
def approx? (bits : Nat) : Formula slots → Option Approx
  | number n => (n.binary? bits).map .ofReal
  | constant .pi => some (.ofReal (Binary.pi bits))
  | constant .e => some (.ofReal (Binary.exp bits ⟨1, 0⟩))
  | constant .imaginary => some ⟨Binary.zero, ⟨1, 0⟩⟩
  | slot _ _ => none
  | sum xs => (approxAll? bits xs).map (Approx.sum bits)
  | product xs => (approxAll? bits xs).map fun zs =>
      zs.foldl (Approx.mul bits) (.ofReal ⟨1, 0⟩)
  | power b e => do Approx.pow? bits (← approx? bits b) (← approx? bits e)
  | apply .abs [x] => do
      let z ← approx? bits x
      some (.ofReal (match z.real? with
        | some r => r.abs
        | none => Binary.sqrt bits (z.norm bits)))
  | apply .realPart [x] => do some (.ofReal (← approx? bits x).re)
  | apply f xs => do f.approx? bits (← (← approxAll? bits xs).mapM Approx.real?)

def approxAll? (bits : Nat) : List (Formula slots) → Option (List Approx)
  | [] => some []
  | x :: xs => do return (← approx? bits x) :: (← approxAll? bits xs)

end

def workingBits : Nat := 256

def constantValue? (x : Formula slots) : Option Approx :=
  if x.isConstant then x.approx? workingBits else none

def realValue? (x : Formula slots) : Option Binary :=
  x.constantValue?.bind Approx.real?

end Formula
end SceneFormula
