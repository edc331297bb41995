import SceneFormula.Decimal.Double

set_option autoImplicit false

namespace SceneFormula

/-- The number `mantissa * 2 ^ exponent`. -/
structure Binary where
  mantissa : Int
  exponent : Int

namespace Binary

def zero : Binary := ⟨0, 0⟩

def ofInt (n : Int) : Binary := ⟨n, 0⟩

def twos (n : Nat) : Nat :=
  (n ^^^ (n - 1)).log2

/-- The same number with an odd mantissa; zero has one form. -/
def normal (x : Binary) : Binary :=
  if x.mantissa = 0 then zero
  else
    let shift := twos x.mantissa.natAbs
    ⟨x.mantissa / Int.pow 2 shift, x.exponent + shift⟩

def isZero (x : Binary) : Bool := x.mantissa == 0

def isNegative (x : Binary) : Bool := x.mantissa < 0

/-- The power of two that the size of a nonzero number is at least, and below twice of. -/
def magnitude (x : Binary) : Int :=
  x.mantissa.natAbs.log2 + x.exponent

/-- The nearest number whose mantissa has at most `bits` bits, ties to the even one. -/
def round (bits : Nat) (x : Binary) : Binary :=
  let length := x.mantissa.natAbs.log2 + 1
  if length ≤ bits then x.normal
  else
    let shift := length - bits
    let size : Int := roundHalfEven x.mantissa.natAbs (Nat.pow 2 shift)
    normal ⟨if x.mantissa < 0 then -size else size, x.exponent + shift⟩

/-- The number brought between `2 ^ -limit` and `2 ^ limit` where it is out of these bounds, so that
it can be written out. -/
def bounded (limit : Nat) (x : Binary) : Binary :=
  let size := x.magnitude
  if (limit : Int) < size then ⟨x.mantissa, x.exponent - (size - limit)⟩
  else if size < -limit then ⟨x.mantissa, x.exponent - (size + limit)⟩
  else x

def neg (x : Binary) : Binary := ⟨-x.mantissa, x.exponent⟩

def abs (x : Binary) : Binary := ⟨x.mantissa.natAbs, x.exponent⟩

def add (x y : Binary) : Binary :=
  if x.exponent ≤ y.exponent then
    ⟨x.mantissa + y.mantissa * Int.pow 2 (y.exponent - x.exponent).toNat, x.exponent⟩
  else
    ⟨x.mantissa * Int.pow 2 (x.exponent - y.exponent).toNat + y.mantissa, y.exponent⟩

def sub (x y : Binary) : Binary := add x (neg y)

/-- The sum to `bits` bits; a term too small to matter is not brought to the scale of the other. -/
def addTo (bits : Nat) (x y : Binary) : Binary :=
  if x.isZero then round bits y
  else if y.isZero then round bits x
  else if y.magnitude + bits + 8 < x.magnitude then round bits x
  else if x.magnitude + bits + 8 < y.magnitude then round bits y
  else round bits (add x y)

def mul (x y : Binary) : Binary :=
  ⟨x.mantissa * y.mantissa, x.exponent + y.exponent⟩

def ofRatio (bits : Nat) (negative : Bool) (num den : Nat) : Binary :=
  let shift := bits + 2 + den.log2 - num.log2
  let quotient := num * Nat.pow 2 shift / den
  let sticky := if num * Nat.pow 2 shift % den = 0 then 2 * quotient else 2 * quotient + 1
  round bits ⟨if negative then -(sticky : Int) else sticky, -(shift : Int) - 1⟩

def div (bits : Nat) (x y : Binary) : Binary :=
  let quotient := ofRatio bits ((x.mantissa < 0) != (y.mantissa < 0)) x.mantissa.natAbs
    y.mantissa.natAbs
  ⟨quotient.mantissa, quotient.exponent + x.exponent - y.exponent⟩

def ofRat (bits : Nat) (q : Rat) : Binary :=
  ofRatio bits (q.num < 0) q.num.natAbs q.den

def toRat (x : Binary) : Rat :=
  if 0 ≤ x.exponent then ((x.mantissa * Int.pow 2 x.exponent.toNat : Int) : Rat)
  else mkRat x.mantissa (Nat.pow 2 (-x.exponent).toNat)

def compare (x y : Binary) : Ordering :=
  let sign (n : Int) : Int := if n < 0 then -1 else if n = 0 then 0 else 1
  let sx := sign x.mantissa
  let sy := sign y.mantissa
  if sx ≠ sy then Ord.compare sx sy
  else if sx = 0 then .eq
  else if x.magnitude ≠ y.magnitude then Ord.compare (sx * x.magnitude) (sx * y.magnitude)
  else Ord.compare (sub x y).mantissa 0

/-- The nearest double; beyond the range it is infinite or zero. -/
def toDouble (x : Binary) : Float :=
  if x.isZero then Double.ofSignAndBits false 0
  else if 1100 < x.magnitude then Double.ofSignAndBits x.isNegative 0x7ff0000000000000
  else if x.magnitude < -1200 then Double.ofSignAndBits x.isNegative 0
  else Double.ofRat x.toRat

/-- The greatest integer that is not above the number. -/
def floor (x : Binary) : Int :=
  if 0 ≤ x.exponent then x.mantissa * Int.pow 2 x.exponent.toNat
  else Int.fdiv x.mantissa (Int.pow 2 (-x.exponent).toNat)

def isInteger (x : Binary) : Bool :=
  0 ≤ x.normal.exponent

def fixed (place : Nat) (x : Binary) : Int :=
  floor ⟨x.mantissa, x.exponent + place⟩

def powNat (bits : Nat) (x : Binary) (n : Nat) : Binary :=
  let spare := bits + 2 * n.log2 + 16
  (go spare x.normal ⟨1, 0⟩ n (n.log2 + 1)).round bits
where
  go (spare : Nat) (square result : Binary) (n : Nat) : Nat → Binary
    | 0 => result
    | fuel + 1 =>
      if n = 0 then result
      else
        let result := if n % 2 = 1 then round spare (mul result square) else result
        go spare (round spare (mul square square)) result (n / 2) fuel

/-- The integer whose square is the greatest not above `n`. -/
def natSqrt (n : Nat) : Nat :=
  if n < 2 then n else go n (Nat.pow 2 (n.log2 / 2 + 1)) (n.log2 + 2)
where
  go (n guess : Nat) : Nat → Nat
    | 0 => guess
    | fuel + 1 =>
      let next := (guess + n / guess) / 2
      if guess ≤ next then guess else go n next fuel

/-- The square root of a number that is not negative, to `bits` bits. -/
def sqrt (bits : Nat) (x : Binary) : Binary :=
  if x.mantissa ≤ 0 then zero
  else
    let size := x.mantissa.natAbs
    let spare := 2 * bits + 8 - size.log2
    let spare := if (x.exponent - spare) % 2 = 0 then spare else spare + 1
    let radicand := size * Nat.pow 2 spare
    let root := natSqrt radicand
    let sticky := if root * root = radicand then 2 * root else 2 * root + 1
    round bits ⟨sticky, (x.exponent - spare) / 2 - 1⟩

end Binary
end SceneFormula
