import SceneFormula.Number.Binary
import SceneFormula.Decimal.Layout

set_option autoImplicit false

namespace SceneFormula

inductive Number where
  | exact (value : Rat)
  | measured (value : Binary) (bits : Nat)
  | infinite (negative : Bool)
  | unsigned
  | undefined

namespace Number

instance : OfNat Number 0 := ⟨.exact 0⟩
instance : OfNat Number 1 := ⟨.exact 1⟩

def ofInt (n : Int) : Number := .exact n

def half : Number := .exact (mkRat 1 2)

def negOne : Number := .exact (-1)

/-- How many bits a number of decimal digits needs. -/
def bitsOfDigits (digits : Nat) : Nat :=
  roundHalfEven ((digits + 1) * 33219280948873626) 10000000000000000

/-- How many decimal digits a number of bits keeps. -/
def digitsOfBits (bits : Nat) : Nat :=
  max 1 (roundHalfEven (bits * 10000000000000000) 33219280948873626 - 1)

/-- The magnitude that measured numbers stay below: far beyond all doubles. -/
def magnitudeLimit : Nat := Nat.pow 2 20

/-- The result of a measured computation; a result of zero is exact. -/
def ofBinary (bits : Nat) (x : Binary) : Number :=
  if x.isZero then .exact 0 else .measured ((x.round bits).bounded magnitudeLimit) bits

def isExactZero : Number → Bool
  | exact q => q == 0
  | _ => false

def isOne : Number → Bool
  | exact q => q == 1
  | _ => false

def isZero : Number → Bool
  | exact q => q == 0
  | measured x _ => x.isZero
  | _ => false

def isExact : Number → Bool
  | exact _ => true
  | _ => false

def isMeasured : Number → Bool
  | measured _ _ => true
  | _ => false

def isFinite : Number → Bool
  | exact _ | measured _ _ => true
  | _ => false

def isNegative : Number → Bool
  | exact q => q < 0
  | measured x _ => x.isNegative
  | infinite negative => negative
  | _ => false

def isPositive : Number → Bool
  | exact q => 0 < q
  | measured x _ => 0 < x.mantissa
  | infinite negative => !negative
  | _ => false

def int? : Number → Option Int
  | exact q => if q.den = 1 then some q.num else none
  | _ => none

def isInteger (n : Number) : Bool :=
  n.int?.isSome

def rat? : Number → Option Rat
  | exact q => some q
  | _ => none

def value? : Number → Option Rat
  | exact q => some q
  | measured x _ => some x.toRat
  | _ => none

def binary? (bits : Nat) : Number → Option Binary
  | exact q => some (Binary.ofRat bits q)
  | measured x _ => some x
  | _ => none

def neg : Number → Number
  | exact q => exact (-q)
  | measured x bits => measured x.neg bits
  | infinite negative => infinite (!negative)
  | unsigned => unsigned
  | undefined => undefined

def abs (n : Number) : Number :=
  match n with
  | unsigned => infinite false
  | n => if n.isNegative then n.neg else n

/-- The sum. A fraction takes the bits of a measured number that it meets. -/
def add : Number → Number → Number
  | exact p, exact q => exact (p + q)
  | exact p, measured y bits => ofBinary bits (Binary.addTo bits (Binary.ofRat bits p) y)
  | measured x bits, exact q => ofBinary bits (Binary.addTo bits x (Binary.ofRat bits q))
  | measured x m, measured y n => ofBinary (max m n) (Binary.addTo (max m n) x y)
  | undefined, _ | _, undefined => undefined
  | unsigned, n | n, unsigned => if n.isFinite then unsigned else undefined
  | infinite a, infinite b => if a == b then infinite a else undefined
  | infinite a, _ | _, infinite a => infinite a

/-- The product; zero times an infinity has no value. -/
def mul : Number → Number → Number
  | exact p, exact q => exact (p * q)
  | exact p, measured y bits => ofBinary bits ((Binary.ofRat bits p).mul y)
  | measured x bits, exact q => ofBinary bits (x.mul (Binary.ofRat bits q))
  | measured x m, measured y n => ofBinary (max m n) (x.mul y)
  | undefined, _ | _, undefined => undefined
  | unsigned, n | n, unsigned => if n.isZero then undefined else unsigned
  | infinite a, n | n, infinite a => if n.isZero then undefined else infinite (a != n.isNegative)

def inv : Number → Number
  | exact q => if q == 0 then unsigned else exact q⁻¹
  | measured x bits => if x.isZero then unsigned else ofBinary bits (Binary.div bits ⟨1, 0⟩ x)
  | undefined => undefined
  | infinite _ | unsigned => exact 0

/-- The order of two finite numbers, or of one and a signed infinity. -/
def compare? : Number → Number → Option Ordering
  | exact p, exact q => some (if p < q then .lt else if p = q then .eq else .gt)
  | exact p, measured y bits => some (Binary.compare (Binary.ofRat (bits + 64) p) y)
  | measured x bits, exact q => some (Binary.compare x (Binary.ofRat (bits + 64) q))
  | measured x _, measured y _ => some (Binary.compare x y)
  | infinite a, infinite b => some (if a == b then .eq else if a then .lt else .gt)
  | infinite a, exact _ | infinite a, measured _ _ => some (if a then .lt else .gt)
  | exact _, infinite b | measured _ _, infinite b => some (if b then .gt else .lt)
  | _, _ => none

/-- The most decimal digits that a whole number is written with. -/
def digitLimit : Nat := 4300

/-- Whether an integer has more digits than it can be written with. -/
def isLong (n : Int) : Bool :=
  3 * digitLimit < n.natAbs.log2 && Nat.pow 10 digitLimit ≤ n.natAbs

/-- Whether numerator or denominator of an exact number is too long to be written. -/
def isTooLong : Number → Bool
  | exact q => isLong q.num || isLong q.den
  | _ => false

/-- The greatest integer not above a finite number. -/
def floor? : Number → Option Int
  | exact q => some q.floor
  | measured x _ => if 100000 < x.magnitude then none else some x.floor
  | _ => none

/-- The least integer not below a finite number. -/
def ceil? (n : Number) : Option Int :=
  n.neg.floor?.map (- ·)

/-- Same kind, same value, same bits. -/
def same : Number → Number → Bool
  | exact p, exact q => p == q
  | measured x m, measured y n =>
    m == n && x.mantissa == y.mantissa && x.exponent == y.exponent
  | infinite a, infinite b => a == b
  | unsigned, unsigned => true
  | undefined, undefined => true
  | _, _ => false

/-- A positive binary number to its decimal digits, a half rounded up. -/
def measuredDigits (x : Binary) (bits : Nat) : Decimal.Scaled :=
  let (num, den) := Double.scale x.mantissa.natAbs x.exponent
  let place := Decimal.leadingPower num den - digitsOfBits bits + 1
  let (top, bottom) := Decimal.atPlace num den place
  ⟨(2 * top + bottom) / (2 * bottom), place⟩

end Number
end SceneFormula
