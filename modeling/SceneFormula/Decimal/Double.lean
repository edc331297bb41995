set_option autoImplicit false

namespace SceneFormula

/-- The natural number nearest to `num / den`; of two equally near ones, the even one. -/
def roundHalfEven (num den : Nat) : Nat :=
  let quotient := num / den
  let rest := num % den
  if 2 * rest < den then quotient
  else if 2 * rest = den then quotient + quotient % 2
  else quotient + 1

theorem roundHalfEven_near (num den : Nat) (den_pos : 0 < den) :
    2 * num ≤ (2 * roundHalfEven num den + 1) * den ∧
      2 * (roundHalfEven num den * den) ≤ 2 * num + den := by
  have split := Nat.div_add_mod num den
  have small := Nat.mod_lt num den_pos
  have comm : den * (num / den) = num / den * den := Nat.mul_comm _ _
  have grow : (num / den + 1) * den = num / den * den + den := by
    rw [Nat.add_mul, Nat.one_mul]
  have twice (q : Nat) : (2 * q + 1) * den = 2 * (q * den) + den := by
    rw [Nat.add_mul, Nat.one_mul, Nat.mul_assoc]
  simp only [roundHalfEven]
  split
  · rw [twice]; omega
  · split
    · rcases Nat.mod_two_eq_zero_or_one (num / den) with even | odd
      · rw [twice, even, Nat.add_zero]; omega
      · rw [twice, odd, grow]; omega
    · rw [twice, grow]; omega

namespace Double

/-- A finite double: its sign, and its size `mantissa * 2 ^ exponent`. -/
structure Parts where
  negative : Bool
  mantissa : Nat
  exponent : Int

/-- The parts of a finite double; infinities and undefined numbers have none. -/
def parts? (x : Float) : Option Parts :=
  let bits : Nat := x.toBits.toNat
  let negative := bits / Nat.pow 2 63 == 1
  let biased : Nat := bits / Nat.pow 2 52 % Nat.pow 2 11
  let fraction : Nat := bits % Nat.pow 2 52
  if biased = 2047 then none
  else if biased = 0 then some ⟨negative, fraction, -1074⟩
  else some ⟨negative, fraction + Nat.pow 2 52, (biased : Int) - 1075⟩

def isFinite (x : Float) : Bool := (parts? x).isSome

def scale (mantissa : Nat) (exponent : Int) : Nat × Nat :=
  if 0 ≤ exponent then (mantissa * Nat.pow 2 exponent.toNat, 1)
  else (mantissa, Nat.pow 2 (-exponent).toNat)

def infinity : Float := Float.ofBits 0x7ff0000000000000

def undefined : Float := Float.ofBits 0x7ff8000000000000

def ofSignAndBits (negative : Bool) (bits : Nat) : Float :=
  let size := min bits 0x7ff0000000000000
  Float.ofBits (UInt64.ofNat (if negative then size + Nat.pow 2 63 else size))

/-- The double nearest to `± num / den`, ties to the even mantissa, infinite beyond the range.
A double's bits count the doubles below it, so rounding up to the next power of two or out of
the range needs no case of its own. -/
def ofRatio (negative : Bool) (num den : Nat) : Float :=
  if num = 0 then ofSignAndBits negative 0
  else
    let place : Int := (num.log2 : Int) - (den.log2 : Int) - 53
    let quotientAt (place : Int) : Nat × Nat :=
      if 0 ≤ place then (num, den * Nat.pow 2 place.toNat)
      else (num * Nat.pow 2 (-place).toNat, den)
    let trial := quotientAt place
    let exact := if trial.1 / trial.2 < Nat.pow 2 53 then place else place + 1
    let place := max exact (-1074)
    if 1000 < place then infinityOf negative
    else
      let (top, bottom) := quotientAt place
      ofSignAndBits negative ((place + 1074).toNat * Nat.pow 2 52 + roundHalfEven top bottom)
where
  infinityOf (negative : Bool) : Float := ofSignAndBits negative 0x7ff0000000000000

def ofInt (n : Int) : Float :=
  ofRatio (n < 0) n.natAbs 1

def ofRat (q : Rat) : Float :=
  ofRatio (q.num < 0) q.num.natAbs q.den

def toRat? (x : Float) : Option Rat :=
  (parts? x).map fun parts =>
    let (num, den) := scale parts.mantissa parts.exponent
    mkRat (if parts.negative then -num else num) den

/-- Whether the sign bit is set, that of an undefined number included. -/
def isNegative (x : Float) : Bool :=
  x.toBits.toNat / Nat.pow 2 63 == 1

end Double
end SceneFormula
