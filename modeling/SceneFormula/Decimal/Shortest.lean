import SceneFormula.Decimal.Layout

set_option autoImplicit false

namespace SceneFormula.Decimal

/-- The decimals between which every number rounds to one double, over a common denominator. -/
structure Interval where
  low : Nat
  value : Nat
  high : Nat
  den : Nat
  closed : Bool

/-- The interval of the double `mantissa * 2 ^ exponent`: half way to its neighbours, of which
the lower one is nearer at a power of two. The ends round to the even mantissa. -/
def Interval.ofParts (mantissa : Nat) (exponent : Int) : Interval :=
  let below := if mantissa = Nat.pow 2 52 ∧ -1074 < exponent then 1 else 2
  let (unit, den) := Double.scale 1 (exponent - 2)
  ⟨(4 * mantissa - below) * unit, 4 * mantissa * unit, (4 * mantissa + 2) * unit, den,
    mantissa % 2 = 0⟩

def Interval.holds (interval : Interval) (digits : Nat) (place : Int) : Bool :=
  let (unit, den) :=
    if 0 ≤ place then (Nat.pow 10 place.toNat, 1) else (1, Nat.pow 10 (-place).toNat)
  let point := digits * unit * interval.den
  if interval.closed then
    interval.low * den ≤ point && point ≤ interval.high * den
  else
    interval.low * den < point && point < interval.high * den

/-- The point of the grid `10 ^ place` that lies in the interval and is nearest to its value. -/
def Interval.onGrid? (interval : Interval) (place : Int) : Option Scaled :=
  let (num, den) := atPlace interval.value interval.den place
  let down := num / den
  let nearest := roundHalfEven num den
  if interval.holds nearest place then some ⟨nearest, place⟩
  else if interval.holds down place then some ⟨down, place⟩
  else if interval.holds (down + 1) place then some ⟨down + 1, place⟩
  else none

def Interval.shortest (interval : Interval) : Scaled :=
  let leading := leadingPower interval.value interval.den
  let found := (List.range 17).findSome? fun (n : Nat) => interval.onGrid? (leading - n)
  found.getD ⟨interval.value, 0⟩

def exactFormat : Format := ⟨16, true⟩

def exact (x : Float) : Text :=
  signed x fun parts =>
    if parts.mantissa = 0 then ['0', '.', '0']
    else exactFormat.layout (Interval.ofParts parts.mantissa parts.exponent).shortest.trim

end SceneFormula.Decimal
