import SceneFormula.Text.Blank
import SceneFormula.Decimal.Double

set_option autoImplicit false

namespace SceneFormula

def intText (n : Int) : Text :=
  if n < 0 then '-' :: Nat.toDigits 10 n.natAbs else Nat.toDigits 10 n.natAbs

namespace Decimal

/-- A positive decimal number: `digits * 10 ^ exponent`. -/
structure Scaled where
  digits : Nat
  exponent : Int

def Scaled.trim (x : Scaled) : Scaled :=
  go x.digits x.exponent x.digits.log2
where
  go (digits : Nat) (exponent : Int) : Nat → Scaled
    | 0 => ⟨digits, exponent⟩
    | fuel + 1 =>
      if digits % 10 = 0 ∧ digits ≠ 0 then go (digits / 10) (exponent + 1) fuel
      else ⟨digits, exponent⟩

/-- The choices of a number format: below which power of ten the digits are written out, and
whether a whole number then keeps one digit after the point. -/
structure Format where
  writtenOutBelow : Int
  keepsPoint : Bool

def exponentText (exponent : Int) : Text :=
  let digits := Nat.toDigits 10 exponent.natAbs
  'e' :: (if exponent < 0 then '-' else '+') ::
    (if digits.length < 2 then '0' :: digits else digits)

/-- Lay out a positive number whose digits do not end in zero. Numbers from `0.0001` up to the
format's limit are written out, all others get an exponent. -/
def Format.layout (format : Format) (x : Scaled) : Text :=
  let digits := Nat.toDigits 10 x.digits
  let leading := x.exponent + digits.length - 1
  if leading < -4 ∨ format.writtenOutBelow ≤ leading then
    match digits with
    | [d] => d :: exponentText leading
    | d :: rest => d :: '.' :: rest ++ exponentText leading
    | [] => exponentText leading
  else if 0 ≤ x.exponent then
    digits ++ List.replicate x.exponent.toNat '0' ++ (if format.keepsPoint then ['.', '0'] else [])
  else if 0 ≤ leading then
    let whole := leading.toNat + 1
    digits.take whole ++ '.' :: digits.drop whole
  else
    '0' :: '.' :: (List.replicate (-leading - 1).toNat '0' ++ digits)

def leadingPower (num den : Nat) : Int :=
  if den ≤ num then ((Nat.toDigits 10 (num / den)).length : Int) - 1
  else
    let length := (Nat.toDigits 10 (den / num)).length
    if num * Nat.pow 10 (length - 1) = den then 1 - (length : Int) else -(length : Int)

def atPlace (num den : Nat) (place : Int) : Nat × Nat :=
  if 0 ≤ place then (num, den * Nat.pow 10 place.toNat) else (num * Nat.pow 10 (-place).toNat, den)

/-- The text of a number that has a sign, given that of its size; an undefined number has none. -/
def signed (x : Float) (sizeText : Double.Parts → Text) : Text :=
  match Double.parts? x with
  | some parts =>
    if parts.negative then '-' :: sizeText parts else sizeText parts
  | none =>
    if x.isNaN then ['n', 'a', 'n']
    else if Double.isNegative x then ['-', 'i', 'n', 'f'] else ['i', 'n', 'f']

end Decimal
end SceneFormula
