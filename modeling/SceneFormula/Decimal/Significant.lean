import SceneFormula.Decimal.Layout

set_option autoImplicit false

namespace SceneFormula.Decimal

/-- The positive quotient `num / den` to `count` significant digits, ties to the even digit. -/
def roundTo (count num den : Nat) : Scaled :=
  let place := leadingPower num den - count + 1
  let (top, bottom) := atPlace num den place
  ⟨roundHalfEven top bottom, place⟩

def significant (count : Nat) (x : Float) : Text :=
  signed x fun parts =>
    if parts.mantissa = 0 then ['0']
    else
      let (num, den) := Double.scale parts.mantissa parts.exponent
      (Format.mk count false).layout (roundTo count num den).trim

end SceneFormula.Decimal
