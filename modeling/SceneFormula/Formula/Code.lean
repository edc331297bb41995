import SceneFormula.Decimal.Reading
import SceneFormula.Formula.Arrangement
import SceneFormula.Formula.Scalar

set_option autoImplicit false

namespace SceneFormula

inductive Code (slots : List Nat) where
  | constant (value : Scalar)
  | slot (index : Nat) (named : index ∈ slots)
  | neg (x : Code slots)
  | add (x y : Code slots)
  | mul (x y : Code slots)
  | div (x y : Code slots)
  | pow (x y : Code slots)
  | root (x : Code slots)
  | apply (function : Fn) (arguments : List (Code slots))

def Fn.compute (f : Fn) (xs : List Scalar) : Computed Scalar :=
  match f, xs with
  | .sin, [x] => x.onDouble Float.sin false
  | .cos, [x] => x.onDouble Float.cos false
  | .tan, [x] => x.onDouble Float.tan false
  | .cot, [x] => (x.onDouble Float.tan false).bind fun t => Scalar.div (.whole 1) t
  | .asin, [x] => x.onDouble Float.asin false
  | .acos, [x] => x.onDouble Float.acos false
  | .atan, [x] => x.onDouble Float.atan false
  | .atan2, [y, x] => Scalar.angle y x
  | .sinh, [x] => x.onDouble Float.sinh true
  | .cosh, [x] => x.onDouble Float.cosh true
  | .tanh, [x] => x.onDouble Float.tanh false
  | .exp, [x] => x.onDouble Float.exp true
  | .log, [x] => x.log
  | .abs, [x] => x.abs
  | .floor, [x] => x.toWhole Rat.floor
  | .ceiling, [x] => x.toWhole Rat.ceil
  | .remainder, [x, y] => x.mod y
  | .minimum, xs => Scalar.extremum .lt xs
  | .maximum, xs => Scalar.extremum .gt xs
  | .factorial, [x] => x.factorial
  | _, _ => .error .kind

/-- Whether there is a function to call. The real part and the range of an oscillating function are
known to formulas only. -/
def Fn.isCallable : Fn → Bool
  | .realPart | .spread => false
  | _ => true

/-- What a computation raises when it calls a function that is not there. -/
def ComputationFault.missingName : ComputationFault := .breakdown (Text.lit "NameError")

abbrev Executed := Except ComputationFault

def Computed.executed {α : Type} (computed : Computed α) : Executed α :=
  computed.mapError fun fault => .arithmetic fault none

namespace Code

variable {slots : List Nat}

mutual

/-- The value of a computation, given those of the slots. Operands are computed from left to
right. The function of a call is looked up before its arguments are computed. -/
def run (values : (i : Nat) → i ∈ slots → Scalar) : Code slots → Executed Scalar
  | constant x => .ok x
  | slot i named => .ok (values i named)
  | neg x => (run values x).map Scalar.neg
  | add x y => (run values x).bind fun a => (run values y).bind fun b => (a.add b).executed
  | mul x y => (run values x).bind fun a => (run values y).bind fun b => (a.mul b).executed
  | div x y => (run values x).bind fun a => (run values y).bind fun b => (a.div b).executed
  | pow x y => (run values x).bind fun a => (run values y).bind fun b => (a.pow b).executed
  | root x => (run values x).bind fun a => (a.onDouble Float.sqrt false).executed
  | apply f xs =>
    if f.isCallable then (runAll values xs).bind fun as => (f.compute as).executed
    else .error .missingName

def runAll (values : (i : Nat) → i ∈ slots → Scalar) :
    List (Code slots) → Executed (List Scalar)
  | [] => .ok []
  | x :: rest => (run values x).bind fun a => (runAll values rest).map fun as => a :: as

end

def whole (n : Int) : Code slots := constant (.whole n)

/-- A measured number as a double, by way of its decimal digits. -/
def measured (x : Binary) (bits : Nat) : Float :=
  if x.isZero || x.magnitude < -1200 || 1100 < x.magnitude then x.toDouble
  else
    let digits := Number.measuredDigits x.abs bits
    Decimal.nearest x.isNegative digits.digits digits.exponent

/-- A number as it is computed with; a fraction is a division. -/
def ofNumber : Number → Code slots
  | .exact q => if q.den = 1 then whole q.num else div (whole q.num) (whole q.den)
  | .measured x bits => constant (.real (measured x bits))
  | .infinite negative => constant (.real (if negative then -Double.infinity else Double.infinity))
  | .unsigned | .undefined => constant (.real Double.undefined)

def ofConstant : Constant → Code slots
  | .pi => constant (.real (Float.ofBits 0x400921fb54442d18))
  | .e => constant (.real (Float.ofBits 0x4005bf0a8b145769))
  | .imaginary => constant (.complex 0 1)

def chain (join : Code slots → Code slots → Code slots) : List (Code slots) → Code slots
  | [] => whole 1
  | x :: rest => rest.foldl join x

/-- The denominator that a factor with a negative exponent is, as base and exponent. -/
def denominator? : Formula slots → Option (Formula slots × Rat)
  | .power b (.number (.exact q)) => if q < 0 then some (b, -q) else none
  | _ => none

def powerOf (base : Code slots) (exponent : Rat) : Code slots :=
  if exponent = 1 then base
  else if exponent = mkRat 1 2 then root base
  else pow base (ofNumber (.exact exponent))

def unsigned : List (Formula slots) → Bool × List (Formula slots)
  | .number n :: rest =>
    if n.isNegative then (true, if n.neg.isOne then rest else .number n.neg :: rest)
    else (false, .number n :: rest)
  | xs => (false, xs)

def negated : List (Code slots) → List (Code slots)
  | [] => [neg (whole 1)]
  | first :: rest => neg first :: rest

/-- The computation of a formula; the fuel covers its depth. A product starts with the sign of its
number, goes through its numerators and divides by its denominators. -/
def ofFormulaWith : Nat → Formula slots → Code slots
  | 0, _ => whole 0
  | fuel + 1, x =>
    match x with
    | .number n => ofNumber n
    | .constant c => ofConstant c
    | .slot i named => slot i named
    | .sum xs => chain add ((Formula.arrangeTerms xs).map (ofFormulaWith fuel))
    | .power b e =>
      match e with
      | .number (.exact q) =>
        if q = mkRat (-1) 2 ∨ q = -1 then div (whole 1) (powerOf (ofFormulaWith fuel b) (-q))
        else powerOf (ofFormulaWith fuel b) q
      | e => pow (ofFormulaWith fuel b) (ofFormulaWith fuel e)
    | .apply f xs => apply f (xs.map (ofFormulaWith fuel))
    | .product xs =>
      let (negative, xs) := unsigned xs
      let ordered := Formula.byKey xs
      let above := (ordered.filter fun f => (denominator? f).isNone).map (ofFormulaWith fuel)
      let below := (ordered.filterMap denominator?).map fun (b, q) =>
        powerOf (ofFormulaWith fuel b) q
      let above := if negative then negated above else above
      if below.isEmpty then chain mul above else div (chain mul above) (chain mul below)

def ofFormula (x : Formula slots) : Code slots := ofFormulaWith (2 * x.depth + 8) x

end Code
end SceneFormula
