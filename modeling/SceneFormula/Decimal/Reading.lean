import SceneFormula.Text.Alphanumeric
import SceneFormula.Decimal.Double

set_option autoImplicit false

namespace SceneFormula.Decimal

def isNumberBlank (c : Char) : Bool :=
  c = ' ' || (9 ≤ c.toNat && c.toNat ≤ 13) || (128 ≤ c.toNat && isBlank c)

/-- A decimal digit of any script as the plain digit of its value. -/
def plainDigit (c : Char) : Char :=
  match decimalDigit? c with
  | some value => Char.ofNat (48 + value)
  | none => c

/-- The text without its underscores, if each of them stands between two digits. -/
def dropUnderscores? (previous : Option Char) : Text → Option Text
  | [] => if previous = some '_' then none else some []
  | c :: rest =>
    if c = '_' then
      if previous.any Char.isDigit then dropUnderscores? (some c) rest else none
    else if previous = some '_' && !c.isDigit then none
    else (dropUnderscores? (some c) rest).map (c :: ·)

def digitsValue (digits : Text) : Nat :=
  digits.foldl (fun value c => 10 * value + (c.toNat - 48)) 0

def nearest (negative : Bool) (mantissa : Nat) (exponent : Int) : Float :=
  let size := (Nat.toDigits 10 mantissa).length + exponent
  if mantissa = 0 ∨ size < -400 then Double.ofSignAndBits negative 0
  else if 400 < size then Double.ofSignAndBits negative 0x7ff0000000000000
  else if 0 ≤ exponent then Double.ofRatio negative (mantissa * Nat.pow 10 exponent.toNat) 1
  else Double.ofRatio negative mantissa (Nat.pow 10 (-exponent).toNat)

/-- An exponent: nothing at all, or its mark, a sign and digits to the end of the text. -/
def readExponent? : Text → Option Int
  | [] => some 0
  | mark :: rest =>
    if mark = 'e' ∨ mark = 'E' then
      let (negative, digits) := match rest with
        | '-' :: digits => (true, digits)
        | '+' :: digits => (false, digits)
        | digits => (false, digits)
      if digits.isEmpty || !digits.all Char.isDigit then none
      else
        let value : Int := digitsValue digits
        some (if negative then -value else value)
    else none

def readUnsigned? (negative : Bool) (text : Text) : Option Float :=
  let whole := text.takeWhile Char.isDigit
  let rest := text.dropWhile Char.isDigit
  let (fraction, rest) := match rest with
    | '.' :: after => (after.takeWhile Char.isDigit, after.dropWhile Char.isDigit)
    | after => ([], after)
  if whole.isEmpty && fraction.isEmpty then none
  else (readExponent? rest).map fun exponent =>
    nearest negative (digitsValue (whole ++ fraction)) (exponent - fraction.length)

/-- A number after its sign: a name or digits. -/
def readMagnitude? (negative : Bool) (text : Text) : Option Float :=
  let name := text.map Char.toLower
  if name = Text.lit "inf" ∨ name = Text.lit "infinity" then
    some (Double.ofSignAndBits negative 0x7ff0000000000000)
  else if name = Text.lit "nan" then some Double.undefined
  else readUnsigned? negative text

def read? (text : Text) : Option Float :=
  let inner := ((text.dropWhile isNumberBlank).reverse.dropWhile isNumberBlank).reverse
  (dropUnderscores? none (inner.map plainDigit)).bind fun plain =>
    match plain with
    | '-' :: rest => readMagnitude? true rest
    | '+' :: rest => readMagnitude? false rest
    | rest => readMagnitude? false rest

end SceneFormula.Decimal
