import SceneFormula.Decimal.Reading
import SceneFormula.Formula.Simplification
import SceneFormula.Formula.Tree
import SceneFormula.Formula.Vocabulary

set_option autoImplicit false

namespace SceneFormula

/-- What a part of a written formula stands for. -/
inductive Meaning (slots : List Nat) where
  | formula (value : Formula slots)
  | tuple (items : List (Meaning slots))
  | function (name : Builtin)

namespace Number

/-- The exact value and the number of significant digits of a decimal literal; a whole number with
an exponent has all its digits. Exponents are cut where the number is beyond all doubles. -/
def literalParts (text : Text) : Rat × Nat :=
  let mantissa := text.takeWhile fun c => c ≠ 'e' ∧ c ≠ 'E'
  let whole := mantissa.takeWhile Char.isDigit
  let fraction := (mantissa.dropWhile Char.isDigit).drop 1
  let exponent := (Decimal.readExponent? (text.drop mantissa.length)).getD 0
  let exponent := max (min exponent 100000) (-100000) - fraction.length
  let digits := Decimal.digitsValue (whole ++ fraction)
  let written := (Nat.toDigits 10 digits).length
  if 0 ≤ exponent then
    let value := digits * Nat.pow 10 exponent.toNat
    (value, if '.' ∈ text ∨ digits = 0 then written else written + exponent.toNat)
  else
    let value := mkRat digits (Nat.pow 10 (-exponent).toNat)
    (value, if value.den = 1 ∧ '.' ∉ text then max written (Nat.toDigits 10 value.num.natAbs).length
      else written)

/-- The number that a literal stands for: a whole number is exact, one with a point or an exponent
is measured, to fifteen digits or as many as are written. A literal without a point is refused if
it is a whole number too long to be written out. -/
def ofLiteral? (text : Text) : Option Number :=
  let (value, digits) := literalParts text
  if '.' ∉ text ∧ value.den = 1 ∧ isLong value.num then none
  else if text.all Char.isDigit then some (.exact value)
  else
    let bits := bitsOfDigits (max 15 digits)
    some (.measured (Binary.ofRat bits value) bits)

/-- The quotient of two numbers. A measured number has none by a measured zero. -/
def quotient? (x y : Number) : Option Number :=
  match x, y with
  | .exact p, .exact q =>
    if q = 0 then some (if p = 0 then .undefined else .unsigned) else some (.exact (p / q))
  | .measured _ _, .measured b _ => if b.isZero then none else some (Formula.quotient x y)
  | .measured _ _, .exact q =>
    if q = 0 then some (x.mul y.inv) else some (Formula.quotient x y)
  | x, y => some (x.mul y.inv)

/-- The whole part of the quotient of a whole number by a finite number that is not zero. -/
def wholeQuotient? (n : Int) (y : Number) : Option (Option Int) :=
  y.value?.map fun q => if q = 0 then none else some ((n : Rat) / q).floor

end Number

namespace Meaning

variable {slots : List Nat}

def operate? (A : Algebra slots) (op : BinaryOperator) (x y : Formula slots) :
    Option (Formula slots) :=
  match op with
  | .plus => some (A.add x y)
  | .minus => some (A.sub x y)
  | .times => some (A.mul x y)
  | .power => some (A.power x y)
  | .remainder => A.apply .remainder [x, y]
  | .divide => divide? x y
  | .floorDivide =>
    match x.int?.bind fun n => y.number?.bind fun m => Number.wholeQuotient? n m with
    | some whole => whole.map Formula.ofInt
    | none => (divide? x y).bind fun q => A.apply .floor [q]
where
  divide? (x y : Formula slots) : Option (Formula slots) :=
    match x.number?, y.number? with
    | some m, some n => (m.quotient? n).map .number
    | _, _ => some (A.div x y)

def call? (A : Algebra slots) (f : Builtin) (xs : List (Formula slots)) :
    Option (Formula slots) :=
  match f, xs with
  | .min, xs => A.apply .minimum xs
  | .max, xs => A.apply .maximum xs
  | .log, [x] => A.apply .log [x]
  | .log, [x, base] => A.apply .log [x, base]
  | .atan2, [y, x] => A.apply .atan2 [y, x]
  | .sin, [x] => A.apply .sin [x]
  | .cos, [x] => A.apply .cos [x]
  | .tan, [x] => A.apply .tan [x]
  | .asin, [x] => A.apply .asin [x]
  | .acos, [x] => A.apply .acos [x]
  | .atan, [x] => A.apply .atan [x]
  | .sinh, [x] => A.apply .sinh [x]
  | .cosh, [x] => A.apply .cosh [x]
  | .tanh, [x] => A.apply .tanh [x]
  | .sqrt, [x] => some (A.sqrt x)
  | .abs, [x] => A.apply .abs [x]
  | .exp, [x] => A.apply .exp [x]
  | .log10, [x] => A.apply .log [x, .ofInt 10]
  | .floor, [x] => A.apply .floor [x]
  | .ceil, [x] => A.apply .ceiling [x]
  | .round, [x] => A.apply .floor [A.add x (.number .half)]
  | _, _ => none

def formula? : Meaning slots → Option (Formula slots)
  | formula x => some x
  | _ => none

def binary? (A : Algebra slots) (op : BinaryOperator) (x y : Meaning slots) :
    Option (Meaning slots) :=
  match op, x, y with
  | op, formula x, formula y => (operate? A op x y).map formula
  | .plus, tuple xs, tuple ys => some (tuple (xs ++ ys))
  | .times, tuple xs, formula n | .times, formula n, tuple xs =>
    n.int?.map fun n => tuple (List.replicate n.toNat xs).flatten
  | _, _, _ => none

def ofName? (text : Text) : Option (Meaning slots) :=
  let slot := (slots.attach.find? fun i => slotName i.1 = text).map fun i =>
    formula (.slot i.1 i.2)
  let builtin := (Builtin.named? text).map function
  let constant := (Constant.named? text).map fun c => formula (.constant c)
  slot.or (builtin.or constant)

mutual

def ofTree? (A : Algebra slots) : Tree → Option (Meaning slots)
  | .number text => (Number.ofLiteral? text).map fun n => formula (.number n)
  | .name text => ofName? text
  | .positive x => (ofTree? A x).bind fun m => m.formula?.map formula
  | .negative x => (ofTree? A x).bind fun m => m.formula?.map fun f => formula (A.neg f)
  | .binary op x y => (ofTree? A x).bind fun a => (ofTree? A y).bind fun b => binary? A op a b
  | .factorial x => (ofTree? A x).bind fun m => m.formula?.bind fun f =>
      (A.apply .factorial [f]).map formula
  | .call f xs => (ofTree? A f).bind fun m => (ofItems? A xs).bind fun ms =>
      match m with
      | function name => (ms.mapM formula?).bind fun fs => (call? A name fs).map formula
      | _ => none
  | .tuple xs => (ofItems? A xs).map tuple
  | .spread _ => none

def ofItems? (A : Algebra slots) : List Tree → Option (List (Meaning slots))
  | [] => some []
  | .spread x :: rest => (ofTree? A x).bind fun m => (ofItems? A rest).bind fun ms =>
      match m with
      | tuple items => some (items ++ ms)
      | _ => none
  | x :: rest => (ofTree? A x).bind fun m => (ofItems? A rest).map fun ms => m :: ms

end

end Meaning
end SceneFormula
