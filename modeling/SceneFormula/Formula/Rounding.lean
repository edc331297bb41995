import SceneFormula.Formula.Trigonometry

set_option autoImplicit false

namespace SceneFormula.Formula

variable {slots : List Nat}

/-- The whole number that a real constant is rounded to, down or up. A value that is off a whole
number by less than can be computed counts as that number. -/
def roundConstant? (up : Bool) (x : Formula slots) : Option Int := do
  let size := (← (← x.approx? 64).real?).magnitude
  if 20000 < size then none
  else
    let bits := 256 + size.toNat
    let value ← (← x.approx? bits).real?
    let nearest := (value.add ⟨1, -1⟩).floor
    let off := value.sub (.ofInt nearest)
    if off.isZero || off.magnitude < -150 then some nearest
    else some (if up then -value.neg.floor else value.floor)

def wholeTerm? : Formula slots → Option Int
  | .number (.exact q) => if q.den = 1 then some q.num else none
  | .number (.measured x _) => if x.isInteger && x.magnitude < 20000 then some x.floor else none
  | _ => none

def isRounded : Formula slots → Bool
  | .apply .floor _ | .apply .ceiling _ => true
  | _ => false

def rounded (A : Algebra slots) (up : Bool) (x : Formula slots) : Formula slots :=
  let f : Fn := if up then .ceiling else .floor
  match x with
  | .number n =>
    match (if up then n.ceil? else n.floor?) with
    | some whole => ofInt whole
    | none => if n.isFinite then .apply f [x] else x
  | x =>
    if isRounded x || (x.coefficient.1.int? == some (-1) && isRounded x.coefficient.2) then x
    else if x.range.isNonreal then .apply f [x]
    else
      let whole := (x.terms.filterMap wholeTerm?).foldl (· + ·) 0
      let rest := x.terms.filter fun t => (wholeTerm? t).isNone
      let constants := rest.filter isConstant
      let open' := rest.filter fun t => !t.isConstant
      let rounding (y : Formula slots) : Formula slots :=
        if isRounded y then A.add (ofInt whole) y else A.add (ofInt whole) (.apply f [y])
      if rest.isEmpty then ofInt whole
      else if open'.isEmpty then
        let part := A.sum constants
        match roundConstant? up part with
        | some n => ofInt (whole + n)
        | none => rounding part
      else rounding (A.sum (open' ++ constants))

/-- Numerator and denominator of a product, by the signs of its number exponents. -/
def fraction (A : Algebra slots) (x : Formula slots) : Formula slots × Formula slots :=
  let parts := x.factors.map fun f =>
    match f with
    | .number (.exact q) => (ofInt q.num, ofInt q.den)
    | .power b (.number n) => if n.isNegative then (1, A.power b (.number n.neg)) else (f, 1)
    | f => (f, 1)
  (A.product (parts.map (·.1)), A.product (parts.map (·.2)))

def realPart (x : Formula slots) : Formula slots :=
  if x.range.isReal then x else .apply .realPart [x]

def isSize : Formula slots → Bool
  | .apply .abs _ => true
  | _ => false

/-- The absolute value of a power, where a rule applies. -/
def powerSize? (A : Algebra slots) (x b e : Formula slots) : Option (Formula slots) :=
  let r := b.range
  if !r.isReal then none
  else match e.int? with
    | some n =>
      if n % 2 = 0 then some x else some (A.power (A.call .abs [b]) e)
    | none =>
      if r.isNonnegative then some (A.power b (realPart e))
      else if r.isNegative then some (A.power (A.neg b) (realPart e))
      else none

/-- The absolute value of a constant sum with an imaginary part. -/
def complexSize? (A : Algebra slots) (xs : List (Formula slots)) : Option (Formula slots) :=
  let units := xs.filterMap (imaginaryFactor? A)
  let reals := xs.filter fun t => (imaginaryFactor? A t).isNone
  if units.isEmpty || !(units ++ reals).all isComparable then none
  else
    let square (y : Formula slots) := A.power y (ofInt 2)
    some (A.sqrt (A.add (square (A.sum reals)) (square (A.sum units))))

def absolute (A : Algebra slots) (x : Formula slots) : Formula slots :=
  match x with
  | .number n => .number n.abs
  | .constant .imaginary => 1
  | .constant _ => x
  | .apply .exp [y] => A.call .exp [realPart y]
  | x =>
    let (top, bottom) := fraction A x
    if !bottom.isConstant && top.isConstant then
      A.div (A.call .abs [top]) (A.call .abs [bottom])
    else
      let found : Option (Formula slots) := match x with
        | .product xs => some (sizeOfProduct xs)
        | .power b e => powerSize? A x b e
        | .sum xs => complexSize? A xs
        | _ => none
      match found with
      | some size => size
      | none =>
        let r := x.range
        if r.isZero then 0
        else if r.isNonnegative then x
        else if r.isNonpositive then A.neg x
        else .apply .abs [x]
where
  sizeOfProduct (xs : List (Formula slots)) : Formula slots :=
    let parts := xs.map fun t =>
      let bySize (y : Formula slots) (whole : Formula slots → Formula slots) :
          Sum (Formula slots) (Formula slots) :=
        let size := A.call .abs [y]
        if isSize size then .inr t else .inl (whole size)
      match t with
      | .power b e =>
        if e.int?.any (· < 0) then bySize b fun size => A.power size e else bySize t id
      | t => bySize t id
    let known := parts.filterMap fun p => match p with
      | .inl y => some y
      | .inr _ => none
    let unknown := parts.filterMap fun p => match p with
      | .inl _ => none
      | .inr y => some y
    if unknown.isEmpty then A.product known
    else A.product (known ++ [.apply .abs [A.product unknown]])

end SceneFormula.Formula
