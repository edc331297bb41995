import SceneFormula.Formula.Algebra
import SceneFormula.Number.Roots

set_option autoImplicit false

namespace SceneFormula.Formula

variable {slots : List Nat}

def rootOf (n : Int) (e : Rat) : Formula slots := .power (ofInt n) (ofRat e)

def negOnePower? (A : Algebra slots) (e : Rat) : Option (Formula slots) :=
  if e.den = 1 then some (ofInt (if e.num % 2 = 0 then 1 else -1))
  else if e.den = 2 then
    match (e.num % 4).toNat with
    | 1 => some (.constant .imaginary)
    | _ => some (.product [ofInt (-1), .constant .imaginary])
  else
    let whole := e.floor
    if whole = 0 then none
    else some (A.product [ofInt (if whole % 2 = 0 then 1 else -1), rootOf (-1) (e - whole)])

/-- The whole powers that a root of a natural number lets out, and the roots that stay: a number,
further roots, and a base with its exponent. -/
def reduceRoot? (n : Nat) (e : Rat) : Option (Nat × List (Nat × Rat) × Nat × Nat) := do
  let factors := match Roots.perfectPower? n with
    | some (base, k) => [(base, k)]
    | none => Roots.smallFactors n
  let divided := factors.map fun (prime, count) =>
    let total := count * e.num.toNat
    (prime, total / e.den, total % e.den)
  let out ← divided.foldlM (fun out (prime, whole, _) =>
    (Roots.power? prime whole).map fun power => out * power.toNat) 1
  let broken := divided.filter fun (_, _, rest) => rest ≠ 0
  let shares (rest : Nat) : Nat := Nat.gcd rest e.den
  let roots := (broken.filter fun (_, _, rest) => shares rest ≠ 1).map fun (prime, _, rest) =>
    (prime, mkRat (rest / shares rest : Nat) (e.den / shares rest))
  let kept := broken.filter fun (_, _, rest) => shares rest = 1
  let shared := kept.foldl (fun g (_, _, rest) => Nat.gcd g rest) 0
  let base ← kept.foldlM (fun base (prime, _, rest) =>
    (Roots.power? prime (rest / shared)).map fun power => base * power.toNat) 1
  return (out, roots, base, shared)

/-- A power of a whole number, unless it is as simple as it gets. -/
def intPower? (A : Algebra slots) (n : Int) (e : Rat) : Option (Formula slots) :=
  if n = 0 then some (.number (if 0 < e then 0 else .unsigned))
  else if n = 1 then some 1
  else if n = -1 then negOnePower? A e
  else if n < 0 ∧ e = mkRat 1 2 then
    some (A.product [.constant .imaginary, A.power (ofInt (-n)) (ofRat e)])
  else if e < 0 then
    let turned := A.power (ofRat (mkRat 1 n.natAbs)) (ofRat (-e))
    some (if n < 0 then A.product [A.power (ofInt (-1)) (ofRat e), turned] else turned)
  else
    let turn (x : Formula slots) : Formula slots :=
      if n < 0 then A.product [x, A.power (ofInt (-1)) (ofRat e)] else x
    match Roots.exactRoot? n.natAbs e.den with
    | some r => (Roots.power? r e.num.toNat).map fun whole => turn (ofInt whole)
    | none => do
      let (out, roots, base, shared) ← reduceRoot? n.natAbs e
      if base = n.natAbs ∧ out = 1 ∧ roots.isEmpty then none
      else
        let last := if base = 1 then [] else [A.power (ofInt base) (ofRat (mkRat shared e.den))]
        some (turn (A.product (ofInt out :: (roots.map fun (p, r) => A.power (ofInt p) (ofRat r)) ++
          last)))

/-- A power of a fraction, unless it is as simple as it gets. -/
def ratPower? (A : Algebra slots) (q e : Rat) : Option (Formula slots) :=
  if q.den = 1 then intPower? A q.num e
  else if e < 0 then
    let turned := if e = -1 then ofRat q⁻¹ else A.power (ofRat (abs' q)⁻¹) (ofRat (-e))
    some (if q < 0 ∧ e ≠ -1 then A.product [A.power (ofInt (-1)) (ofRat e), turned] else turned)
  else if e.den = 1 then do
    let top ← Roots.power? q.num e.num.toNat
    let bottom ← Roots.power? q.den e.num.toNat
    return ofRat (mkRat top bottom.toNat)
  else do
    let whole := e.floor.toNat + 1
    let rest := mkRat (whole * e.den - e.num) e.den
    let bottom ← Roots.power? q.den whole
    let below := [A.power (ofInt q.den) (ofRat rest), ofRat (mkRat 1 bottom.toNat)]
    some (A.product (if q.num = 1 then below else A.power (ofInt q.num) (ofRat e) :: below))
where
  abs' (q : Rat) : Rat := if q < 0 then -q else q

def ofApprox (A : Algebra slots) (bits : Nat) (z : Approx) : Formula slots :=
  if z.im.isZero then .number (.ofBinary bits z.re)
  else A.sum [.number (.ofBinary bits z.re),
    A.product [.number (.ofBinary bits z.im), .constant .imaginary]]

def measuredPower? (A : Algebra slots) (x : Binary) (bits : Nat) (e : Number) :
    Option (Formula slots) :=
  if x.isZero && e.isPositive then some (.number (.measured x bits))
  else if x.isZero && e.isNegative then some (.number .unsigned)
  else
    let oddRoot := match e with
      | .exact q => x.isNegative && q.num == 1 && q.den % 2 == 1 && q.den != 1
      | _ => false
    let bits' := match e with
      | .measured _ n => max bits n
      | _ => bits
    let wide := bits' + 80
    if oddRoot then
      (e.binary? bits).bind fun y => (Approx.pow? wide (.ofReal x.neg) (.ofReal y)).map fun z =>
        A.product [.power (ofInt (-1)) (.number e), .number (.ofBinary bits' z.re)]
    else
      (e.binary? bits').bind fun y =>
        if x.isZero then some (.number (.measured ⟨1, 0⟩ bits'))
        else (Approx.pow? wide (.ofReal x) (.ofReal y)).map (ofApprox A bits')

def zeroPower? (A : Algebra slots) (e : Formula slots) : Option (Formula slots) :=
  let r := e.range
  if r.isPositive then some 0
  else if r.isNegative then some (.number .unsigned)
  else if r.isNonreal then some (.number .undefined)
  else
    let (n, rest) := e.coefficient
    if n.isNegative then some (A.power (.number .unsigned) rest)
    else if n.isOne then none
    else some (A.power 0 rest)

/-- A number to the power of a number, unless it is as simple as it gets. -/
def numberPower? (A : Algebra slots) (b e : Number) : Option (Formula slots) :=
  match b, e with
  | .undefined, _ | _, .undefined => some (.number .undefined)
  | .exact p, .exact q => ratPower? A p q
  | .exact p, .measured y bits =>
    if p = 0 then some (.number (if y.isZero then 1 else if y.isNegative then .unsigned else 0))
    else measuredPower? A (Binary.ofRat bits p) bits e
  | .measured x bits, .exact _ | .measured x bits, .measured _ _ => measuredPower? A x bits e
  | .unsigned, e =>
    some (.number (if e.isZero then .undefined else if e.isNegative then 0 else .unsigned))
  | .infinite false, e =>
    some (.number (if e.isNegative then 0 else .infinite false))
  | .infinite true, e =>
    if e.isNegative then some 0
    else match e.int? with
      | some n => some (.number (.infinite (n % 2 != 0)))
      | none => some (.number .unsigned)
  | b, .infinite negative =>
    match b.abs.compare? 1 with
    | some .gt => some (.number (if negative then 0 else if b.isNegative then .unsigned
        else .infinite false))
    | some .lt => some (.number (if negative then .unsigned else 0))
    | _ => some (.number .undefined)
  | _, .unsigned => some (.number .undefined)

def nestedPower? (A : Algebra slots) (b e outer : Formula slots) : Option (Formula slots) :=
  let joined := fun (b : Formula slots) => A.power b (A.mul e outer)
  if outer.int?.isSome then some (joined b)
  else if !e.range.isReal then none
  else
    let isHalf := outer.rat?.any fun q => q.den == 2
    let r := b.range
    if isHalf && e.int? == some (-1) && r.isNegative then
      some (A.product [A.power (ofInt (-1)) outer, A.power (A.neg b) (A.mul e outer)])
    else if isHalf && e.int? == some (-1) && !r.negative then some (A.power b (A.neg outer))
    else
      let even := e.int?.any fun n => n % 2 == 0
      let (b, r) := if even && r.isReal then
          let size := A.call .abs [b]
          (size, size.range)
        else (b, r)
      let small := e.realValue?.any fun x => Binary.compare x.abs ⟨1, 0⟩ == .lt
      if small || r.isNonnegative then some (joined b)
      else match isHalf && r.isNegative, e.rat?, outer.rat? with
        | true, some q, some o =>
          let turns := ((1 - q) / 2).floor * o.num
          some (if turns % 2 = 0 then joined b else A.neg (joined b))
        | _, _, _ => none

/-- A product to a broken or measured power: factors that are not negative are raised one by one,
the sign of the others stays with what is left under the power. -/
def productPower (A : Algebra slots) (xs : List (Formula slots)) (e : Formula slots) :
    Formula slots :=
  let isImaginary (x : Formula slots) : Bool := match x with
    | .constant .imaginary => true
    | _ => false
  let units := xs.countP isImaginary
  let ranged := (xs.filter fun x => !isImaginary x).map fun x => (x, x.range)
  let nonnegative := (ranged.filter fun (_, r) => r.isNonnegative).map (·.1)
  let negative := (ranged.filter fun (_, r) => r.isNegative || r.isNonreal).map (·.1)
  let others := (ranged.filter fun (_, r) =>
    !(r.isNonnegative || r.isNegative || r.isNonreal)).map (·.1)
  let (nonnegative, negative) := if 2 ≤ units % 4 then
      match negative.reverse with
      | last :: before =>
        let flipped := A.neg last
        (if flipped.isOne then nonnegative else nonnegative ++ [flipped], before.reverse)
      | [] => (nonnegative, [ofInt (-1)])
    else (nonnegative, negative)
  let others := if units % 2 = 1 then others ++ [.constant .imaginary] else others
  let (nonnegative, others) := match negative with
    | [] => (nonnegative, others)
    | [n] =>
      if others.isEmpty then (nonnegative, [n])
      else if n.isNumber && n.int? != some (-1) then
        (nonnegative ++ [A.neg n], others ++ [ofInt (-1)])
      else (nonnegative, others ++ [n])
    | first :: rest =>
      let (sign, rest) := if others.isEmpty && first.isNumber then (first, rest)
        else (1, first :: rest)
      let sign := if rest.length % 2 = 1 then A.neg sign else sign
      (nonnegative ++ rest.map A.neg, if sign.isOne then others else others ++ [sign])
  let isRoot (x : Formula slots) : Bool := match x with
    | .power b (.number (.exact _)) => b.isConstant
    | _ => false
  let raised := nonnegative.map fun x =>
    if isRoot x && e.rat?.isSome then A.power x e else .power x e
  let rest := if others.isEmpty then [] else [.power (A.product others) e]
  A.product (raised ++ rest)

/-- The quotient of two finite numbers as coefficients are divided: a fraction over a measured
number goes through the inverse. -/
def quotient (x y : Number) : Number :=
  match x, y with
  | .measured a m, .exact q => .ofBinary m (Binary.div m a (Binary.ofRat m q))
  | .measured a m, .measured b n => .ofBinary (max m n) (Binary.div (max m n) a b)
  | x, y => x.mul y.inv

def sumPower? (A : Algebra slots) (xs : List (Formula slots)) (e : Number) :
    Option (Formula slots) :=
  let parts := xs.map coefficient
  let isUnit := match e with
    | .exact q => q == 1 || q == -1
    | _ => false
  let constantRoot := e.isExact && areConstant xs
  if isUnit || constantRoot || !(parts.any fun p => p.1.isMeasured) then none
  else
    let big := parts.foldl (fun (big : Number) p =>
      if p.1.abs.compare? big == some .lt then big else p.1.abs) .negOne
    let equalsOne := big.compare? 1 == some .eq
    if equalsOne || !big.isPositive then none
    else
      let scaled := parts.map fun (c, m) =>
        let c := if c.abs.same big then Number.ofInt (if c.isNegative then -1 else 1)
          else quotient c big
        A.product [.number c, m]
      some (A.product [A.power (.number big) (.number e), A.power (A.sum scaled) (.number e)])

def naturalExponent? (A : Algebra slots) (b e : Formula slots) : Option (Formula slots) :=
  let isInverse (x : Formula slots) : Bool := match x with
    | .power _ (.number n) => n.isNegative
    | _ => false
  let isInverseLog (x : Formula slots) : Bool := match x with
    | .power (.apply .log [y]) (.number n) => y == b && n.int? == some (-1)
    | _ => false
  match e with
  | .product xs =>
    if xs.any isInverseLog && xs.countP isInverse == 1 then
      some (A.product (xs.filter fun x => !isInverseLog x))
    else none
  | x => if isInverseLog x then some 1 else none

def powerByBase (A : Algebra slots) (b e : Formula slots) : Formula slots :=
  let found : Option (Formula slots) :=
    match b, e with
    | .number n, .number m => numberPower? A n m
    | .number n, e =>
      if n.isZero then zeroPower? A e
      else match n with
        | .infinite false =>
          let r := e.range
          if r.isPositive then some b else if r.isNegative then some 0 else none
        | _ => none
    | .constant .e, e => A.apply .exp [e]
    | .constant .imaginary, .number (.exact q) =>
      if q.den = 1 then
        match (q.num % 4).toNat with
        | 0 => some 1
        | 1 => some b
        | 2 => some (ofInt (-1))
        | _ => some (.product [ofInt (-1), b])
      else none
    | .product xs, .number (.exact q) =>
      if q.den = 1 then some (A.product (xs.map fun x => A.power x e))
      else some (productPower A xs e)
    | .product xs, .number (.measured _ _) => some (productPower A xs e)
    | .sum xs, .number n => sumPower? A xs n
    | .power c d, e => nestedPower? A c d e
    | .apply .exp [d], e => nestedPower? A (.constant .e) d e
    | .apply .abs [x], .number (.exact q) =>
      if q.den = 1 ∧ q.num % 2 = 0 ∧ x.range.isReal then some (A.power x e) else none
    | _, _ => none
  found.getD (.power b e)

def powerOf (A : Algebra slots) (b e : Formula slots) : Formula slots :=
  match b, e with
  | _, .number .unsigned => .number .undefined
  | b, e =>
    if e.isExactZero then 1
    else if e.isOne then b
    else if e.int? == some (-1) && b.number?.any Number.isZero then .number .unsigned
    else
      let negativeBase := b.startsNegative && (b.isNumber || (b.isProduct && b.isConstant))
      match e.int?, negativeBase with
      | some n, true =>
        if n % 2 = 0 then simple (A.neg b) e else A.neg (A.power (A.neg b) e)
      | _, _ => simple b e
where
  simple (b e : Formula slots) : Formula slots :=
    match b, e with
    | .number .undefined, _ | _, .number .undefined => .number .undefined
    | b, e =>
      if b.isOne then
        match e with
        | .number (.infinite _) => .number .undefined
        | _ => 1
      else
        match b, naturalExponent? A b e with
        | .constant .e, _ | _, none => powerByBase A b e
        | _, some x => A.call .exp [x]

end SceneFormula.Formula
