import SceneFormula.Formula.Algebra

set_option autoImplicit false

namespace SceneFormula.Formula

variable {slots : List Nat}

/-- A product taken apart: its number, powers of formulas, powers of numbers with exponents that
are not numbers, roots of positive fractions, and the power of minus one among them. -/
structure Parted (slots : List Nat) where
  number : Number
  powers : List (Formula slots × Formula slots)
  numberPowers : List (Formula slots × Formula slots)
  roots : List (Rat × Rat)
  turn : Rat

def Parted.scale (parted : Parted slots) (n : Number) : Parted slots :=
  { parted with number := parted.number.mul n }

def Parted.insertRoot (parted : Parted slots) (base exponent : Rat) : Parted slots :=
  if base = 1 then parted else { parted with roots := parted.roots ++ [(base, exponent)] }

/-- Sort one factor into the parts. A root with a negative exponent is first written with a
positive one, for which the fuel allows. -/
def Parted.insert (A : Algebra slots) (factor : Formula slots) :
    Nat → Parted slots → Parted slots
  | 0, parted => { parted with powers := parted.powers ++ [(factor, 1)] }
  | fuel + 1, parted =>
    match factor with
    | .number n => parted.scale n
    | .constant .imaginary => { parted with turn := parted.turn + mkRat 1 2 }
    | factor =>
      let (base, exponent) := factor.baseAndExponent
      match base, exponent with
      | .number n, .number (.exact q) =>
        if q.den = 1 ∨ q < 0 ∨ n.isMeasured then
          (A.power base exponent).factors.foldl (fun p f => insert A f fuel p) parted
        else
          match n with
          | .exact r =>
            if r < 0 then { parted.insertRoot (-r) q with turn := parted.turn + q }
            else parted.insertRoot r q
          | _ => { parted with powers := parted.powers ++ [(base, exponent)] }
      | .number n, _ =>
        if n.isPositive then
          { parted with numberPowers := parted.numberPowers ++ [(base, exponent)] }
        else { parted with powers := parted.powers ++ [(base, exponent)] }
      | _, _ => { parted with powers := parted.powers ++ [(base, exponent)] }

abbrev Gathered (slots : List Nat) := List (Formula slots × List (Formula slots × Number))

def insertTerm (term : Formula slots) (n : Number) :
    List (Formula slots × Number) → List (Formula slots × Number)
  | [] => [(term, n)]
  | (other, m) :: rest =>
    if other == term then (other, m.add n) :: rest else (other, m) :: insertTerm term n rest

def insertPower (base exponent : Formula slots) : Gathered slots → Gathered slots
  | [] => let (n, term) := exponent.coefficient; [(base, [(term, n)])]
  | (other, terms) :: rest =>
    if other == base then
      let (n, term) := exponent.coefficient
      (other, insertTerm term n terms) :: rest
    else (other, terms) :: insertPower base exponent rest

def gather (A : Algebra slots) (powers : List (Formula slots × Formula slots)) :
    List (Formula slots × Formula slots) :=
  let gathered := powers.foldl (fun g (b, e) => insertPower b e g) []
  gathered.flatMap fun (base, terms) => terms.map fun (term, n) =>
    (base, if term.isOne then .number n
      else if n.isOne then term else A.product [.number n, term])

/-- Whether the formula has an infinite number among its terms or factors. -/
def holdsInfinity (x : Formula slots) : Bool :=
  let infinite (y : Formula slots) : Bool := match y with
    | .number (.infinite _) | .number .unsigned => true
    | _ => false
  match x with
  | .sum xs | .product xs => xs.any infinite
  | _ => false

/-- The powers as formulas, with the numbers among them multiplied; an infinity that is raised to
zero leaves nothing. The powers are gathered again if one of them changed its base. -/
def raise (A : Algebra slots) (powers : List (Formula slots × Formula slots)) :
    Nat → Option (Number × List (Formula slots))
  | 0 => some (1, powers.map fun (b, e) => .power b e)
  | fuel + 1 =>
    let present := powers.filter fun (_, e) => !(e.number?.any Number.isZero)
    if powers.any fun (b, e) => e.number?.any Number.isZero && holdsInfinity b then none
    else
      let raised := present.map fun (b, e) =>
        if e.isOne then (b, (b, e), false)
        else
          let p := A.power b e
          match p with
          | .power _ _ | .apply .exp _ =>
            match b with
            | .power _ _ => (p, (b, e), false)
            | b =>
              let next := p.baseAndExponent
              (p, next, !(next.1 == b))
          | p => (p, (b, e), false)
      let bases := raised.map fun r => r.2.1.1
      let distinct := (sorted bases).foldl (fun (seen : List (Formula slots)) b =>
        if seen.head?.any (· == b) then seen else b :: seen) []
      let repeated := bases.length != distinct.length
      if raised.any (·.2.2) && repeated && fuel ≠ 0 then
        raise A (gather A (raised.map fun r => r.2.1)) fuel
      else
        let parts := raised.flatMap fun r => r.1.factors
        some (parts.foldl (fun n p => (p.number?).elim n n.mul) 1,
          parts.filter fun p => !p.isNumber)

def ratGcd (p q : Rat) : Rat :=
  mkRat (Int.gcd p.num q.num) (Nat.lcm p.den q.den)

def ratPow (q : Rat) (n : Nat) : Rat :=
  mkRat (Int.pow q.num n) (Nat.pow q.den n)

def splitExponent (e : Rat) : Nat × Rat :=
  (e.floor.toNat, e - e.floor)

/-- Roots with equal exponents under one root, whole parts of the exponents taken out. -/
def uniteRoots (roots : List (Rat × Rat)) : Rat × List (Rat × Rat) :=
  let byBase := roots.foldl (fun known (b, e) => put known b e (· + ·)) []
  let byExponent := byBase.foldl (fun known (b, e) => put known e b (· * ·)) []
  byExponent.foldl (fun (n, kept) (e, b) =>
    let (whole, rest) := splitExponent e
    (n * ratPow b whole, if rest = 0 then kept else kept ++ [(b, rest)])) (1, [])
where
  put (known : List (Rat × Rat)) (key value : Rat) (join : Rat → Rat → Rat) : List (Rat × Rat) :=
    match known with
    | [] => [(key, value)]
    | (k, v) :: rest =>
      if k = key then (k, join v value) :: rest else (k, v) :: put rest key value join

/-- Take common factors of roots out into roots of their own. The result is the number that came
out, and the roots by exponent. -/
def separateRoots (A : Algebra slots) (queue : List (Rat × Rat)) (number : Number)
    (done : List (Rat × Rat)) : Nat → Number × List (Rat × Rat)
  | 0 => (number, queue ++ done)
  | fuel + 1 =>
    match queue with
    | [] => (number, done)
    | (base, exponent) :: rest =>
      if base = 1 then separateRoots A rest number done fuel
      else
        let step (state : Rat × Number × List (Rat × Rat) × List (Rat × Rat)) (other : Rat × Rat) :=
          let (base, number, checked, grown) := state
          let g := ratGcd base other.1
          if base = 1 ∨ g = 1 then (base, number, checked ++ [other], grown)
          else
            let (whole, part) := splitExponent (exponent + other.2)
            (base / g, number.mul (.exact (ratPow g whole)), checked ++ [(other.1 / g, other.2)],
              if part = 0 then grown else grown ++ [(g, part)])
        let (base, number, checked, grown) := rest.foldl step (base, number, [], [])
        let (number, done) :=
          if base = 1 then (number, done)
          else (A.power (ofRat base) (ofRat exponent)).factors.foldl (fun (n, kept) f =>
            match f with
            | .number m => (n.mul m, kept)
            | .power (.number (.exact b)) (.number (.exact e)) =>
              (n, uniteRoots.put kept e b (· * ·))
            | _ => (n, kept)) (number, done)
        separateRoots A (checked ++ grown) number done fuel

/-- The factors for a power of minus one. It joins a root with the same exponent. -/
def turnFactors (turn : Rat) (roots : List (Rat × Rat)) :
    Bool × List (Formula slots) × List (Rat × Rat) :=
  let part := turn - turn.floor
  let flips := turn.floor % 2 != 0
  if part = 0 then (flips, [], roots)
  else if part.den = 2 then (flips, [.constant .imaginary], roots)
  else if roots.any fun (e, b) => e = part && 0 < b then
    (flips, [], roots.map fun (e, b) => if e = part then (e, -b) else (e, b))
  else (flips, [.power (ofInt (-1)) (ofRat part)], roots)

def besideInfinite (n : Number) (factors : List (Formula slots)) :
    Number × List (Formula slots) :=
  match n with
  | .infinite negative =>
    let kept := factors.filter fun f => let r := f.range; !(r.isPositive || r.isNegative)
    let flips := factors.countP fun f => f.range.isNegative
    (.infinite (negative != (flips % 2 == 1)), kept)
  | .unsigned =>
    (n, factors.filter fun f =>
      let r := f.range
      !(r.isNonzero && (r.isReal || r.isNonreal)))
  | n => (n, factors)

def productOf (A : Algebra slots) (xs : List (Formula slots)) : Formula slots :=
  match (xs.flatMap factors).filter fun x => !x.isOne with
  | [] => 1
  | [x] => x
  | xs =>
    let parted := xs.foldl (fun p f => Parted.insert A f 3 p) ⟨1, [], [], [], 0⟩
    match parted.number, raise A (gather A parted.powers) 2 with
    | .undefined, _ | _, none => .number .undefined
    | start, some (powerNumber, powerFactors) =>
      let united := uniteNumberPowers A (gather A parted.numberPowers)
      let (rootNumber, roots) := uniteRoots parted.roots
      let (total, separated) := separateRoots A roots
        ((start.mul powerNumber).mul (.exact rootNumber)) [] 60
      let (flips, turned, separated) := turnFactors parted.turn separated
      let rootFactors := separated.flatMap fun (e, b) => (A.power (ofRat b) (ofRat e)).factors
      let all := powerFactors ++ united ++ turned ++ rootFactors
      let total := if flips then total.neg else total
      let total := all.foldl (fun n f => (f.number?).elim n n.mul) total
      let (total, rest) := besideInfinite total (all.filter fun f => !f.isNumber)
      if total.isZero then
        if rest.any holdsInfinity then .number .undefined else .number total
      else
        match sorted rest with
        | [.sum terms] =>
          if total.isOne then .sum terms
          else if total.isFinite then A.sum (terms.map fun t => A.product [.number total, t])
          else .product [.number total, .sum terms]
        | rest => ofFactors (if total.isOne then rest else .number total :: rest)
where
  uniteNumberPowers (A : Algebra slots) (powers : List (Formula slots × Formula slots)) :
      List (Formula slots) :=
    let grouped := powers.foldl (fun (known : List (Formula slots × List (Formula slots))) (b, e) =>
      putBase known b e) []
    grouped.flatMap fun (e, bases) =>
      if e.isExactZero then [] else (A.power (A.product bases) e).factors
  putBase (known : List (Formula slots × List (Formula slots))) (base exponent : Formula slots) :
      List (Formula slots × List (Formula slots)) :=
    match known with
    | [] => [(exponent, [base])]
    | (e, bases) :: rest =>
      if e == exponent then (e, bases ++ [base]) :: rest
      else (e, bases) :: putBase rest base exponent

end SceneFormula.Formula
