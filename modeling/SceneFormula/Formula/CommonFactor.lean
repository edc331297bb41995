import SceneFormula.Formula.Algebra

set_option autoImplicit false

namespace SceneFormula.Formula

variable {slots : List Nat}

/-- A term: its coefficient, and its generators with positive exponents. -/
structure Monomial (slots : List Nat) where
  coefficient : Number
  powers : List (Formula slots × Nat)

/-- A factor as a generator to a positive power. -/
def generatorPower (x : Formula slots) : Formula slots × Nat :=
  match x with
  | .power b (.number (.exact q)) =>
    if q.den = 1 ∧ 0 < q then (b, q.num.toNat)
    else if 0 < q then (.power b (ofRat (mkRat 1 q.den)), q.num.toNat)
    else (.power b (ofRat (mkRat (-1) q.den)), q.num.natAbs)
  | x => (x, 1)

def Monomial.of (x : Formula slots) : Monomial slots :=
  let (n, rest) := x.coefficient
  ⟨n, (rest.factors.filter fun f => !f.isOne).map generatorPower⟩

def Monomial.degree (m : Monomial slots) (generator : Formula slots) : Nat :=
  (m.powers.find? fun p => p.1 == generator).elim 0 (·.2)

def Monomial.divide (m : Monomial slots) (n : Rat) (powers : List (Formula slots × Nat)) :
    Monomial slots :=
  ⟨m.coefficient.mul (.exact n⁻¹), m.powers.filterMap fun (g, k) =>
    let k := k - (powers.find? fun p => p.1 == g).elim 0 (·.2)
    if k = 0 then none else some (g, k)⟩

def Monomial.formula (A : Algebra slots) (m : Monomial slots) : Formula slots :=
  A.product (.number m.coefficient :: m.powers.map fun (g, k) => A.power g (ofInt k))

/-- The greatest whole number that divides all coefficients, if these are whole. -/
def content (ms : List (Monomial slots)) : Rat :=
  let ints := ms.map fun m => m.coefficient.int?
  if ints.any Option.isNone then 1
  else ((ints.foldl (fun g n => Nat.gcd g (n.getD 0).natAbs) 0 : Nat) : Rat)

def sharedPowers (ms : List (Monomial slots)) : List (Formula slots × Nat) :=
  match ms with
  | [] => []
  | first :: rest => first.powers.filterMap fun (g, k) =>
    let least := rest.foldl (fun least m => min least (m.degree g)) k
    if least = 0 then none else some (g, least)

/-- The fraction by which one list of terms is a multiple of the other. -/
def ratio? (xs ys : List (Monomial slots)) : Option Rat :=
  if xs.length ≠ ys.length ∨ ys.length < 2 then none
  else
    let same (m n : Monomial slots) : Bool :=
      m.powers.length == n.powers.length && m.powers.all fun p => n.degree p.1 == p.2
    let ratios := xs.map fun m => do
      let n ← ys.find? (same m)
      return (← m.coefficient.rat?) / (← n.coefficient.rat?)
    match ratios with
    | some q :: rest => if rest.all (· == some q) then some q else none
    | _ => none

def commonFactor (A : Algebra slots) (x y : Formula slots) :
    Formula slots × Formula slots × Formula slots :=
  let xs := x.terms.map Monomial.of
  let ys := y.terms.map Monomial.of
  match ratio? xs ys with
  | some q => (A.product [ofRat (mkRat 1 q.den), y], ofInt q.num, ofInt q.den)
  | none =>
    let n := content (xs ++ ys)
    let shared := sharedPowers (xs ++ ys)
    if n = 1 ∧ shared.isEmpty then (1, x, y)
    else
      let divide (ms : List (Monomial slots)) : Formula slots :=
        A.sum (ms.map fun m => (m.divide n shared).formula A)
      (Monomial.formula A ⟨.exact n, shared⟩, divide xs, divide ys)

end SceneFormula.Formula
