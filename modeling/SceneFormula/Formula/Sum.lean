import SceneFormula.Formula.Algebra

set_option autoImplicit false

namespace SceneFormula.Formula

variable {slots : List Nat}

/-- The number in a sum, and what it is a sum of besides, each with its factor. -/
structure Collected (slots : List Nat) where
  number : Number
  terms : List (Formula slots × Number)

def Collected.insert (factor : Number) (term : Formula slots) :
    List (Formula slots × Number) → List (Formula slots × Number)
  | [] => [(term, factor)]
  | (other, known) :: rest =>
    if other == term then (other, known.add factor) :: rest
    else (other, known) :: insert factor term rest

def Collected.add (collected : Collected slots) (term : Formula slots) : Collected slots :=
  match term with
  | .number n => { collected with number := collected.number.add n }
  | term =>
    let (factor, rest) := term.coefficient
    { collected with terms := Collected.insert factor rest collected.terms }

/-- What remains of the terms beside an infinite number: those that may weigh against it. -/
def besideInfinity (total : Number) (terms : List (Formula slots)) : List (Formula slots) :=
  match total with
  | .infinite negative => terms.filter fun x =>
    let r := x.range
    !((if negative then r.isNonpositive else r.isNonnegative) || (r.isReal && r.isFinite))
  | .unsigned => terms.filter fun x =>
    let r := x.range
    !(r.isFinite && (r.isReal || r.isNonreal))
  | _ => terms

def sumOf (A : Algebra slots) (xs : List (Formula slots)) : Formula slots :=
  match (xs.flatMap terms).filter fun x => !x.isExactZero with
  | [] => 0
  | [x] => x
  | xs =>
    let collected := xs.foldl Collected.add ⟨0, []⟩
    let undefinedPart := collected.terms.any fun entry =>
      match entry.2 with
      | .undefined => true
      | _ => false
    match collected.number, undefinedPart with
    | .undefined, _ | _, true => .number .undefined
    | total, _ =>
      let terms := collected.terms.filterMap fun (term, factor) =>
        if factor.isZero then none
        else if factor.isOne then some term
        else match term with
          | .product factors => some (.product (.number factor :: factors))
          | .sum _ => some (.product [.number factor, term])
          | term => some (A.product [.number factor, term])
      let terms := sorted (besideInfinity total terms)
      ofTerms (if total.isExactZero then terms else .number total :: terms)

end SceneFormula.Formula
