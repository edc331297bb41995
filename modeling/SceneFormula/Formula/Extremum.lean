import SceneFormula.Formula.Algebra
import SceneFormula.Formula.Arrangement

set_option autoImplicit false

namespace SceneFormula.Formula

variable {slots : List Nat}

def Fn.isExtremum : Fn → Bool
  | .minimum | .maximum => true
  | _ => false

def Fn.opposite : Fn → Fn
  | .minimum => .maximum
  | _ => .minimum

/-- Whether the first formula is known to be at least the second, or known not to be. -/
def atLeast? (A : Algebra slots) (x y : Formula slots) : Option Bool :=
  match x, y with
  | .number m, .number n => (m.compare? n).map (· != .lt)
  | x, y =>
    match x.realValue?, y.realValue? with
    | some a, some b =>
      let difference := Approx.sumReal workingBits [a, b.neg]
      some (!difference.isNegative)
    | _, _ =>
      let rx := x.range
      let ry := y.range
      if rx.isReal && ry.isReal then
        let r := (A.sub x y).range
        if r.isNonnegative then some true
        else if r.isReal && !r.zero && !r.positive then some false
        else none
      else none

/-- Whether the first of two formulas is known to be the greater or equal one, either by itself or
because their difference has a known sign. -/
def isGreater? (A : Algebra slots) (x y : Formula slots) : Option Bool :=
  let direct (x y : Formula slots) : Option Bool :=
    match atLeast? A x y with
    | some answer => some answer
    | none => (atLeast? A y x).map not
  match direct x y with
  | some answer => some answer
  | none => direct (A.sub x y) 0

/-- Drop the arguments that are known to lose against a later or earlier one. -/
def winners (A : Algebra slots) (greatest : Bool) (xs : List (Formula slots)) :
    List (Formula slots) :=
  xs.foldl (fun kept x =>
    let compared := kept.map fun k =>
      (k, if k == x then none else isGreater? A x k, k == x)
    let beaten := compared.any fun (_, answer, same) => same || answer.isSome
    let left := (compared.filter fun (_, answer, _) => answer != some greatest).map (·.1)
    let wins := compared.any fun (_, answer, _) => answer == some greatest
    if !beaten || wins then left ++ [x] else left) []

/-- An argument inside the other extremum decides there, and inside the same one is repeated. -/
def absorb (f : Fn) (a : Formula slots) : Nat → Formula slots → Formula slots
  | 0, x => x
  | fuel + 1, x =>
    match x with
    | .apply g xs =>
      if !Fn.isExtremum g then x
      else if xs.any (· == a) then
        if g = f then .apply g ((xs.filter fun y => !(y == a)).map (absorb f a fuel)) else a
      else .apply g (xs.map (absorb f a fuel))
    | x => x

def absorbAll (f : Fn) : Nat → List (Formula slots) → List (Formula slots)
  | 0, xs => xs
  | _, [] => []
  | fuel + 1, a :: rest => a :: absorbAll f fuel (rest.map (absorb f a a.depth.succ))

def shareArguments (f : Fn) (xs : List (Formula slots)) : List (Formula slots) :=
  let opposite := Fn.opposite f
  let inner (x : Formula slots) : Option (List (Formula slots)) := match x with
    | .apply g ys => if g = opposite then some ys else none
    | _ => none
  let sets := xs.filterMap inner
  let rest := xs.filter fun x => (inner x).isNone
  match sets with
  | [] => xs
  | first :: others =>
    let common := first.filter fun y => others.all fun ys => ys.any (· == y)
    if common.isEmpty || others.isEmpty then xs
    else
      let left := sets.map fun ys => ys.filter fun y => !common.any (· == y)
      let join (g : Fn) (ys : List (Formula slots)) : Formula slots := match ys with
        | [y] => y
        | ys => .apply g (byKey ys)
      let extra := if left.any List.isEmpty then [] else [join f (left.map (join opposite))]
      rest ++ [join opposite (common ++ extra)]

/-- The least or the greatest of the arguments. Fails on an argument that has no place on the
line. -/
def extremum? (A : Algebra slots) (f : Fn) (xs : List (Formula slots)) :
    Option (Formula slots) :=
  let greatest := f = .maximum
  let bad (x : Formula slots) : Bool := match x with
    | .number n => match n with
      | .unsigned | .undefined => true
      | _ => false
    | x => x.range.isNonreal || (x.isConstant && x.realValue?.isNone)
  let isLimit (negative : Bool) (x : Formula slots) : Bool := match x with
    | .number (.infinite n) => n == negative
    | _ => false
  if xs.any bad then none
  else if xs.any (isLimit (!greatest)) then some (.number (.infinite (!greatest)))
  else
    let flat := (xs.filter fun x => !isLimit greatest x).flatMap fun x =>
      match x with
      | .apply g ys => if g = f then ys else [x]
      | x => [x]
    let distinct := byKey (flat.foldl (fun known x =>
      if known.any (· == x) then known else known ++ [x]) [])
    let constants := distinct.filter isConstant
    let beyond (x : Formula slots) : Bool := match x with
      | .apply g (a :: _) => g = Fn.opposite f && a.isConstant && constants.any fun c =>
          isGreater? A a c == some (!greatest) && !(a == c)
      | _ => false
    let kept := absorbAll f distinct.length (distinct.filter fun x => !beyond x)
    match winners A greatest (shareArguments f kept) with
    | [] => some (.number (.infinite greatest))
    | [x] => some x
    | rest => some (.apply f (byKey rest))

end SceneFormula.Formula
