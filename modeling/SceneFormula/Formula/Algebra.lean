import SceneFormula.Formula.Range

set_option autoImplicit false

namespace SceneFormula

/-- Ways to build a formula. Applying a function can fail, as a remainder by zero does. -/
structure Algebra (slots : List Nat) where
  sum : List (Formula slots) → Formula slots
  product : List (Formula slots) → Formula slots
  power : Formula slots → Formula slots → Formula slots
  apply : Fn → List (Formula slots) → Option (Formula slots)

namespace Algebra

variable {slots : List Nat}

def plain : Algebra slots where
  sum := Formula.ofTerms
  product := Formula.ofFactors
  power := .power
  apply f xs := some (.apply f xs)

def add (A : Algebra slots) (x y : Formula slots) : Formula slots := A.sum [x, y]

def mul (A : Algebra slots) (x y : Formula slots) : Formula slots := A.product [x, y]

def neg (A : Algebra slots) (x : Formula slots) : Formula slots :=
  match x with
  | .number n => .number n.neg
  | x => A.product [.ofInt (-1), x]

def sub (A : Algebra slots) (x y : Formula slots) : Formula slots := A.add x (A.neg y)

/-- The quotient, as a product with an inverse. -/
def div (A : Algebra slots) (x y : Formula slots) : Formula slots :=
  let inverse := A.power y (.ofInt (-1))
  if x.isOne then inverse else A.product [x, inverse]

def sqrt (A : Algebra slots) (x : Formula slots) : Formula slots :=
  A.power x (.number .half)

/-- A function that is known to take the arguments; its plain form where it does not. -/
def call (A : Algebra slots) (f : Fn) (xs : List (Formula slots)) : Formula slots :=
  (A.apply f xs).getD (.apply f xs)

end Algebra

namespace Formula

variable {slots : List Nat}

/-- Whether the formula counts as having a minus sign in front: a negative number, a product that
starts with such a factor, or a sum in which these outnumber the other terms. -/
def startsNegative : Formula slots → Bool
  | number n => n.isNegative
  | product (x :: _) => startsNegative x
  | sum xs => go xs 0
  | _ => false
where
  go : List (Formula slots) → Int → Bool
    | [], balance => 0 < balance
    | x :: xs, balance => go xs (if startsNegative x then balance + 1 else balance - 1)

end Formula
end SceneFormula
