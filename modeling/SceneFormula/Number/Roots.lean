import SceneFormula.Number.Basic

set_option autoImplicit false

namespace SceneFormula.Roots

/-- The greatest number whose `k`-th power is not above `n`. -/
def root (n k : Nat) : Nat :=
  if n < 2 ∨ k < 2 then n
  else if n.log2 < k then 1
  else descend n k (Nat.pow 2 (n.log2 / k + 1)) (2 * n.log2 + 8)
where
  descend (n k guess : Nat) : Nat → Nat
    | 0 => guess
    | fuel + 1 =>
      let next := ((k - 1) * guess + n / Nat.pow guess (k - 1)) / k
      if guess ≤ next then guess else descend n k next fuel

def bitLimit : Nat := Nat.pow 2 24 - 1

def power? (n : Int) (k : Nat) : Option Int :=
  if k * max 1 n.natAbs.log2 ≤ bitLimit then some (Int.pow n k)
  else if n = 0 ∨ n = 1 then some n
  else if n = -1 then some (if k % 2 = 0 then 1 else -1)
  else none

def factorial? (n : Nat) : Option Nat :=
  if n * n.log2 ≤ bitLimit then
    some ((List.range n).foldl (fun product k => product * (k + 1)) 1)
  else none

def exactRoot? (n k : Nat) : Option Nat :=
  let r := root n k
  if power? r k = some (n : Int) then some r else none

/-- The number as a power with the greatest exponent, if that is at least two. -/
def perfectPower? (n : Nat) : Option (Nat × Nat) :=
  if n < 4 then none
  else (List.range (n.log2 - 1)).findSome? fun i =>
    let k := n.log2 - i
    (exactRoot? n k).map fun r => (r, k)

def divideOut (n d : Nat) : Nat → Nat × Nat
  | 0 => (0, n)
  | fuel + 1 =>
    if n % d = 0 ∧ n ≠ 0 then
      let (count, rest) := divideOut (n / d) d fuel
      (count + 1, rest)
    else (0, n)

/-- The prime factors up to `2 ^ 15` with their multiplicities; what is left over counts as one
more factor. -/
def smallFactors (n : Nat) : List (Nat × Nat) :=
  go n 2 (Nat.pow 2 15)
where
  go (n d : Nat) : Nat → List (Nat × Nat)
    | 0 => if n = 1 then [] else [(n, 1)]
    | fuel + 1 =>
      if n = 1 then []
      else if n < d * d then [(n, 1)]
      else
        let (count, rest) := divideOut n d n.log2
        if count = 0 then go n (d + 1) fuel else (d, count) :: go rest (d + 1) fuel

end SceneFormula.Roots
