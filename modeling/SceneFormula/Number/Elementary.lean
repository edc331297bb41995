import SceneFormula.Number.Binary

set_option autoImplicit false

namespace SceneFormula.Binary

def arcSeries (alternating : Bool) (place : Nat) (top square : Int) : Int :=
  go 0 top top (place + 2)
where
  go (k : Nat) (power sum : Int) : Nat → Int
    | 0 => sum
    | fuel + 1 =>
      let power := Int.fdiv (power * square) (Int.pow 2 place)
      let power := if alternating then -power else power
      if power = 0 ∨ power = -1 then sum
      else go (k + 1) power (sum + Int.fdiv power (2 * (k + 1) + 1)) fuel

def arcOfInverse (alternating : Bool) (place n : Nat) : Int :=
  arcSeries alternating place (Int.pow 2 place / n) (Int.pow 2 place / (n * n))

def piFixed (place : Nat) : Int :=
  let wide := place + 24
  Int.fdiv (16 * arcOfInverse true wide 5 - 4 * arcOfInverse true wide 239) (Int.pow 2 24)

def logTwoFixed (place : Nat) : Int :=
  let wide := place + 24
  Int.fdiv (18 * arcOfInverse false wide 26 - 2 * arcOfInverse false wide 4801 +
    8 * arcOfInverse false wide 8749) (Int.pow 2 24)

def pi (bits : Nat) : Binary :=
  (Binary.mk (piFixed (bits + 8)) (-(bits + 8 : Nat))).round bits

/-- The exponential of a scaled number below one, by its series at a smaller argument and
repeated squaring. -/
def expFixed (place : Nat) (x : Int) : Int :=
  let wide := place + 32
  let small := x * Int.pow 2 24
  let sum := series wide small (Int.pow 2 wide) (Int.pow 2 wide) 1 (wide + 2)
  Int.fdiv (squares wide sum 8) (Int.pow 2 32)
where
  series (wide : Nat) (x term sum : Int) (k : Nat) : Nat → Int
    | 0 => sum
    | fuel + 1 =>
      let term := Int.fdiv (Int.fdiv (term * x) (Int.pow 2 wide)) k
      if term = 0 ∨ term = -1 then sum else series wide x term (sum + term) (k + 1) fuel
  squares (wide : Nat) (x : Int) : Nat → Int
    | 0 => x
    | n + 1 => squares wide (Int.fdiv (x * x) (Int.pow 2 wide)) n

/-- The exponential: a power of two times the exponential of a rest below `log 2`. -/
def exp (bits : Nat) (x : Binary) : Binary :=
  if x.isZero then ⟨1, 0⟩
  else
    let place := bits + 40 + x.magnitude.toNat
    let scaled := x.fixed place
    let logTwo := logTwoFixed place
    let twos := Int.fdiv scaled logTwo
    round bits ⟨expFixed place (scaled - twos * logTwo), twos - place⟩

/-- The natural logarithm of a positive number: that of a power of two plus that of a factor
between `3 / 4` and `3 / 2`. -/
def log (bits : Nat) (x : Binary) : Binary :=
  if x.mantissa ≤ 0 then zero
  else
    let lead := x.magnitude
    let factor : Binary := ⟨x.mantissa, x.exponent - lead⟩
    let (factor, lead) :=
      if 3 < 2 * factor.toRat then (⟨factor.mantissa, factor.exponent - 1⟩, lead + 1)
      else (factor, lead)
    let offset := factor.sub ⟨1, 0⟩
    let near := if offset.isZero then 0 else (-offset.magnitude).toNat
    let place := bits + 40 + near
    let ratio := (offset.div (place + 8) (factor.add ⟨1, 0⟩)).fixed place
    let square := Int.fdiv (ratio * ratio) (Int.pow 2 place)
    let sum := if ratio = 0 then 0 else 2 * arcSeries false place ratio square
    round bits ⟨sum + lead * logTwoFixed place, -(place : Int)⟩

def sinCosFixed (place : Nat) (x : Int) : Int × Int :=
  let square := Int.fdiv (x * x) (Int.pow 2 place)
  let unit := Int.pow 2 place
  (series place square x x 2 (place + 2), series place square unit unit 1 (place + 2))
where
  series (place : Nat) (square term sum : Int) (k : Nat) : Nat → Int
    | 0 => sum
    | fuel + 1 =>
      let term := -Int.fdiv (Int.fdiv (term * square) (Int.pow 2 place)) (k * (k + 1))
      if term = 0 ∨ term = 1 then sum else series place square term (sum + term) (k + 2) fuel

/-- Whether a number is so near to zero that its square is lost beside one. -/
def isTiny (bits : Nat) (x : Binary) : Bool :=
  x.isZero || x.magnitude + bits + 8 < 0

/-- Sine and cosine: a rest of a quarter turn at most, and a number of quarter turns. -/
def sinCos (bits : Nat) (x : Binary) : Binary × Binary :=
  if x.isTiny bits then (round bits x, ⟨1, 0⟩)
  else
    let place := bits + 120 + x.magnitude.natAbs
    let quarter := piFixed (place + 8)
    let scaled := x.fixed (place + 8)
    let turns := Int.fdiv (4 * scaled + quarter) (2 * quarter)
    let rest := Int.fdiv (2 * scaled - turns * quarter) (Int.pow 2 9)
    let (s, c) := sinCosFixed place rest
    let at' (v : Int) : Binary := round bits ⟨v, -(place : Int)⟩
    match (turns % 4).toNat with
    | 0 => (at' s, at' c)
    | 1 => (at' c, at' (-s))
    | 2 => (at' (-s), at' (-c))
    | _ => (at' (-c), at' s)

/-- The inverse tangent: halved three times, summed, and doubled three times. -/
def atan (bits : Nat) (x : Binary) : Binary :=
  if x.isTiny bits then round bits x
  else if bits + 8 < x.magnitude then
    let quarter : Binary := ⟨(pi bits).mantissa, (pi bits).exponent - 1⟩
    if x.isNegative then quarter.neg else quarter
  else
    let wide := bits + 48 + x.magnitude.natAbs
    let size := x.abs
    let large := compare size ⟨1, 0⟩ == .gt
    let small := if large then div wide ⟨1, 0⟩ size else size
    let halve (t : Binary) : Binary :=
      t.div wide (add ⟨1, 0⟩ (sqrt wide (add ⟨1, 0⟩ (round wide (mul t t)))))
    let eighth := (halve (halve (halve small))).fixed wide
    let square := Int.fdiv (eighth * eighth) (Int.pow 2 wide)
    let sum := if eighth = 0 then 0 else 8 * arcSeries true wide eighth square
    let result := if large then Int.fdiv (piFixed wide) 2 - sum else sum
    round bits ⟨if x.isNegative then -result else result, -(wide : Int)⟩

def sinhCosh (bits : Nat) (x : Binary) : Binary × Binary :=
  if x.isTiny bits then (round bits x, ⟨1, 0⟩)
  else
    let wide := bits + 16 + 2 * x.magnitude.natAbs
    let grow := exp wide x.abs
    let fade := div wide ⟨1, 0⟩ grow
    let half (y : Binary) : Binary := round bits ⟨y.mantissa, y.exponent - 1⟩
    let rise := half (addTo wide grow fade.neg)
    (if x.isNegative then rise.neg else rise, half (addTo wide grow fade))

def tanh (bits : Nat) (x : Binary) : Binary :=
  let (s, c) := sinhCosh (bits + 8) x
  div bits s c

def tan (bits : Nat) (x : Binary) : Binary :=
  let (s, c) := sinCos (bits + 8) x
  div bits s c

def asin (bits : Nat) (x : Binary) : Binary :=
  let wide := bits + 32
  let rest := sub ⟨1, 0⟩ (mul x x)
  if rest.isZero then
    let half : Binary := ⟨(pi bits).mantissa, (pi bits).exponent - 1⟩
    if x.isNegative then half.neg else half
  else atan bits (div wide x (sqrt wide rest))

def acos (bits : Nat) (x : Binary) : Binary :=
  let wide := bits + 32
  let above := add ⟨1, 0⟩ x
  if above.isZero then pi bits
  else
    let half := atan wide (sqrt wide (div wide (sub ⟨1, 0⟩ x) above))
    round bits ⟨half.mantissa, half.exponent + 1⟩

def pow (bits : Nat) (x y : Binary) : Binary :=
  let wide := bits + 32 + x.magnitude.natAbs.log2 + y.magnitude.toNat
  exp bits (mul (log wide x) y)

def bernoulli (count : Nat) : List Rat :=
  let all := (List.range (2 * count)).foldl (fun (known : Array Rat) i =>
    let m := i + 1
    let (total, _) := (List.range m).foldl (fun (acc : Rat × Nat) k =>
      let (sum, binomial) := acc
      (sum + binomial * known[k]?.getD 0, binomial * (m + 1 - k) / (k + 1))) (0, 1)
    known.push (-total / (m + 1 : Nat))) #[1]
  (List.range count).map fun k => all[2 * (k + 1)]?.getD 0

/-- The factorial function continued to a number above minus one: shifted far to the right, where
its asymptotic series is exact enough, and divided back. -/
def factorialAbove (bits : Nat) (x : Binary) : Binary :=
  let wide := bits + 64
  let shift : Nat := 80
  let far := add x ⟨(shift : Int) + 1, 0⟩
  let factors := (List.range shift).foldl (fun product (k : Nat) =>
    round wide (mul product (add x ⟨(k : Int) + 1, 0⟩))) ⟨1, 0⟩
  let inverse := div wide ⟨1, 0⟩ far
  let square := round wide (mul inverse inverse)
  let (tail, _, _) := (bernoulli 24).foldl (fun (acc : Binary × Binary × Nat) b =>
    let (sum, power, k) := acc
    let term := mul power (ofRat wide (b / ((2 * k * (2 * k - 1) : Nat) : Rat)))
    (round wide (add sum term), round wide (mul power square), k + 1)) (zero, inverse, 1)
  let logTwoPi := log wide (mul ⟨2, 0⟩ (pi wide))
  let main := sub (mul (sub far ⟨1, -1⟩) (log wide far)) far
  let total := add (add main ⟨logTwoPi.mantissa, logTwoPi.exponent - 1⟩) tail
  div bits (exp wide total) factors

end SceneFormula.Binary
