import SceneFormula.Formula.Approximation
import SceneFormula.Formula.Vocabulary

set_option autoImplicit false

namespace SceneFormula

/-- What formulas are sorted by: kind, parts, exponent, and the number in front. -/
inductive SortKey where
  | text (s : String)
  | node (kind : Nat × Nat × String) (parts : List SortKey) (exponent : Option SortKey)
    (number : Number)

namespace SortKey

def compareKinds (a b : Nat × Nat × String) : Ordering :=
  ((compare a.1 b.1).then (compare a.2.1 b.2.1)).then (compare a.2.2 b.2.2)

mutual

def compare : SortKey → SortKey → Ordering
  | text a, text b => Ord.compare a b
  | text _, node .. => .lt
  | node .., text _ => .gt
  | node k xs e n, node l ys f m =>
    ((compareKinds k l).then (Ord.compare xs.length ys.length)).then <|
      (compareAll xs ys).then <| (compareExponents e f).then <| (n.compare? m).getD .eq

def compareAll : List SortKey → List SortKey → Ordering
  | [], [] => .eq
  | [], _ :: _ => .lt
  | _ :: _, [] => .gt
  | x :: xs, y :: ys => (compare x y).then (compareAll xs ys)

def compareExponents : Option SortKey → Option SortKey → Ordering
  | none, none => .eq
  | none, some _ => .lt
  | some _, none => .gt
  | some x, some y => compare x y

end

/-- Items with their keys, sorted by these; equal ones keep their order. -/
def keyed {α : Type} (keyOf : α → SortKey) (xs : List α) : List (α × SortKey) :=
  (xs.map fun x => (x, keyOf x)).mergeSort fun a b => compare a.2 b.2 != .gt

def sortOn {α : Type} (keyOf : α → SortKey) (xs : List α) : List α :=
  (keyed keyOf xs).map (·.1)

end SortKey

/-- The kind of a function: functions with a place of their own come before the others. -/
def Fn.kind : Fn → Nat × Nat × String
  | .exp => (4, 10, "exp")
  | .log => (4, 11, "log")
  | .sin => (4, 20, "sin")
  | .cos => (4, 21, "cos")
  | .tan => (4, 22, "tan")
  | .cot => (4, 23, "cot")
  | .sinh => (4, 30, "sinh")
  | .cosh => (4, 31, "cosh")
  | .tanh => (4, 32, "tanh")
  | .realPart => (4, 41, "re")
  | .abs => (4, 10000, "Abs")
  | .remainder => (4, 10000, "Mod")
  | .acos => (4, 10000, "acos")
  | .asin => (4, 10000, "asin")
  | .atan => (4, 10000, "atan")
  | .atan2 => (4, 10000, "atan2")
  | .ceiling => (4, 10000, "ceiling")
  | .factorial => (4, 10000, "factorial")
  | .floor => (4, 10000, "floor")
  | .spread => (5, 0, "AccumulationBounds")
  | .maximum => (5, 0, "Max")
  | .minimum => (5, 0, "Min")

def Number.label : Number → String
  | exact q =>
    let top := String.ofList (intText q.num)
    if q.den = 1 then top else top ++ "/" ++ String.ofList (Nat.toDigits 10 q.den)
  | measured x bits =>
    let digits := measuredDigits (x.bounded 20000) bits
    let size := String.ofList ((Decimal.Format.mk 16 true).layout digits)
    if x.isNegative then "-" ++ size else size
  | infinite negative => if negative then "-oo" else "oo"
  | unsigned => "zoo"
  | undefined => "nan"

namespace Formula

variable {slots : List Nat}

/-- A power as base and whole exponent, fractions and signs of the exponent moved where they keep
the exponent whole. -/
def wholePower (x : Formula slots) : Formula slots × Int :=
  let rebuild (b e : Formula slots) : Formula slots := match b with
    | .constant .e => .apply .exp [e]
    | b => .power b e
  let (b, e) := x.baseAndExponent
  match e with
  | .number (.exact q) => (if q.den = 1 then b else .power b (ofRat (mkRat 1 q.den)), q.num)
  | .number _ => (x, 1)
  | e =>
    let (q, rest) := e.rationalCoefficient
    if q = 1 then (x, 1)
    else if q = -1 then (rebuild b rest, -1)
    else (rebuild b (withCoefficient (.exact (mkRat 1 q.den)) rest), q.num)

/-- A term as a complex number times whole powers of generators. -/
def monomial (x : Formula slots) : Approx × List (Formula slots × Int) :=
  let (n, rest) := x.coefficient
  let start : Approx := .ofReal ((n.binary? 64).getD Binary.zero)
  rest.factors.foldl (fun (value, powers) f =>
    if f.isOne then (value, powers)
    else if f.isConstant then
      ((f.approx? 64).elim value fun z => Approx.mul 64 value z, powers)
    else (value, powers ++ [wholePower f])) (start, [])

/-- The order of term values: real ones first, by size. -/
def compareValues (z w : Approx) : Ordering :=
  ((compare z.im.isZero w.im.isZero).swap.then (Binary.compare z.im w.im)).then
    (Binary.compare z.re w.re)

def compareDegrees : List Int → List Int → Ordering
  | x :: xs, y :: ys => (compare y x).then (compareDegrees xs ys)
  | _, _ => .eq

def arrangeBy (generators : List (Formula slots)) (xs : List (Formula slots)) :
    List (Formula slots) :=
  let described := xs.map fun x =>
    let (value, powers) := monomial x
    let degrees := generators.map fun g =>
      (powers.reverse.find? fun (p : Formula slots × Int) => p.1 == g).elim 0 (·.2)
    ((degrees, value), x)
  (described.mergeSort fun a b =>
    (compareDegrees a.1.1 b.1.1).then (compareValues a.1.2 b.1.2) != .gt).map (·.2)

/-- A positive number before a negative multiple of something that is no number. -/
def differencePair? (xs : List (Formula slots)) : Option (List (Formula slots)) :=
  let isPlain (x : Formula slots) : Bool := match x with
    | .number _ | .constant .pi | .constant .e => true
    | _ => false
  match xs.filter isPlain ++ xs.filter fun x => !isPlain x with
  | [x, y@(.product [.number n, _])] =>
    let positive := match x with
      | .number m => m.isPositive
      | x => isPlain x
    if isPlain x && positive && n.isNegative then some [x, y] else none
  | _ => none

/-- The sorting key of a formula; the fuel covers its depth. Keys that are known already are not
computed again. -/
def sortKey (known : List (Formula slots × SortKey)) : Nat → Formula slots → SortKey
  | 0, _ => .text ""
  | fuel + 1, x =>
    let keyOfOne : SortKey := .node (1, 0, "Number") [] none 1
    match x with
    | .number n => .node (1, 0, "Number") [] none n
    | x =>
      let (n, rest) := x.coefficient
      match known.find? fun entry => entry.1 == rest with
      | some (_, .node kind parts exponent _) => .node kind parts exponent n
      | _ =>
        let (body, exponent) := match rest with
          | .power b e => (b, sortKey known fuel e)
          | rest => (rest, keyOfOne)
        let (kind, parts) : (Nat × Nat × String) × List SortKey := match body with
          | .number m => ((1, 0, "Number"), [.text m.label])
          | .constant .pi => ((2, 0, "Pi"), [.text "pi"])
          | .constant .e => ((2, 0, "Exp1"), [.text "E"])
          | .constant .imaginary => ((2, 0, "ImaginaryUnit"), [.text "I"])
          | .slot i _ => ((2, 0, "Symbol"), [.text (String.ofList (slotName i))])
          | .sum xs =>
            match known.find? fun entry => entry.1 == .sum xs with
            | some (_, .node kind parts _ _) => (kind, parts)
            | _ =>
              let generators := SortKey.keyed (sortKey [] fuel) (generatorsOf xs)
              let terms := (differencePair? xs).getD (arrangeBy (generators.map (·.1)) xs)
              ((3, 1, "Add"), terms.map (sortKey generators fuel))
          | .product xs => ((3, 0, "Mul"), SortKey.sortOn id (xs.map (sortKey known fuel)))
          | .power b e => ((3, 2, "Pow"), [sortKey known fuel b, sortKey known fuel e])
          | .apply f xs => (f.kind, xs.map (sortKey [] fuel))
        .node kind parts (some exponent) n
where
  generatorsOf (xs : List (Formula slots)) : List (Formula slots) :=
    (xs.flatMap fun x => (monomial x).2.map (·.1)).foldl (fun known b =>
      if known.any (· == b) then known else known ++ [b]) []

def key (x : Formula slots) : SortKey := sortKey [] (2 * x.depth + 8) x

def byKey (xs : List (Formula slots)) : List (Formula slots) := SortKey.sortOn key xs

def arrangeTerms (xs : List (Formula slots)) : List (Formula slots) :=
  (differencePair? xs).getD (arrangeBy (byKey (sortKey.generatorsOf xs)) xs)

end Formula
end SceneFormula
