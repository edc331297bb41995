import SceneFormula.Decimal.Layout
import SceneFormula.Decimal.Reading
import SceneFormula.Decimal.Shortest

set_option autoImplicit false

namespace SceneFormula

inductive ValueKind where
  | number
  | text
deriving DecidableEq

namespace ValueKind

def word : ValueKind → Text
  | number => Text.lit "number"
  | text => Text.lit "text"

end ValueKind

inductive Value where
  | number (x : Float)
  | text (t : Text)

namespace Double

def toInt? (x : Float) : Option Int :=
  (toRat? x).bind fun q => if q.den = 1 then some q.num else none

end Double

namespace Value

/-- A number as texts show it: an integer without point or exponent, and any other number by the
fewest digits that read back. -/
def numberText (x : Float) : Text :=
  match Double.toInt? x with
  | some n => intText n
  | none => Decimal.exact x

/-- The value as a number; a text that is none counts as zero. -/
def toNumber : Value → Float
  | number x => x
  | text t => (Decimal.read? t).getD 0

def toText : Value → Text
  | number x => numberText x
  | text t => t

def isText : Value → Bool
  | number _ => false
  | text _ => true

/-- The value as it stands in a concatenation: a number keeps its point. -/
def joined : Value → Text
  | number x => Decimal.exact x
  | text t => t

/-- Whether two values are equal. A number and a text never are, nor is an undefined number equal
to anything. -/
def same : Value → Value → Bool
  | number x, number y => x == y
  | text s, text t => s == t
  | number _, text _ | text _, number _ => false

end Value
end SceneFormula
