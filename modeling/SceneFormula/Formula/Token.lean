import SceneFormula.Text.Alphanumeric

set_option autoImplicit false

namespace SceneFormula

/-- A piece of a formula's text. -/
inductive Token where
  | blank (text : Text)
  | number (text : Text)
  | name (text : Text)
  | operator (text : Text)
deriving DecidableEq

def isNameStart (c : Char) : Bool := c.isAlpha || c = '_'

def isNamePart (c : Char) : Bool := c.isAlphanum || c = '_'

def operatorCharacters : List Char := ['-', '+', '*', '/', '^', '%', '(', ')', ',', '!']

namespace Token

/-- The token as it is written. -/
def text : Token → Text
  | blank t | number t | name t | operator t => t

/-- An exponent at the front of a text: its mark, a sign and at least one digit. Empty if the text
does not start with one. -/
def exponentLength : Text → Nat
  | mark :: rest =>
    if mark = 'e' ∨ mark = 'E' then
      let sign := match rest with
        | c :: _ => if c = '+' ∨ c = '-' then 1 else 0
        | [] => 0
      let digits := ((rest.drop sign).takeWhile isDecimalDigit).length
      if digits = 0 then 0 else 1 + sign + digits
    else 0
  | [] => 0

/-- Digits with at most one point among them, at the front of a text. No more than a point is no
number. -/
def decimalLength (s : Text) : Nat :=
  let whole := (s.takeWhile isDecimalDigit).length
  match s.drop whole with
  | '.' :: rest =>
    let fraction := (rest.takeWhile isDecimalDigit).length
    if whole = 0 ∧ fraction = 0 then 0 else whole + 1 + fraction
  | _ => whole

def numberLength (s : Text) : Nat :=
  let size := decimalLength s
  if size = 0 then 0 else size + exponentLength (s.drop size)

def front? : Text → Option ((Text → Token) × Nat)
  | [] => none
  | c :: rest =>
    if isBlank c then some (blank, 1 + (rest.takeWhile isBlank).length)
    else if 0 < numberLength (c :: rest) then some (number, numberLength (c :: rest))
    else if isNameStart c then some (name, 1 + (rest.takeWhile isNamePart).length)
    else if c = '*' ∧ rest.head? = some '*' then some (operator, 2)
    else if c ∈ operatorCharacters then some (operator, 1)
    else none

theorem front?_pos {s : Text} {make : Text → Token} {size : Nat}
    (found : front? s = some (make, size)) : 0 < size := by
  cases s with
  | nil => simp [front?] at found
  | cons c rest =>
    simp only [front?] at found
    split at found
    · cases found; omega
    · split at found
      · cases found; assumption
      · split at found
        · cases found; omega
        · split at found
          · cases found; omega
          · split at found
            · cases found; omega
            · cases found

theorem front?_ne_nil {s : Text} {found : (Text → Token) × Nat} (h : front? s = some found) :
    s ≠ [] := by
  rintro rfl
  simp [front?] at h

/-- The tokens of a text from its front, and what is left at the first character that starts no
token. -/
def cut (s : Text) : List Token × Text :=
  match _ : front? s with
  | none => ([], s)
  | some (make, size) =>
    let (tokens, rest) := cut (s.drop size)
    (make (s.take size) :: tokens, rest)
termination_by s.length
decreasing_by
  have := front?_pos ‹_›
  have := List.length_pos_iff.mpr (front?_ne_nil ‹_›)
  simp only [List.length_drop]
  omega

def names (tokens : List Token) : List Text :=
  tokens.filterMap fun t => match t with
    | name text => some text
    | _ => none

end Token
end SceneFormula
