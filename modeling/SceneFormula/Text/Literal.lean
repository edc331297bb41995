import SceneFormula.Text.Blank

set_option autoImplicit false

namespace SceneFormula.Literal

def quote : Char := '"'

def escape : Char := '\\'

/-- The body of a literal after its opening quote, and the text after its closing quote. A
backslash and the character after it stay together. Nothing if no quote closes it. -/
def close? : Text → Option (Text × Text)
  | [] => none
  | [c] => if c = quote then some ([], []) else none
  | c :: d :: rest =>
    if c = quote then some ([], d :: rest)
    else if c = escape then
      (close? rest).map fun (body, after) => (c :: d :: body, after)
    else (close? (d :: rest)).map fun (body, after) => (c :: body, after)

/-- A body with its escapes resolved. A backslash at the very end stands for itself. -/
def unescape : Text → Text
  | [] => []
  | [c] => [c]
  | c :: d :: rest => if c = escape then d :: unescape rest else c :: unescape (d :: rest)

/-- The text that a literal stands for: its first and last character are its quotes. -/
def value (literal : Text) : Text :=
  unescape literal.tail.dropLast

/-- A text with a backslash before each quote and each backslash. -/
def escaped : Text → Text
  | [] => []
  | c :: rest =>
    if c = quote ∨ c = escape then escape :: c :: escaped rest else c :: escaped rest

/-- The literal that stands for a text. -/
def ofText (text : Text) : Text :=
  quote :: (escaped text ++ [quote])

theorem eq_append_of_close? {text body after : Text} (closed : close? text = some (body, after)) :
    text = body ++ quote :: after := by
  fun_induction close? text generalizing body after with
  | case1 => cases closed
  | case2 => cases closed; rfl
  | case3 => cases closed
  | case4 => cases closed; rfl
  | case5 d rest _ ih =>
    obtain ⟨⟨inner, tail⟩, found, same⟩ := Option.map_eq_some_iff.mp closed
    cases same
    simp [ih found]
  | case6 c d rest _ _ ih =>
    obtain ⟨⟨inner, tail⟩, found, same⟩ := Option.map_eq_some_iff.mp closed
    cases same
    rw [ih found]
    rfl

theorem length_of_close? {text body after : Text} (closed : close? text = some (body, after)) :
    text.length = body.length + 1 + after.length := by
  rw [eq_append_of_close? closed]
  simp
  omega

@[simp] theorem unescape_escaped (text : Text) : unescape (escaped text) = text := by
  induction text with
  | nil => rfl
  | cons c rest ih =>
    by_cases special : c = quote ∨ c = escape
    · simp [escaped, special, unescape, ih]
    · have ordinary : c ≠ escape := fun h => special (.inr h)
      rw [escaped, if_neg special]
      cases inner : escaped rest with
      | nil =>
        rw [inner] at ih
        simp [unescape, ← ih]
      | cons d more =>
        rw [inner] at ih
        simp [unescape, ordinary, ih]

end SceneFormula.Literal
