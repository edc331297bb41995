import SceneFormula.Text.Literal

set_option autoImplicit false

namespace SceneFormula

/-- A piece of a text. -/
inductive Piece where
  | outside (c : Char)
  | literal (body : Text)
  | unclosed (body : Text)
deriving DecidableEq

namespace Piece

/-- The piece as it is written. -/
def text : Piece → Text
  | outside c => [c]
  | literal body => Literal.quote :: (body ++ [Literal.quote])
  | unclosed body => Literal.quote :: body

def length (piece : Piece) : Nat := piece.text.length

/-- How much deeper in parentheses the text is after the piece. -/
def turn : Piece → Int
  | outside c => if c = '(' then 1 else if c = ')' then -1 else 0
  | literal _ | unclosed _ => 0

def blanked : Piece → Text
  | outside c => [c]
  | literal _ | unclosed _ => [Literal.quote, Literal.quote]

end Piece

def Text.pieces : Text → List Piece
  | [] => []
  | c :: rest =>
    if c = Literal.quote then
      match _ : Literal.close? rest with
      | some (body, after) => .literal body :: Text.pieces after
      | none => [.unclosed rest]
    else .outside c :: Text.pieces rest
termination_by text => text.length
decreasing_by
  · have := Literal.length_of_close? ‹_›
    simp only [List.length_cons]
    omega
  · simp

def Text.blanked (text : Text) : Text :=
  text.pieces.flatMap Piece.blanked

theorem Text.flatMap_pieces (text : Text) : text.pieces.flatMap Piece.text = text := by
  fun_induction Text.pieces text with
  | case1 => rfl
  | case2 rest body after closed ih =>
    have whole := Literal.eq_append_of_close? closed
    simp [Piece.text, ih, whole]
  | case3 rest open_ => simp [Piece.text]
  | case4 c rest _ ih => simp [Piece.text, ih]

end SceneFormula
