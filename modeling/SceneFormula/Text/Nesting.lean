import SceneFormula.Text.Piece

set_option autoImplicit false

namespace SceneFormula

/-- Why the nesting of a text cannot be followed to its end. -/
inductive NestingFault where
  | unterminated (position : Nat)
  | unbalanced (position : Nat)
deriving DecidableEq

namespace Text

def literalEnd (text : Text) (start : Nat) : Except NestingFault Nat :=
  match Literal.close? (text.drop (start + 1)) with
  | some (body, _) => .ok (start + body.length + 2)
  | none => .error (.unterminated start)

/-- The position of the closing parenthesis that ends the depth at zero, in pieces that start at
a position and inside `depth` parentheses. -/
def closingFrom (opening : Nat) (depth : Int) (position : Nat) :
    List Piece → Except NestingFault Nat
  | [] => .error (.unbalanced opening)
  | .unclosed _ :: _ => .error (.unterminated position)
  | piece :: rest =>
    if piece = .outside ')' ∧ depth + piece.turn = 0 then .ok position
    else closingFrom opening (depth + piece.turn) (position + piece.length) rest

def closingParenthesis (text : Text) (opening : Nat) : Except NestingFault Nat :=
  closingFrom opening 0 opening (pieces (text.drop opening))

def unclosedFrom? (position : Nat) : List Piece → Option Nat
  | [] => none
  | .unclosed _ :: _ => some position
  | piece :: rest => unclosedFrom? (position + piece.length) rest

/-- The runs of pieces between the separators outside all parentheses. Neither quotes nor
parentheses separate. -/
def runs (separator : Char) (depth : Int) : List Piece → List (List Piece)
  | [] => [[]]
  | piece :: rest =>
    if piece = .outside separator ∧ piece.turn = 0 ∧ depth = 0 then
      [] :: runs separator depth rest
    else
      (runs separator (depth + piece.turn) rest).modifyHead (piece :: ·)

/-- The parts of a text between the separators outside its literals and parentheses, without the
blanks around each. -/
def split (separator : Char) (text : Text) : Except NestingFault (List Text) :=
  match unclosedFrom? 0 text.pieces with
  | some position => .error (.unterminated position)
  | none =>
    .ok ((runs separator 0 text.pieces).map fun run => strip (run.flatMap Piece.text))

theorem strip_length_le (text : Text) : text.strip.length ≤ text.length := by
  have front := (List.dropWhile_suffix (l := text) isBlank).length_le
  have back := (List.dropWhile_suffix (l := text.stripLeft.reverse) isBlank).length_le
  rw [List.length_reverse] at back
  simp only [strip, stripRight, List.length_reverse]
  exact Nat.le_trans back front

theorem run_length_le (separator : Char) (depth : Int) (pieces : List Piece) (run : List Piece)
    (member : run ∈ runs separator depth pieces) :
    (run.flatMap Piece.text).length ≤ (pieces.flatMap Piece.text).length := by
  induction pieces generalizing depth run with
  | nil => simp_all [runs]
  | cons piece rest ih =>
    simp only [runs] at member
    split at member
    · rcases List.mem_cons.mp member with rfl | later
      · simp
      · have := ih _ _ later
        simp only [List.flatMap_cons, List.length_append]
        omega
    · cases found : runs separator (depth + piece.turn) rest with
      | nil => simp [found] at member
      | cons first others =>
        rw [found, List.modifyHead_cons] at member
        rcases List.mem_cons.mp member with rfl | later
        · have := ih _ first (found ▸ List.mem_cons_self)
          simp only [List.flatMap_cons, List.length_append]
          omega
        · have := ih _ run (found ▸ List.mem_cons_of_mem _ later)
          simp only [List.flatMap_cons, List.length_append]
          omega

theorem length_le_of_mem_split {separator : Char} {text : Text} {parts : List Text}
    (success : split separator text = .ok parts) {part : Text} (member : part ∈ parts) :
    part.length ≤ text.length := by
  simp only [split] at success
  split at success
  · cases success
  · cases success
    obtain ⟨run, among, rfl⟩ := List.mem_map.mp member
    have short := run_length_le separator 0 text.pieces run among
    rw [text.flatMap_pieces] at short
    exact Nat.le_trans (strip_length_le _) short

end Text
end SceneFormula
