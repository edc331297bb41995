import SceneFormula.Proofs.Balance

set_option autoImplicit false

namespace SceneFormula

namespace Piece

/-- How many more parentheses pieces open than they close. -/
def depth (pieces : List Piece) : Int :=
  (pieces.count (.outside '(') : Int) - pieces.count (.outside ')')

@[simp] theorem depth_nil : depth [] = 0 := rfl

theorem turn_outside {c : Char} (unopened : c ≠ '(') (unclosed : c ≠ ')') :
    turn (.outside c) = 0 := by
  rw [turn, if_neg unopened, if_neg unclosed]

@[simp] theorem depth_cons (piece : Piece) (rest : List Piece) :
    depth (piece :: rest) = piece.turn + depth rest := by
  simp only [depth, List.count_cons, beq_iff_eq]
  cases piece with
  | literal | unclosed => simp [turn]
  | outside c =>
    by_cases opens : c = '('
    · subst opens
      simp [turn]
      omega
    · by_cases closes : c = ')'
      · subst closes
        simp [turn]
        omega
      · simp [turn_outside opens closes, opens, closes]

/-- Whether pieces that start inside `outer` parentheses close these and all that they open, in
order, and every literal, with none of the separators outside of all. -/
structure Level (separators : List Char) (outer : Int) (pieces : List Piece) : Prop where
  closed : ∀ body, .unclosed body ∉ pieces
  above : ∀ front, front <+: pieces → 0 ≤ outer + depth front
  even : outer + depth pieces = 0
  kept : ∀ front c, front ++ [.outside c] <+: pieces → c ∈ separators → outer + depth front ≠ 0

theorem level_nil_iff {separators : List Char} {outer : Int} :
    Level separators outer [] ↔ outer = 0 := by
  constructor
  · intro level
    simpa using level.even
  · rintro rfl
    refine ⟨fun body => List.not_mem_nil, fun front leading => ?_, rfl, fun front c leading => ?_⟩
    · rw [List.prefix_nil.mp leading]
      exact Int.le_refl 0
    · exact absurd (List.prefix_nil.mp leading) (List.append_ne_nil_of_right_ne_nil _ (by simp))

/-- Pieces are level if the first one is no open literal and no separator outside of all
parentheses, and the others are level from there. -/
theorem level_cons_iff {separators : List Char} {outer : Int} {piece : Piece} {rest : List Piece} :
    Level separators outer (piece :: rest) ↔
      (∀ body, piece ≠ .unclosed body) ∧ 0 ≤ outer ∧
        (∀ c ∈ separators, piece = .outside c → outer ≠ 0) ∧
        Level separators (outer + piece.turn) rest := by
  -- depths behind the first piece are counted from its own turn
  have shifted (front : List Piece) :
      outer + depth (piece :: front) = outer + piece.turn + depth front := by
    rw [depth_cons, Int.add_assoc]
  constructor
  · intro level
    have nonneg := level.above [] List.nil_prefix
    refine ⟨fun body same => level.closed body (same ▸ List.mem_cons_self), by simpa using nonneg,
      fun c separates same => ?_, ?_⟩
    · subst same
      have first := level.kept [] c ⟨rest, rfl⟩ separates
      simpa using first
    · refine ⟨fun body inside => level.closed body (List.mem_cons_of_mem _ inside), ?_, ?_, ?_⟩
      · intro front leading
        rw [← shifted]
        exact level.above _ (List.prefix_cons_inj piece |>.mpr leading)
      · rw [← shifted]
        exact level.even
      · intro front c leading separates
        rw [← shifted]
        exact level.kept _ c (List.prefix_cons_inj piece |>.mpr leading) separates
  · rintro ⟨first, nonneg, apart, level⟩
    refine ⟨fun body inside => ?_, fun front leading => ?_, ?_, fun front c leading separates => ?_⟩
    · rcases List.mem_cons.mp inside with same | later
      · exact first body same.symm
      · exact level.closed body later
    · rcases List.prefix_cons_iff.mp leading with rfl | ⟨front, rfl, later⟩
      · simpa using nonneg
      · rw [shifted]
        exact level.above front later
    · rw [shifted]
      exact level.even
    · cases front with
      | nil =>
        have same : .outside c = piece := (List.cons_prefix_cons.mp leading).1
        simpa using apart c separates same.symm
      | cons own front =>
        obtain ⟨rfl, later⟩ := List.cons_prefix_cons.mp leading
        rw [shifted]
        exact level.kept front c later separates

end Piece

namespace Text

variable {separators : List Char}

theorem Balanced.level {depth : Nat} {text : Text} (balanced : Balanced separators depth text)
    (ordinary : ∀ c ∈ separators, c ∉ ['(', ')']) : Piece.Level separators depth text.pieces := by
  induction balanced with
  | nil => rw [pieces.eq_1, Piece.level_nil_iff]; rfl
  | @opening depth rest _ ih =>
    rw [pieces_cons (by decide), Piece.level_cons_iff]
    refine ⟨by rintro _ ⟨⟩, by omega, fun c separates same => ?_, ih⟩
    cases same
    exact absurd (by simp) (ordinary _ separates)
  | @closing depth rest _ ih =>
    have turn : (Piece.outside ')').turn = -1 := rfl
    have lower : ((depth + 1 : Nat) : Int) + (Piece.outside ')').turn = depth := by omega
    rw [pieces_cons (by decide), Piece.level_cons_iff, lower]
    exact ⟨by rintro _ ⟨⟩, by omega, fun c _ _ => by omega, ih⟩
  | @literal depth body content rest stands _ ih =>
    rw [pieces_literal stands, Piece.level_cons_iff]
    exact ⟨by rintro _ ⟨⟩, by omega, by rintro _ _ ⟨⟩, by simpa [Piece.turn] using ih⟩
  | @other depth c rest unquoted unopened unclosed kept _ ih =>
    rw [pieces_cons unquoted, Piece.level_cons_iff, Piece.turn_outside unopened unclosed,
      Int.add_zero]
    refine ⟨by rintro _ ⟨⟩, by omega, fun d separates same zero => ?_, ih⟩
    cases same
    exact kept (by omega) separates

theorem balanced_of_level {depth : Nat} {text : Text}
    (level : Piece.Level separators depth text.pieces) : Balanced separators depth text := by
  fun_induction pieces text generalizing depth with
  | case1 =>
    obtain rfl : depth = 0 := by simpa using Piece.level_nil_iff.mp level
    exact .nil
  | case2 rest body after closed ih =>
    obtain ⟨-, -, -, later⟩ := Piece.level_cons_iff.mp level
    rw [Literal.eq_append_of_close? closed]
    exact .literal (Literal.stands_of_close? closed) (ih (by simpa [Piece.turn] using later))
  | case3 rest _ => exact absurd rfl ((Piece.level_cons_iff.mp level).1 rest)
  | case4 c rest unquoted ih =>
    obtain ⟨-, nonneg, apart, later⟩ := Piece.level_cons_iff.mp level
    by_cases opens : c = '('
    · subst opens
      exact .opening (ih later)
    · by_cases closes : c = ')'
      · subst closes
        -- What follows is level too, so it cannot start below all parentheses.
        have lower : (depth : Int) + (Piece.outside ')').turn = depth - 1 := by
          simp [Piece.turn, Int.sub_eq_add_neg]
        rw [lower] at later
        have above := later.above [] List.nil_prefix
        rw [Piece.depth_nil, Int.add_zero] at above
        obtain ⟨inner, rfl⟩ : ∃ inner, depth = inner + 1 := ⟨depth - 1, by omega⟩
        have same : ((inner + 1 : Nat) : Int) - 1 = inner := by omega
        rw [same] at later
        exact .closing (ih later)
      · rw [Piece.turn_outside opens closes, Int.add_zero] at later
        refine .other unquoted opens closes (fun zero separates => ?_) (ih later)
        exact apart c separates rfl (by omega)

/-- A text is balanced exactly if its pieces are level. -/
theorem balanced_iff_level (ordinary : ∀ c ∈ separators, c ∉ ['(', ')']) (depth : Nat)
    (text : Text) : Balanced separators depth text ↔ Piece.Level separators depth text.pieces :=
  ⟨fun balanced => balanced.level ordinary, balanced_of_level⟩

end Text
end SceneFormula
