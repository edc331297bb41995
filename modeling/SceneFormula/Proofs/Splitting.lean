import SceneFormula.Proofs.Depth
import SceneFormula.Proofs.Positions

set_option autoImplicit false

namespace SceneFormula

namespace Text

/-- Whether a separator stands at a position of a text outside of its literals, with as many
parentheses opened as closed before it. -/
def SeparatesAt (text : Text) (separator : Char) (position : Nat) : Prop :=
  ∃ front rest, text.pieces = front ++ .outside separator :: rest ∧ Piece.depth front = 0 ∧
    position = (front.flatMap Piece.text).length

def cutsFrom (position : Nat) : List Text → List Nat
  | [] | [_] => []
  | part :: next :: rest =>
    (position + part.length) :: cutsFrom (position + part.length + 1) (next :: rest)

theorem cutsFrom_modifyHead (position : Nat) (front : Text) (parts : List Text) :
    cutsFrom position (parts.modifyHead (front ++ ·)) =
      cutsFrom (position + front.length) parts := by
  match parts with
  | [] | [_] => rfl
  | part :: next :: rest => simp [cutsFrom, Nat.add_assoc]

theorem cutsFrom_nil_cons (position : Nat) {parts : List Text} (some_part : parts ≠ []) :
    cutsFrom position ([] :: parts) = position :: cutsFrom (position + 1) parts := by
  obtain ⟨part, rest, rfl⟩ := List.exists_cons_of_ne_nil some_part
  rfl

theorem exists_cons_eq_append_iff {α : Type} {x item : α} {xs : List α} {P : List α → Prop} :
    (∃ front rest, x :: xs = front ++ item :: rest ∧ P front) ↔
      x = item ∧ P [] ∨ ∃ front rest, xs = front ++ item :: rest ∧ P (x :: front) := by
  constructor
  · rintro ⟨front, rest, whole, holds⟩
    cases front with
    | nil => exact .inl ⟨(List.cons.inj whole).1, holds⟩
    | cons first front =>
      obtain ⟨rfl, later⟩ := List.cons.inj whole
      exact .inr ⟨front, rest, later, holds⟩
  · rintro (⟨rfl, holds⟩ | ⟨front, rest, rfl, holds⟩)
    · exact ⟨[], xs, rfl, holds⟩
    · exact ⟨x :: front, rest, rfl, holds⟩

/-- The runs of pieces lie between the separators where as many parentheses have been opened as
closed. -/
theorem mem_cutsFrom_runs_iff {separator : Char} (flat : (Piece.outside separator).turn = 0)
    (depth : Int) (position there : Nat) (pieces : List Piece) :
    there ∈ cutsFrom position
        ((runs separator depth pieces).map fun run => run.flatMap Piece.text) ↔
      ∃ front rest, pieces = front ++ .outside separator :: rest ∧
        depth + Piece.depth front = 0 ∧
        there = position + (front.flatMap Piece.text).length := by
  induction pieces generalizing depth position with
  | nil => simp [runs, cutsFrom]
  | cons piece rest ih =>
    have later (front : List Piece) :
        (depth + Piece.depth (piece :: front) = 0 ∧
            there = position + ((piece :: front).flatMap Piece.text).length) ↔
          (depth + piece.turn + Piece.depth front = 0 ∧
            there = position + piece.text.length + (front.flatMap Piece.text).length) := by
      rw [Piece.depth_cons, List.flatMap_cons, List.length_append, Int.add_assoc, Nat.add_assoc]
    rw [exists_cons_eq_append_iff]
    simp only [later, ← ih (depth + piece.turn) (position + piece.text.length)]
    rw [runs]
    split
    · rename_i here
      obtain ⟨rfl, -, rfl⟩ := here
      have filled : (runs separator 0 rest).map (fun run => run.flatMap Piece.text) ≠ [] := by
        simpa using runs_ne_nil separator 0 rest
      rw [List.map_cons, List.flatMap_nil, cutsFrom_nil_cons position filled, List.mem_cons, flat,
        Int.add_zero]
      simp [Piece.text]
    · rename_i kept
      have apart : ¬ (piece = .outside separator ∧ depth = 0) := by
        rintro ⟨rfl, zero⟩
        exact kept ⟨rfl, flat, zero⟩
      have moved : ((runs separator (depth + piece.turn) rest).modifyHead (piece :: ·)).map
            (fun run => run.flatMap Piece.text) =
          ((runs separator (depth + piece.turn) rest).map
            fun run => run.flatMap Piece.text).modifyHead (piece.text ++ ·) := by
        cases runs separator (depth + piece.turn) rest <;> simp
      rw [moved, cutsFrom_modifyHead]
      simp only [Piece.depth_nil, Int.add_zero, ← and_assoc, apart, false_and, false_or]

/-- The only open literal of a text is the last of its pieces. -/
theorem exists_unclosed_last {text : Text} {body : Text} (inside : .unclosed body ∈ text.pieces) :
    ∃ front, text.pieces = front ++ [.unclosed body] ∧ ∀ other, .unclosed other ∉ front := by
  fun_induction pieces text with
  | case1 => cases inside
  | case2 rest own after _ ih =>
    obtain ⟨front, whole, closed⟩ := ih (by simpa using inside)
    exact ⟨.literal own :: front, by rw [whole]; rfl, by simpa using closed⟩
  | case3 rest _ =>
    cases List.mem_singleton.mp inside
    exact ⟨[], rfl, fun _ => List.not_mem_nil⟩
  | case4 c rest _ ih =>
    obtain ⟨front, whole, closed⟩ := ih (by simpa using inside)
    exact ⟨.outside c :: front, by rw [whole]; rfl, by simpa using closed⟩

theorem split_eq_error_iff {separator : Char} {text : Text} {fault : NestingFault} :
    split separator text = .error fault ↔
      ∃ front body, text.pieces = front ++ [.unclosed body] ∧
        fault = .unterminated (front.flatMap Piece.text).length := by
  have found {front : List Piece} {body : Text} (closed : ∀ other, .unclosed other ∉ front)
      (whole : text.pieces = front ++ [.unclosed body]) :
      split separator text = .error (.unterminated (front.flatMap Piece.text).length) := by
    rw [split, whole, unclosedFrom?_append closed, Nat.zero_add]
    rfl
  constructor
  · intro failed
    by_cases closed : ∀ body, .unclosed body ∉ text.pieces
    · cases failed.symm.trans (split_of_closed closed)
    · obtain ⟨body, inside⟩ := not_forall_not.mp closed
      obtain ⟨front, whole, before⟩ := exists_unclosed_last inside
      cases failed.symm.trans (found before whole)
      exact ⟨front, body, whole, rfl⟩
  · rintro ⟨front, body, whole, rfl⟩
    have inside : .unclosed body ∈ text.pieces := by simp [whole]
    obtain ⟨others, same, closed⟩ := exists_unclosed_last inside
    obtain ⟨rfl, -⟩ := List.append_inj' (whole.symm.trans same) rfl
    exact found closed whole

theorem closed_of_split {separator : Char} {text : Text} {parts : List Text}
    (cut : split separator text = .ok parts) (body : Text) : .unclosed body ∉ text.pieces := by
  intro inside
  obtain ⟨front, whole, -⟩ := exists_unclosed_last inside
  cases cut.symm.trans (split_eq_error_iff.mpr ⟨front, body, whole, rfl⟩)

theorem runs_append_separator {separator : Char} (flat : (Piece.outside separator).turn = 0)
    {depth : Int} {front : List Piece} (level : depth + Piece.depth front = 0)
    (rest : List Piece) :
    runs separator depth (front ++ .outside separator :: rest) =
      runs separator depth front ++ runs separator 0 rest := by
  induction front generalizing depth with
  | nil =>
    obtain rfl : depth = 0 := by simpa using level
    simp [runs, flat]
  | cons piece front ih =>
    rw [Piece.depth_cons, ← Int.add_assoc] at level
    rw [List.cons_append, runs, runs]
    split
    · rename_i here
      obtain ⟨rfl, -, rfl⟩ := here
      rw [flat, Int.add_zero] at level
      rw [ih level]
      rfl
    · rw [ih level]
      obtain ⟨first, others, shape⟩ :=
        List.exists_cons_of_ne_nil (runs_ne_nil separator (depth + piece.turn) front)
      rw [shape]
      rfl

/-- A text is cut exactly at the separators that stand outside of its literals with as many
parentheses opened as closed before them, and what lies between the cuts makes it up again; only a
literal that is left open keeps it from being cut. Two texts with a separator between them have the
parts of both, if the first one opens as many parentheses as it closes. By positions a text is cut
in the same way. -/
theorem splits_at_level {separator : Char} (ordinary : separator ∉ [Literal.quote, '(', ')'])
    (text : Text) :
    (∀ fault, split separator text = .error fault ↔
      ∃ front body, text.pieces = front ++ [.unclosed body] ∧
        fault = .unterminated (front.flatMap Piece.text).length) ∧
    ((∀ body, .unclosed body ∉ text.pieces) → ∃ raws,
      List.intercalate [separator] raws = text ∧ split separator text = .ok (raws.map strip) ∧
      ∀ position, position ∈ cutsFrom 0 raws ↔ text.SeparatesAt separator position) ∧
    (∀ other parts others, split separator text = .ok parts → split separator other = .ok others →
      Piece.depth text.pieces = 0 →
      split separator (text ++ separator :: other) = .ok (parts ++ others)) ∧
    splitAt text separator = (split separator text).mapError .ofNesting := by
  simp only [List.mem_cons, List.not_mem_nil, or_false, not_or] at ordinary
  obtain ⟨unquoted, unopened, unclosed⟩ := ordinary
  have flat := Piece.turn_outside unopened unclosed
  refine ⟨fun fault => split_eq_error_iff, fun closed => ?_, ?_, splitAt_eq text separator⟩
  · refine ⟨(runs separator 0 text.pieces).map fun run => run.flatMap Piece.text, ?_, ?_, ?_⟩
    · rw [intercalate_runs, flatMap_pieces]
    · rw [split_of_closed closed, List.map_map]
      rfl
    · intro position
      rw [mem_cutsFrom_runs_iff flat]
      simp only [Int.zero_add, Nat.zero_add, SeparatesAt]
  · intro other parts others cut cut' level
    have closed := closed_of_split cut
    have closed' := closed_of_split cut'
    have whole : pieces (text ++ separator :: other) =
        text.pieces ++ .outside separator :: other.pieces := by
      rw [pieces_append_of_closed closed, pieces_cons unquoted]
    have together : ∀ body, .unclosed body ∉ pieces (text ++ separator :: other) := by
      simpa [whole] using fun body => ⟨closed body, closed' body⟩
    rw [split_of_closed closed] at cut
    rw [split_of_closed closed'] at cut'
    cases cut
    cases cut'
    have start : (0 : Int) + Piece.depth text.pieces = 0 := by omega
    rw [split_of_closed together, whole, runs_append_separator flat start, List.map_append]

/-- A comma behind a parenthesis that is closed first does not cut, the one behind its counterpart
does, and neither does the one in the literal. -/
theorem splits_at_level_closed_first :
    let text := Text.lit "),( , \",(\\\"\""
    ',' ∉ [Literal.quote, '(', ')'] ∧ Piece.depth text.pieces = 0 ∧
      (∃ raws, List.intercalate [','] raws = text ∧
        raws.map strip = [Text.lit "),(", Text.lit "\",(\\\"\""] ∧ 4 ∈ cutsFrom 0 raws) ∧
      split ',' (text ++ ',' :: Text.lit " b") =
        .ok [Text.lit "),(", Text.lit "\",(\\\"\"", Text.lit "b"] := by
  intro text
  have ordinary : ',' ∉ [Literal.quote, '(', ')'] := by decide
  have level : Piece.depth text.pieces = 0 := by decide +kernel
  have cut : split ',' text = .ok [Text.lit "),(", Text.lit "\",(\\\"\""] := by decide +kernel
  have cut' : split ',' (Text.lit " b") = .ok [Text.lit "b"] := by decide +kernel
  obtain ⟨-, parts, together, -⟩ := splits_at_level ordinary text
  obtain ⟨raws, whole, same, cuts⟩ := parts (closed_of_split cut)
  rw [cut] at same
  refine ⟨ordinary, level, ⟨raws, whole, (Except.ok.inj same).symm, ?_⟩, ?_⟩
  · exact (cuts 4).mpr ⟨[.outside ')', .outside ',', .outside '(', .outside ' '],
      [.outside ' ', .literal (Text.lit ",(\\\"")], by decide +kernel, rfl, rfl⟩
  · exact together _ _ _ cut cut' level

end Text
end SceneFormula
