import Mathlib.Order.Bounds.Basic
import SceneFormula.Proofs.Depth
import SceneFormula.Proofs.Positions

set_option autoImplicit false

namespace SceneFormula

/-- Where a reading of a text is: outside of all literals, inside of one, or inside of one and right
behind a backslash that escapes. -/
inductive LiteralState where
  | outside
  | inside
  | escaped
deriving DecidableEq

def LiteralState.next : LiteralState → Char → LiteralState
  | outside, c => if c = Literal.quote then inside else outside
  | inside, c =>
    if c = Literal.quote then outside else if c = Literal.escape then escaped else inside
  | escaped, _ => inside

namespace Text

variable {state : LiteralState} {c : Char} {text rest front : Text}

/-- The state behind a text that is read from a state on. -/
def stateFrom (state : LiteralState) (text : Text) : LiteralState :=
  text.foldl LiteralState.next state

/-- The characters of a text that belong to no literal. The quotes around a literal belong to it. -/
def bareFrom (state : LiteralState) : Text → Text
  | [] => []
  | c :: rest =>
    if state = .outside ∧ c ≠ Literal.quote then c :: bareFrom (state.next c) rest
    else bareFrom (state.next c) rest

/-- How many parentheses a text opens outside of its literals. -/
def opened (text : Text) : Nat := (bareFrom .outside text).count '('

/-- How many parentheses a text closes outside of its literals. -/
def closed (text : Text) : Nat := (bareFrom .outside text).count ')'

/-- Whether the parentheses that a text opens and closes, from a position through a later one, are
equal in number. -/
def EvenThrough (text : Text) (opening j : Nat) : Prop :=
  opening < j ∧ j < text.length ∧
    opened (text.extract opening (j + 1)) = closed (text.extract opening (j + 1))

/-- Why the parenthesis at a position is not closed in what follows: the text ends outside of all
literals, or a literal is left open. -/
inductive BreaksOff (text : Text) (opening : Nat) : NestingFault → Prop
  | ended (outside : stateFrom .outside (text.drop opening) = .outside) :
    BreaksOff text opening (.unbalanced opening)
  | openLiteral {position : Nat} (behind : opening < position)
    (quoted : text[position]? = some Literal.quote)
    (outside : stateFrom .outside (text.extract opening position) = .outside)
    (inside : ∀ j, position < j → stateFrom .outside (text.extract opening j) ≠ .outside) :
    BreaksOff text opening (.unterminated position)

theorem stateFrom_cons (state : LiteralState) (c : Char) (rest : Text) :
    stateFrom state (c :: rest) = stateFrom (state.next c) rest := rfl

theorem stateFrom_append (state : LiteralState) (front rest : Text) :
    stateFrom state (front ++ rest) = stateFrom (stateFrom state front) rest :=
  List.foldl_append

theorem bareFrom_append (state : LiteralState) (front rest : Text) :
    bareFrom state (front ++ rest) =
      bareFrom state front ++ bareFrom (stateFrom state front) rest := by
  induction front generalizing state with
  | nil => rfl
  | cons c front ih =>
    rw [List.cons_append, bareFrom, bareFrom, ih, stateFrom_cons]
    split <;> rfl

theorem next_outside (unquoted : c ≠ Literal.quote) : LiteralState.outside.next c = .outside :=
  if_neg unquoted

theorem next_inside (unquoted : c ≠ Literal.quote) (unescaped : c ≠ Literal.escape) :
    LiteralState.inside.next c = .inside := by
  rw [LiteralState.next, if_neg unquoted, if_neg unescaped]

theorem bareFrom_outside_cons (unquoted : c ≠ Literal.quote) (rest : Text) :
    bareFrom .outside (c :: rest) = c :: bareFrom .outside rest := by
  rw [bareFrom, if_pos ⟨rfl, unquoted⟩, next_outside unquoted]

theorem stateFrom_outside_cons (unquoted : c ≠ Literal.quote) (rest : Text) :
    stateFrom .outside (c :: rest) = stateFrom .outside rest := by
  rw [stateFrom_cons, next_outside unquoted]

theorem stateFrom_bareFrom_of_stands {body content : Text} (stands : Literal.Stands body content) :
    stateFrom .inside body = .inside ∧ bareFrom .inside body = [] := by
  induction stands with
  | nil => exact ⟨rfl, rfl⟩
  | @plain c body content unquoted unescaped _ ih =>
    rw [stateFrom_cons, bareFrom, if_neg (by simp), next_inside unquoted unescaped]
    exact ih
  | escaped _ ih => exact ih

theorem stateFrom_literal {body content : Text} (stands : Literal.Stands body content) :
    stateFrom .outside (Literal.quote :: (body ++ [Literal.quote])) = .outside := by
  have opens : LiteralState.outside.next Literal.quote = .inside := rfl
  rw [stateFrom_cons, opens, stateFrom_append, (stateFrom_bareFrom_of_stands stands).1]
  rfl

theorem bareFrom_literal {body content : Text} (stands : Literal.Stands body content) :
    bareFrom .outside (Literal.quote :: (body ++ [Literal.quote])) = [] := by
  have opens : LiteralState.outside.next Literal.quote = .inside := rfl
  obtain ⟨inside, nothing⟩ := stateFrom_bareFrom_of_stands stands
  rw [bareFrom, if_neg (by simp), opens, bareFrom_append, nothing, inside]
  rfl

theorem close?_eq_none_of_prefix (unclosed : Literal.close? text = none)
    (leading : front <+: text) : Literal.close? front = none := by
  obtain ⟨back, rfl⟩ := leading
  cases found : Literal.close? front with
  | none => rfl
  | some closed =>
    have stands := Literal.stands_of_close? found
    rw [Literal.eq_append_of_close? found, List.append_assoc, List.cons_append,
      stands.close?_append] at unclosed
    cases unclosed

theorem stateFrom_bareFrom_of_unclosed (unclosed : Literal.close? text = none) :
    stateFrom .inside text ≠ .outside ∧ bareFrom .inside text = [] := by
  fun_induction Literal.close? text with
  | case1 => exact ⟨by decide, rfl⟩
  | case2 | case4 => cases unclosed
  | case3 c unquoted =>
    constructor
    · simp only [stateFrom, List.foldl, LiteralState.next, if_neg unquoted]
      split <;> decide
    · rfl
  | case5 d rest _ ih =>
    have stays := ih (Option.map_eq_none_iff.mp unclosed)
    exact stays
  | case6 c d rest unquoted unescaped ih =>
    rw [stateFrom_cons, bareFrom, if_neg (by simp), next_inside unquoted unescaped]
    exact ih (Option.map_eq_none_iff.mp unclosed)

/-- How many more parentheses a text opens than it closes. -/
def rise (text : Text) : Int :=
  (opened text : Int) - closed text

@[simp] theorem rise_nil : rise [] = 0 := rfl

theorem rise_append (outside : stateFrom .outside front = .outside) (rest : Text) :
    rise (front ++ rest) = rise front + rise rest := by
  simp only [rise, opened, closed, bareFrom_append, outside, List.count_append]
  omega

theorem rise_cons (unquoted : c ≠ Literal.quote) (rest : Text) :
    rise (c :: rest) = (Piece.outside c).turn + rise rest := by
  simp only [rise, opened, closed, bareFrom_outside_cons unquoted, List.count_cons, beq_iff_eq,
    Piece.turn]
  by_cases opens : c = '('
  · subst opens
    simp
    omega
  · by_cases closes : c = ')'
    · subst closes
      simp
      omega
    · simp [opens, closes]

theorem rise_eq_zero (bare : bareFrom .outside text = []) : rise text = 0 := by
  rw [rise, opened, closed, bare]
  rfl

/-- Whether a text that stands inside of `depth` parentheses keeps at least one of them open, at its
end and at every place before. -/
def Above (depth : Int) (text : Text) : Prop :=
  ∀ front, front <+: text → 0 < depth + rise front

namespace Above

variable {depth : Int}

theorem nil (positive : 0 < depth) : Above depth [] := by
  intro front leading
  rw [List.prefix_nil.mp leading]
  simpa using positive

theorem positive (above : Above depth text) : 0 < depth := by
  simpa using above [] List.nil_prefix

theorem cons (unquoted : c ≠ Literal.quote) (positive : 0 < depth)
    (above : Above (depth + (Piece.outside c).turn) rest) : Above depth (c :: rest) := by
  intro front leading
  obtain rfl | ⟨front, rfl, later⟩ := List.prefix_cons_iff.mp leading
  · simpa using positive
  · rw [rise_cons unquoted, ← Int.add_assoc]
    exact above front later

/-- Nothing is counted as long as a text has no character outside of its literals. -/
theorem of_bare (positive : 0 < depth) (bare : bareFrom .outside text = []) :
    Above depth text := by
  rintro front ⟨back, rfl⟩
  rw [bareFrom_append] at bare
  rw [rise_eq_zero (List.append_eq_nil_iff.mp bare).1, Int.add_zero]
  exact positive

theorem append (outside : stateFrom .outside front = .outside) (above : Above depth front)
    (further : Above (depth + rise front) rest) : Above depth (front ++ rest) := by
  intro start leading
  rcases List.prefix_or_prefix_of_prefix leading (List.prefix_append front rest) with
    short | ⟨more, rfl⟩
  · exact above start short
  · rw [rise_append outside, ← Int.add_assoc]
    exact further more ((List.prefix_append_right_inj front).mp leading)

theorem literal {body content : Text} (stands : Literal.Stands body content)
    (above : Above depth rest) :
    Above depth (Literal.quote :: (body ++ [Literal.quote]) ++ rest) := by
  have bare := bareFrom_literal stands
  refine append (stateFrom_literal stands) (of_bare above.positive bare) ?_
  rwa [rise_eq_zero bare, Int.add_zero]

end Above

/-- A text that is balanced inside of parentheses keeps one more open than it closes, up to its
end. -/
theorem Balanced.above {depth : Nat} (balanced : Balanced [] depth text) :
    stateFrom .outside text = .outside ∧ depth + rise text = 0 ∧ Above (depth + 1) text := by
  induction balanced with
  | nil => exact ⟨rfl, rfl, .nil Int.one_pos⟩
  | @opening depth rest _ ih =>
    obtain ⟨outside, level, above⟩ := ih
    have turn : (Piece.outside '(').turn = 1 := rfl
    rw [stateFrom_outside_cons (by decide), rise_cons (by decide), turn]
    push_cast at level above
    refine ⟨outside, by omega, .cons (by decide) (by omega) ?_⟩
    rwa [turn]
  | @closing depth rest _ ih =>
    obtain ⟨outside, level, above⟩ := ih
    have turn : (Piece.outside ')').turn = -1 := rfl
    rw [stateFrom_outside_cons (by decide), rise_cons (by decide), turn]
    have lower : ((depth + 1 : Nat) : Int) + 1 + -1 = depth + 1 := by omega
    refine ⟨outside, by omega, .cons (by decide) (by omega) ?_⟩
    rwa [turn, lower]
  | @literal depth body content rest stands _ ih =>
    obtain ⟨outside, level, above⟩ := ih
    have whole : Literal.quote :: (body ++ Literal.quote :: rest) =
        Literal.quote :: (body ++ [Literal.quote]) ++ rest := by simp
    have left := stateFrom_literal stands
    rw [whole, stateFrom_append, left, rise_append left, rise_eq_zero (bareFrom_literal stands),
      Int.zero_add]
    exact ⟨outside, level, .literal stands above⟩
  | @other depth c rest unquoted unopened unclosed _ _ ih =>
    obtain ⟨outside, level, above⟩ := ih
    have turn := Piece.turn_outside unopened unclosed
    rw [stateFrom_outside_cons unquoted, rise_cons unquoted, turn, Int.zero_add]
    refine ⟨outside, level, .cons unquoted (by omega) ?_⟩
    rwa [turn, Int.add_zero]

theorem closingFrom_outside (opening : Nat) (depth : Int) (position : Nat) (c : Char)
    (rest : List Piece) :
    closingFrom opening depth position (.outside c :: rest) =
      if c = ')' ∧ depth + (Piece.outside c).turn = 0 then .ok position
      else closingFrom opening (depth + (Piece.outside c).turn) (position + 1) rest := by
  simp [closingFrom, Piece.length, Piece.text]

/-- A character that does not close the last open parenthesis leaves it open. -/
theorem pos_of_not_closing {depth : Int} (positive : 0 < depth)
    (inside : ¬ (c = ')' ∧ depth + (Piece.outside c).turn = 0)) :
    0 < depth + (Piece.outside c).turn := by
  rw [Piece.turn] at inside ⊢
  split
  · omega
  · split
    · rename_i closes
      have kept : depth + -1 ≠ 0 := by simpa [closes] using inside
      omega
    · omega

theorem above_of_closingFrom {opening position : Nat} {depth : Int} {fault : NestingFault}
    (positive : 0 < depth)
    (failed : closingFrom opening depth position (pieces text) = .error fault) :
    Above depth text ∧
      (stateFrom .outside text = .outside ∧ fault = .unbalanced opening ∨
        ∃ front rest, text = front ++ Literal.quote :: rest ∧
          stateFrom .outside front = .outside ∧ Literal.close? rest = none ∧
          fault = .unterminated (position + front.length)) := by
  -- the depth stays positive on the way, or the search would have ended there
  fun_induction pieces text generalizing position depth with
  | case1 =>
    cases failed
    exact ⟨.nil positive, .inl ⟨rfl, rfl⟩⟩
  | case2 text body after closed ih =>
    have stands := Literal.stands_of_close? closed
    have left := stateFrom_literal stands
    have whole : Literal.quote :: text = Literal.quote :: (body ++ [Literal.quote]) ++ after := by
      rw [Literal.eq_append_of_close? closed]
      simp
    rw [closingFrom_literal] at failed
    obtain ⟨above, reason⟩ := ih positive failed
    rw [whole, stateFrom_append, left]
    refine ⟨.literal stands above, reason.imp_right ?_⟩
    rintro ⟨front, rest, rfl, outside, unclosed, rfl⟩
    refine ⟨Literal.quote :: (body ++ [Literal.quote]) ++ front, rest, by simp, ?_, unclosed, ?_⟩
    · rw [stateFrom_append, left]
      exact outside
    · simp only [List.length_cons, List.length_append, List.length_nil]
      congr 1
      omega
  | case3 text unclosed =>
    cases failed
    have bare : bareFrom .outside (Literal.quote :: text) = [] :=
      (stateFrom_bareFrom_of_unclosed unclosed).2
    exact ⟨.of_bare positive bare, .inr ⟨[], text, rfl, rfl, unclosed, rfl⟩⟩
  | case4 c text unquoted ih =>
    rw [closingFrom_outside] at failed
    split at failed
    · cases failed
    · rename_i inside
      obtain ⟨above, reason⟩ := ih (pos_of_not_closing positive inside) failed
      rw [stateFrom_outside_cons unquoted]
      refine ⟨.cons unquoted positive above, reason.imp_right ?_⟩
      rintro ⟨front, rest, rfl, outside, unclosed, rfl⟩
      refine ⟨c :: front, rest, rfl, ?_, unclosed, ?_⟩
      · rw [stateFrom_outside_cons unquoted]
        exact outside
      · rw [List.length_cons, Nat.add_assoc, Nat.add_comm 1]

section Positions

variable {opening : Nat}

theorem extract_of_getElem? (there : text[opening]? = some c) (width : Nat) :
    text.extract opening (opening + 1 + width) = c :: (text.drop (opening + 1)).take width := by
  have size : opening + 1 + width - opening = width + 1 := by omega
  rw [List.extract_eq_take_drop, drop_of_getElem? there, size, List.take_succ_cons]

variable (opens : text[opening]? = some '(')
include opens

theorem closingParenthesis_eq :
    text.closingParenthesis opening =
      closingFrom opening 1 (opening + 1) (pieces (text.drop (opening + 1))) := by
  rw [closingParenthesis, drop_of_getElem? opens, pieces_cons (by decide), closingFrom_opening]
  rfl

theorem rise_extract (width : Nat) :
    rise (text.extract opening (opening + 1 + width)) =
      1 + rise ((text.drop (opening + 1)).take width) := by
  rw [extract_of_getElem? opens, rise_cons (by decide)]
  rfl

/-- What stands behind a parenthesis up to the one that is found to close it. -/
theorem exists_above_of_closingParenthesis {closing : Nat}
    (found : text.closingParenthesis opening = .ok closing) :
    ∃ inner rest, text.drop (opening + 1) = inner ++ ')' :: rest ∧
      closing = opening + 1 + inner.length ∧ stateFrom .outside inner = .outside ∧
      rise inner = 0 ∧ Above 1 inner := by
  rw [closingParenthesis_eq opens] at found
  have found : closingFrom opening ((0 : Nat) + 1) (opening + 1) _ = .ok closing := found
  obtain ⟨inner, rest, tail, rfl, balanced⟩ := exists_balanced_of_closingFrom found
  obtain ⟨outside, level, above⟩ := balanced.above
  exact ⟨inner, rest, tail, rfl, outside, by simpa using level, above⟩

/-- Up to a position that lies behind an open parenthesis, more parentheses are opened than
closed. -/
theorem closed_lt_opened_of_above {inner rest : Text}
    (tail : text.drop (opening + 1) = inner ++ rest) (above : Above 1 inner) {j : Nat}
    (behind : opening ≤ j) (within : j ≤ opening + inner.length) :
    closed (text.extract opening (j + 1)) < opened (text.extract opening (j + 1)) := by
  obtain ⟨width, rfl⟩ := Nat.exists_eq_add_of_le behind
  have short : width ≤ inner.length := by omega
  have level := rise_extract opens width
  rw [tail, List.take_append_of_le_length short] at level
  have positive := above _ (List.take_prefix width inner)
  have same : opening + width + 1 = opening + 1 + width := by omega
  rw [same]
  rw [rise] at level
  omega

theorem isLeast_of_closingParenthesis {closing : Nat}
    (found : text.closingParenthesis opening = .ok closing) :
    IsLeast {j | text.EvenThrough opening j} closing := by
  obtain ⟨inner, rest, tail, rfl, outside, level, above⟩ :=
    exists_above_of_closingParenthesis opens found
  refine ⟨⟨by omega, ?_, ?_⟩, fun j even => ?_⟩
  · have size := congrArg List.length tail
    simp only [List.length_drop, List.length_append, List.length_cons] at size
    omega
  · have closes : (text.drop (opening + 1)).take (inner.length + 1) = inner ++ [')'] := by
      rw [tail, List.take_length_add_append]
      rfl
    have through := rise_extract opens (inner.length + 1)
    rw [closes, rise_append outside, level] at through
    have last : rise [')'] = -1 := rfl
    rw [last, rise] at through
    have same : opening + 1 + inner.length + 1 = opening + 1 + (inner.length + 1) := by omega
    rw [same]
    omega
  · by_contra before
    have positive := closed_lt_opened_of_above opens tail above even.1.le (by omega)
    exact positive.ne' even.2.2

theorem breaksOff_of_unclosed {front rest : Text}
    (whole : text.drop (opening + 1) = front ++ Literal.quote :: rest)
    (outside : stateFrom .outside front = .outside) (unclosed : Literal.close? rest = none) :
    text.BreaksOff opening (.unterminated (opening + 1 + front.length)) := by
  refine .openLiteral (by omega) ?_ ?_ fun j behind => ?_
  · rw [← List.getElem?_drop, whole]
    simp
  · rw [extract_of_getElem? opens, whole, List.take_left, stateFrom_outside_cons (by decide)]
    exact outside
  · obtain ⟨width, rfl⟩ := Nat.exists_eq_add_of_lt behind
    have same : opening + 1 + front.length + width + 1 =
        opening + 1 + (front.length + (width + 1)) := by omega
    rw [same, extract_of_getElem? opens, whole, List.take_length_add_append, List.take_succ_cons,
      stateFrom_outside_cons (by decide), stateFrom_append, outside]
    have unclosed := close?_eq_none_of_prefix unclosed (List.take_prefix width rest)
    exact (stateFrom_bareFrom_of_unclosed unclosed).1

theorem breaksOff_of_closingParenthesis {fault : NestingFault}
    (failed : text.closingParenthesis opening = .error fault) :
    (∀ j, ¬ text.EvenThrough opening j) ∧ text.BreaksOff opening fault := by
  rw [closingParenthesis_eq opens] at failed
  obtain ⟨above, reason⟩ := above_of_closingFrom Int.one_pos failed
  have tail := (List.append_nil (text.drop (opening + 1))).symm
  refine ⟨fun j even => ?_, ?_⟩
  · have within : j ≤ opening + (text.drop (opening + 1)).length := by
      rw [List.length_drop]
      have := even.2.1
      omega
    exact (closed_lt_opened_of_above opens tail above even.1.le within).ne' even.2.2
  · obtain ⟨outside, rfl⟩ | ⟨front, rest, whole, outside, unclosed, rfl⟩ := reason
    · refine .ended ?_
      rw [drop_of_getElem? opens, stateFrom_outside_cons (by decide)]
      exact outside
    · exact breaksOff_of_unclosed opens whole outside unclosed

end Positions

theorem BreaksOff.unique {opening : Nat} {fault other : NestingFault}
    (first : text.BreaksOff opening fault) (second : text.BreaksOff opening other) :
    fault = other := by
  -- A text that goes on inside of a literal from a place on ends inside of it.
  have stays {position : Nat}
      (inside : ∀ j, position < j → stateFrom .outside (text.extract opening j) ≠ .outside) :
      stateFrom .outside (text.drop opening) ≠ .outside := by
    have late := inside (position + 1 + text.length) (by omega)
    have long : (text.drop opening).length ≤ position + 1 + text.length - opening := by
      rw [List.length_drop]
      omega
    rwa [List.extract_eq_take_drop, List.take_of_length_le long] at late
  cases first with
  | ended outside =>
    cases second with
    | ended _ => rfl
    | openLiteral _ _ _ inside => exact absurd outside (stays inside)
  | @openLiteral position _ _ outside inside =>
    cases second with
    | ended outside => exact absurd outside (stays inside)
    | @openLiteral next _ _ outside' inside' =>
      rcases Nat.lt_trichotomy position next with before | rfl | behind
      · exact absurd outside' (inside next before)
      · rfl
      · exact absurd outside (inside' position behind)

/-- Where a parenthesis is closed is told by the first position through which it is even, or there
is none. -/
theorem closingParenthesis_iff {opening : Nat} (opens : text[opening]? = some '(') :
    (∀ closing, text.closingParenthesis opening = .ok closing ↔
      IsLeast {j | text.EvenThrough opening j} closing) ∧
    ∀ fault, text.closingParenthesis opening = .error fault ↔
      (∀ j, ¬ text.EvenThrough opening j) ∧ text.BreaksOff opening fault :=
  outcome_iff (fun _ => isLeast_of_closingParenthesis opens)
    (fun _ => breaksOff_of_closingParenthesis opens)
    (fun closing _ least breaks => breaks.1 closing least.1)
    (fun _ _ least first => least.unique first)
    (fun _ _ breaks other => breaks.2.unique other.2)

/-- The parenthesis that closes another one is at the first position behind it through which,
outside of literals, as many parentheses are closed as opened. It is a closing parenthesis outside
of literals, and up to it more are opened than closed. Without such a position nothing is found, for
the reason that the text ends, or that a literal in it is left open. By positions the parenthesis is
found in the same way. -/
theorem closes_where_even (opening : Nat) (opens : text[opening]? = some '(') :
    (∀ closing, text.closingParenthesis opening = .ok closing ↔
      IsLeast {j | text.EvenThrough opening j} closing) ∧
    (∀ closing, text.closingParenthesis opening = .ok closing →
      text[closing]? = some ')' ∧
        stateFrom .outside (text.extract opening closing) = .outside ∧
        ∀ j, opening ≤ j → j < closing →
          closed (text.extract opening (j + 1)) < opened (text.extract opening (j + 1))) ∧
    (∀ fault, text.closingParenthesis opening = .error fault ↔
      (∀ j, ¬ text.EvenThrough opening j) ∧ text.BreaksOff opening fault) ∧
    closingAt text opening 0 opening =
      (text.closingParenthesis opening).mapError .ofNesting := by
  obtain ⟨closes, fails⟩ := closingParenthesis_iff opens
  refine ⟨closes, fun closing found => ?_, fails, closingAt_eq text opening 0 opening⟩
  obtain ⟨inner, rest, tail, rfl, outside, -, above⟩ :=
    exists_above_of_closingParenthesis opens found
  refine ⟨?_, ?_, fun j behind before => ?_⟩
  · rw [← List.getElem?_drop, tail]
    simp
  · rw [extract_of_getElem? opens, tail, List.take_left, stateFrom_outside_cons (by decide)]
    exact outside
  · exact closed_lt_opened_of_above opens tail above behind (by omega)

/-- Parentheses in parentheses, with a literal that holds a quote and a parenthesis, and an open
literal behind them. -/
theorem closes_where_even_nested :
    let text := Text.lit "x((\"\\\")\") + 1) + \")"
    text[1]? = some '(' ∧ text.closingParenthesis 1 = .ok 13 ∧
      IsLeast {j | text.EvenThrough 1 j} 13 ∧ text[13]? = some ')' ∧
      closed (text.extract 1 9) < opened (text.extract 1 9) := by
  intro text
  have opens : text[1]? = some '(' := rfl
  have found : text.closingParenthesis 1 = .ok 13 := by decide +kernel
  obtain ⟨least, closes, -, -⟩ := closes_where_even 1 opens
  obtain ⟨there, -, above⟩ := closes 13 found
  exact ⟨opens, found, (least 13).mp found, there, above 8 (by decide) (by decide)⟩

end Text
end SceneFormula
