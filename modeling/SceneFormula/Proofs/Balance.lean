import Mathlib.Data.List.Basic
import Mathlib.Data.List.Induction
import Mathlib.Data.List.TakeWhile
import SceneFormula.Text.Nesting

set_option autoImplicit false

namespace SceneFormula

/-- What all characters of a text have in common is decided by looking at each of them. Of the
instances in scope this has to come first: another one goes through all characters there are. -/
instance (priority := high) Text.decidableForallMem {p : Char → Prop} [DecidablePred p]
    (text : Text) : Decidable (∀ c ∈ text, p c) :=
  List.decidableBAll p text

namespace Literal

/-- Whether a text is the body of a literal and stands for another one: a backslash takes the
character after it, whatever this is, and no quote stands by itself. -/
inductive Stands : Text → Text → Prop
  | nil : Stands [] []
  | plain {c : Char} {body content : Text} (unquoted : c ≠ quote) (unescaped : c ≠ escape)
    (rest : Stands body content) : Stands (c :: body) (c :: content)
  | escaped {c : Char} {body content : Text} (rest : Stands body content) :
    Stands (escape :: c :: body) (c :: content)

theorem close?_quote (rest : Text) : close? (quote :: rest) = some ([], rest) := by
  cases rest <;> rfl

theorem close?_escape (c : Char) (rest : Text) :
    close? (escape :: c :: rest) =
      (close? rest).map fun (body, after) => (escape :: c :: body, after) := rfl

theorem close?_plain {c : Char} (unquoted : c ≠ quote) (unescaped : c ≠ escape) (rest : Text) :
    close? (c :: rest) = (close? rest).map fun (body, after) => (c :: body, after) := by
  cases rest <;> simp [close?, unquoted, unescaped]

/-- The body of a literal is closed by the next quote. -/
theorem Stands.close?_append {body content : Text} (stands : Stands body content) (after : Text) :
    close? (body ++ quote :: after) = some (body, after) := by
  induction stands with
  | nil => exact close?_quote after
  | plain unquoted unescaped _ ih => simp [close?_plain unquoted unescaped, ih]
  | escaped _ ih => simp [close?_escape, ih]

theorem Stands.unescape_eq {body content : Text} (stands : Stands body content) :
    unescape body = content := by
  induction stands with
  | nil => rfl
  | @plain c body content _ unescaped rest ih =>
    cases body with
    | nil =>
      cases rest
      rfl
    | cons d body => simp [unescape, unescaped, ih]
  | escaped _ ih => simp [unescape, ih]

theorem stands_of_close? {text body after : Text} (closed : close? text = some (body, after)) :
    Stands body (unescape body) := by
  have stands : ∃ content, Stands body content := by
    fun_induction close? text generalizing body after with
    | case1 => cases closed
    | case2 =>
      cases closed
      exact ⟨[], .nil⟩
    | case3 => cases closed
    | case4 =>
      cases closed
      exact ⟨[], .nil⟩
    | case5 d rest _ ih =>
      obtain ⟨⟨inner, tail⟩, found, same⟩ := Option.map_eq_some_iff.mp closed
      cases same
      obtain ⟨content, stands⟩ := ih found
      exact ⟨d :: content, .escaped stands⟩
    | case6 c d rest unquoted unescaped ih =>
      obtain ⟨⟨inner, tail⟩, found, same⟩ := Option.map_eq_some_iff.mp closed
      cases same
      obtain ⟨content, stands⟩ := ih found
      exact ⟨c :: content, .plain unquoted unescaped stands⟩
  obtain ⟨content, stands⟩ := stands
  rw [stands.unescape_eq]
  exact stands

theorem stands_escaped (text : Text) : Stands (escaped text) text := by
  induction text with
  | nil => exact .nil
  | cons c rest ih =>
    rw [escaped]
    split
    · exact .escaped ih
    · rename_i ordinary
      exact .plain (fun same => ordinary (.inl same)) (fun same => ordinary (.inr same)) ih

end Literal

namespace Text

/-- Whether a text is another one with blanks around it. -/
def Pads (part padded : Text) : Prop :=
  ∃ front back : Text, front.isAllBlank = true ∧ back.isAllBlank = true ∧
    padded = front ++ (part ++ back)

theorem isBlank_of_mem {text : Text} (blank : text.isAllBlank = true) {c : Char}
    (member : c ∈ text) : isBlank c = true :=
  List.all_eq_true.mp blank c member

theorem stripRight_append {back : Text} (blank : back.isAllBlank = true) (text : Text) :
    stripRight (text ++ back) = stripRight text := by
  rw [stripRight, List.reverse_append, List.dropWhile_append_of_pos]
  · rfl
  · exact fun c member => isBlank_of_mem blank (List.mem_reverse.mp member)

theorem strip_append_left {front : Text} (blank : front.isAllBlank = true) (text : Text) :
    strip (front ++ text) = strip text := by
  rw [strip, stripLeft, List.dropWhile_append_of_pos fun c member => isBlank_of_mem blank member]
  rfl

theorem strip_append_right {back : Text} (blank : back.isAllBlank = true) (text : Text) :
    strip (text ++ back) = strip text := by
  rw [strip, stripLeft, List.dropWhile_append]
  split
  · rename_i empty
    have nothing : stripLeft text = [] := List.isEmpty_iff.mp empty
    have gone : back.dropWhile isBlank = [] :=
      List.dropWhile_eq_nil_iff.mpr fun c member => isBlank_of_mem blank member
    rw [strip, nothing, gone]
  · exact stripRight_append blank _

theorem Pads.strip_eq {part padded : Text} (pads : Pads part padded) :
    padded.strip = part.strip := by
  obtain ⟨front, back, frontBlank, backBlank, rfl⟩ := pads
  rw [strip_append_left frontBlank, strip_append_right backBlank]

theorem strip_eq_nil {text : Text} (blank : text.isAllBlank = true) : text.strip = [] := by
  have gone := strip_append_left blank []
  rw [List.append_nil] at gone
  rw [gone]
  rfl

theorem pads_strip (text : Text) : Pads text.strip text := by
  refine ⟨text.takeWhile isBlank, (text.stripLeft.reverse.takeWhile isBlank).reverse, ?_, ?_, ?_⟩
  · exact List.all_takeWhile
  · rw [isAllBlank, List.all_reverse]
    exact List.all_takeWhile
  · rw [strip, stripRight, ← List.reverse_append, List.takeWhile_append_dropWhile,
      List.reverse_reverse, stripLeft, List.takeWhile_append_dropWhile]

@[simp] theorem strip_strip (text : Text) : text.strip.strip = text.strip :=
  (pads_strip text).strip_eq.symm

/-- Whether a text that stands inside `depth` parentheses closes them all, and every literal and
every other parenthesis in it, with none of the separators outside of all. -/
inductive Balanced (separators : List Char) : Nat → Text → Prop
  | nil : Balanced separators 0 []
  | opening {depth : Nat} {rest : Text} (inside : Balanced separators (depth + 1) rest) :
    Balanced separators depth ('(' :: rest)
  | closing {depth : Nat} {rest : Text} (outside : Balanced separators depth rest) :
    Balanced separators (depth + 1) (')' :: rest)
  | literal {depth : Nat} {body content rest : Text} (stands : Literal.Stands body content)
    (after : Balanced separators depth rest) :
    Balanced separators depth (Literal.quote :: (body ++ Literal.quote :: rest))
  | other {depth : Nat} {c : Char} {rest : Text} (unquoted : c ≠ Literal.quote)
    (unopened : c ≠ '(') (unclosed : c ≠ ')') (kept : depth = 0 → c ∉ separators)
    (after : Balanced separators depth rest) : Balanced separators depth (c :: rest)

namespace Balanced

variable {separators others : List Char} {depth : Nat} {text rest : Text}

/-- One text after another. Separators are let through where the second text is inside of
parentheses. -/
theorem append {outer : Nat} (first : Balanced others depth text)
    (second : Balanced separators outer rest)
    (fewer : outer = 0 → ∀ c ∈ separators, c ∈ others) :
    Balanced separators (depth + outer) (text ++ rest) := by
  induction first with
  | nil => simpa using second
  | @opening depth text _ ih =>
    rw [Nat.add_right_comm] at ih
    exact .opening ih
  | @closing depth text _ ih =>
    rw [Nat.add_right_comm]
    exact .closing ih
  | literal stands _ ih =>
    rw [List.cons_append, List.append_assoc, List.cons_append]
    exact .literal stands ih
  | other unquoted unopened unclosed kept _ ih =>
    refine .other unquoted unopened unclosed (fun zero member => ?_) ih
    exact kept (by omega) (fewer (by omega) _ member)

theorem beside (first : Balanced separators 0 text) (second : Balanced separators 0 rest) :
    Balanced separators 0 (text ++ rest) :=
  first.append second fun _ _ => id

theorem parenthesized (inside : Balanced others 0 text) :
    Balanced separators 0 ('(' :: (text ++ [')'])) := by
  have closed : Balanced separators 1 [')'] := .closing .nil
  have whole := inside.append closed nofun
  exact .opening (by simpa using whole)

/-- Characters that are neither quotes, parentheses nor separators. -/
theorem of_plain (plain : ∀ c ∈ text, c ∉ separators ∧ c ∉ [Literal.quote, '(', ')']) :
    Balanced separators 0 text := by
  induction text with
  | nil => exact .nil
  | cons c text ih =>
    obtain ⟨kept, ordinary⟩ := plain c List.mem_cons_self
    simp only [List.mem_cons, List.not_mem_nil, or_false, not_or] at ordinary
    exact .other ordinary.1 ordinary.2.1 ordinary.2.2 (fun _ => kept)
      (ih fun d member => plain d (List.mem_cons_of_mem c member))

theorem mono (balanced : Balanced others depth text) (fewer : ∀ c ∈ separators, c ∈ others) :
    Balanced separators depth text := by
  simpa using balanced.append .nil fun _ => fewer

/-- Texts with a separator between them that is none of those to keep out. -/
theorem intercalate {separator : Char} (ordinary : separator ∉ [Literal.quote, '(', ')'])
    (free : separator ∉ separators) {texts : List Text}
    (each : ∀ text ∈ texts, Balanced separators 0 text) :
    Balanced separators 0 (List.intercalate [separator] texts) := by
  have point : Balanced separators 0 [separator] :=
    .of_plain fun c member => List.mem_singleton.mp member ▸ ⟨free, ordinary⟩
  induction texts with
  | nil => exact .nil
  | cons text more ih =>
    have later := ih fun other member => each other (List.mem_cons_of_mem text member)
    have first := each text List.mem_cons_self
    cases more with
    | nil => simpa using first
    | cons next more => exact first.beside (point.beside later)

theorem of_isAllBlank (visible : ∀ c ∈ separators, isBlank c = false)
    (blank : text.isAllBlank = true) : Balanced separators 0 text := by
  refine .of_plain fun c member => ?_
  have own := isBlank_of_mem blank member
  constructor
  · intro separator
    rw [visible c separator] at own
    cases own
  · intro special
    have each : ∀ c ∈ [Literal.quote, '(', ')'], isBlank c = false := by decide
    rw [each c special] at own
    cases own

theorem of_pads {part : Text} (balanced : Balanced separators 0 part) (pads : part.Pads text)
    (visible : ∀ c ∈ separators, isBlank c = false) : Balanced separators 0 text := by
  obtain ⟨front, back, frontBlank, backBlank, rfl⟩ := pads
  have rest := balanced.beside (of_isAllBlank visible backBlank)
  exact (of_isAllBlank visible frontBlank).beside rest

theorem of_cons_blank {c : Char} (balanced : Balanced separators depth (c :: text))
    (blank : isBlank c = true) : Balanced separators depth text := by
  cases balanced with
  | opening => cases (by decide : isBlank '(' = false).symm.trans blank
  | closing => cases (by decide : isBlank ')' = false).symm.trans blank
  | literal => cases (by decide : isBlank Literal.quote = false).symm.trans blank
  | other _ _ _ _ after => exact after

theorem of_append_blank {c : Char} (balanced : Balanced separators depth (text ++ [c]))
    (blank : isBlank c = true) : Balanced separators depth text := by
  generalize whole : text ++ [c] = long at balanced
  induction balanced generalizing text with
  | nil => cases text <;> cases whole
  | @opening depth rest _ ih =>
    cases text with
    | nil =>
      cases whole
      cases (by decide : isBlank '(' = false).symm.trans blank
    | cons d text =>
      cases whole
      exact .opening (ih rfl)
  | @closing depth rest _ ih =>
    cases text with
    | nil =>
      cases whole
      cases (by decide : isBlank ')' = false).symm.trans blank
    | cons d text =>
      cases whole
      exact .closing (ih rfl)
  | @literal depth body content rest stands after ih =>
    rcases List.eq_nil_or_concat' rest with rfl | ⟨front, last, rfl⟩
    · have same : text ++ [c] = (Literal.quote :: body) ++ [Literal.quote] := whole
      cases (List.append_inj' same rfl).2
      cases (by decide : isBlank Literal.quote = false).symm.trans blank
    · have same : text ++ [c] = (Literal.quote :: (body ++ Literal.quote :: front)) ++ [last] := by
        rw [whole]
        simp
      obtain ⟨rfl, ends⟩ := List.append_inj' same rfl
      cases ends
      exact .literal stands (ih rfl)
  | @other depth d rest unquoted unopened unclosed kept after ih =>
    cases text with
    | nil =>
      cases whole
      cases after
      exact .nil
    | cons d text =>
      cases whole
      exact .other unquoted unopened unclosed kept (ih rfl)

theorem strip (balanced : Balanced separators depth text) :
    Balanced separators depth text.strip := by
  obtain ⟨front, back, frontBlank, backBlank, whole⟩ := pads_strip text
  rw [whole] at balanced
  generalize text.strip = part at balanced
  have unfronted : Balanced separators depth (part ++ back) := by
    clear whole
    induction front with
    | nil => exact balanced
    | cons c front ih =>
      have each := List.all_eq_true.mp frontBlank
      refine ih (List.all_eq_true.mpr fun d member => each d (List.mem_cons_of_mem c member)) ?_
      exact of_cons_blank balanced (each c List.mem_cons_self)
  clear balanced whole
  induction back using List.reverseRecOn with
  | nil => simpa using unfronted
  | append_singleton back c ih =>
    have each := List.all_eq_true.mp backBlank
    refine ih (List.all_eq_true.mpr fun d member => each d (List.mem_append_left _ member)) ?_
    rw [← List.append_assoc] at unfronted
    exact of_append_blank unfronted (each c (List.mem_append_right _ List.mem_cons_self))

end Balanced

theorem pieces_cons {c : Char} (unquoted : c ≠ Literal.quote) (rest : Text) :
    pieces (c :: rest) = .outside c :: pieces rest := by
  rw [pieces, if_neg unquoted]

theorem pieces_literal {body content : Text} (stands : Literal.Stands body content) (rest : Text) :
    pieces (Literal.quote :: (body ++ Literal.quote :: rest)) = .literal body :: pieces rest := by
  rw [pieces, if_pos rfl]
  split
  · rename_i found closed
    rw [stands.close?_append] at closed
    cases closed
    rfl
  · rename_i unclosed
    rw [stands.close?_append] at unclosed
    cases unclosed

/-- No literal is left open by the pieces in front, so the scan starts afresh behind them. -/
theorem pieces_append_of_closed {front : Text} (closed : ∀ body, .unclosed body ∉ front.pieces)
    (rest : Text) : pieces (front ++ rest) = pieces front ++ pieces rest := by
  fun_induction pieces front with
  | case1 => rfl
  | case2 text body after found ih =>
    have stands := Literal.stands_of_close? found
    have later : ∀ body, .unclosed body ∉ pieces after := fun body inside =>
      closed body (List.mem_cons_of_mem _ inside)
    rw [Literal.eq_append_of_close? found, List.cons_append, List.append_assoc, List.cons_append,
      pieces_literal stands, ih later]
    rfl
  | case3 text _ => exact absurd List.mem_cons_self (closed text)
  | case4 c text unquoted ih =>
    have later : ∀ body, .unclosed body ∉ pieces text := fun body inside =>
      closed body (List.mem_cons_of_mem _ inside)
    rw [List.cons_append, pieces_cons unquoted, ih later]
    rfl

theorem Balanced.closed {separators : List Char} {depth : Nat} {text : Text}
    (balanced : Balanced separators depth text) (body : Text) : .unclosed body ∉ text.pieces := by
  induction balanced with
  | nil => simp [pieces]
  | opening _ ih | closing _ ih =>
    rw [pieces_cons (by decide)]
    simpa using ih
  | literal stands _ ih => simpa [pieces_literal stands] using ih
  | other unquoted _ _ _ _ ih => simpa [pieces_cons unquoted] using ih

section Closing

variable (opening position : Nat) (depth : Int) (rest : List Piece)

theorem closingFrom_opening :
    closingFrom opening depth position (.outside '(' :: rest) =
      closingFrom opening (depth + 1) (position + 1) rest := by
  simp [closingFrom, Piece.turn, Piece.length, Piece.text]

theorem closingFrom_closing :
    closingFrom opening depth position (.outside ')' :: rest) =
      if depth = 1 then .ok position else closingFrom opening (depth - 1) (position + 1) rest := by
  have bottom : depth + -1 = 0 ↔ depth = 1 := by omega
  simp [closingFrom, Piece.turn, Piece.length, Piece.text, bottom, Int.sub_eq_add_neg]

theorem closingFrom_literal (body : Text) :
    closingFrom opening depth position (.literal body :: rest) =
      closingFrom opening depth (position + (body.length + 2)) rest := by
  simp [closingFrom, Piece.turn, Piece.length, Piece.text]

theorem closingFrom_other {c : Char} (unopened : c ≠ '(') (unclosed : c ≠ ')') :
    closingFrom opening depth position (.outside c :: rest) =
      closingFrom opening depth (position + 1) rest := by
  simp [closingFrom, Piece.turn, Piece.length, Piece.text, unopened, unclosed]

end Closing

/-- The parenthesis around a balanced text is closed right after it. -/
theorem Balanced.closingFrom_eq {separators : List Char} {depth : Nat} {inner : Text}
    (balanced : Balanced separators depth inner) (opening position : Nat) (rest : Text) :
    closingFrom opening (depth + 1) position (pieces (inner ++ ')' :: rest)) =
      .ok (position + inner.length) := by
  induction balanced generalizing position with
  | nil =>
    rw [List.nil_append, pieces_cons (by decide), closingFrom_closing]
    rfl
  | @opening depth inner _ ih =>
    rw [List.cons_append, pieces_cons (by decide), closingFrom_opening]
    refine (ih (position + 1)).trans ?_
    rw [List.length_cons, Nat.add_assoc, Nat.add_comm 1]
  | @closing depth inner _ ih =>
    have inside : ((depth + 1 : Nat) : Int) + 1 ≠ 1 := by omega
    have higher : ((depth + 1 : Nat) : Int) + 1 - 1 = (depth : Int) + 1 := by omega
    rw [List.cons_append, pieces_cons (by decide), closingFrom_closing, if_neg inside, higher, ih,
      List.length_cons, Nat.add_assoc, Nat.add_comm 1]
  | @literal depth body content inner stands _ ih =>
    have size : (Literal.quote :: (body ++ Literal.quote :: inner)).length =
        body.length + 2 + inner.length := by
      simp only [List.length_cons, List.length_append]
      omega
    rw [List.cons_append, List.append_assoc, List.cons_append, pieces_literal stands,
      closingFrom_literal, ih, size, Nat.add_assoc]
  | other unquoted unopened unclosed _ _ ih =>
    rw [List.cons_append, pieces_cons unquoted, closingFrom_other _ _ _ _ unopened unclosed, ih,
      List.length_cons, Nat.add_assoc, Nat.add_comm 1]

/-- Where a parenthesis is found to be closed, what stands inside is balanced. -/
theorem exists_balanced_of_closingFrom {opening closing position depth : Nat} {text : Text}
    (found : closingFrom opening (depth + 1) position (pieces text) = .ok closing) :
    ∃ inner rest : Text, text = inner ++ ')' :: rest ∧ closing = position + inner.length ∧
      Balanced [] depth inner := by
  -- the depth is one more than the inner text's own, and falls to zero at the closing parenthesis
  fun_induction pieces text generalizing position depth with
  | case1 => cases found
  | case2 text body after closed ih =>
    rw [closingFrom_literal] at found
    obtain ⟨inner, rest, rfl, rfl, balanced⟩ := ih found
    refine ⟨Literal.quote :: (body ++ Literal.quote :: inner), rest, ?_, ?_, ?_⟩
    · rw [Literal.eq_append_of_close? closed]
      simp
    · simp only [List.length_cons, List.length_append]
      omega
    · exact .literal (Literal.stands_of_close? closed) balanced
  | case3 text _ => cases found
  | case4 c text unquoted ih =>
    by_cases closes : c = ')'
    · subst closes
      rw [closingFrom_closing] at found
      split at found
      · rename_i bottom
        cases found
        have zero : depth = 0 := by omega
        subst zero
        exact ⟨[], text, rfl, rfl, .nil⟩
      · rename_i inside
        obtain ⟨outer, rfl⟩ : ∃ outer, depth = outer + 1 := ⟨depth - 1, by omega⟩
        have higher : ((outer + 1 : Nat) : Int) + 1 - 1 = (outer : Int) + 1 := by omega
        rw [higher] at found
        obtain ⟨inner, rest, rfl, rfl, balanced⟩ := ih found
        refine ⟨')' :: inner, rest, rfl, ?_, .closing balanced⟩
        rw [List.length_cons, Nat.add_assoc, Nat.add_comm 1]
    · by_cases opens : c = '('
      · subst opens
        rw [closingFrom_opening] at found
        have deeper : closingFrom opening ((depth + 1 : Nat) + 1) (position + 1) (pieces text) =
            .ok closing := found
        obtain ⟨inner, rest, rfl, rfl, balanced⟩ := ih deeper
        refine ⟨'(' :: inner, rest, rfl, ?_, .opening balanced⟩
        rw [List.length_cons, Nat.add_assoc, Nat.add_comm 1]
      · rw [closingFrom_other _ _ _ _ opens closes] at found
        obtain ⟨inner, rest, rfl, rfl, balanced⟩ := ih found
        refine ⟨c :: inner, rest, rfl, ?_,
          .other unquoted opens closes (fun _ => List.not_mem_nil) balanced⟩
        rw [List.length_cons, Nat.add_assoc, Nat.add_comm 1]

section Runs

variable {separator : Char} (depth : Int) (rest : List Piece)

theorem runs_separator (ordinary : separator ∉ [Literal.quote, '(', ')']) :
    runs separator 0 (.outside separator :: rest) = [] :: runs separator 0 rest := by
  simp only [List.mem_cons, List.not_mem_nil, or_false, not_or] at ordinary
  simp [runs, Piece.turn, ordinary.2.1, ordinary.2.2]

theorem runs_opening :
    runs separator depth (.outside '(' :: rest) =
      (runs separator (depth + 1) rest).modifyHead (.outside '(' :: ·) := by
  simp [runs, Piece.turn]

theorem runs_closing :
    runs separator depth (.outside ')' :: rest) =
      (runs separator (depth - 1) rest).modifyHead (.outside ')' :: ·) := by
  simp [runs, Piece.turn, Int.sub_eq_add_neg]

theorem runs_literal (body : Text) :
    runs separator depth (.literal body :: rest) =
      (runs separator depth rest).modifyHead (.literal body :: ·) := by
  simp [runs, Piece.turn]

theorem runs_other {c : Char} (unopened : c ≠ '(') (unclosed : c ≠ ')')
    (kept : depth = 0 → c ≠ separator) :
    runs separator depth (.outside c :: rest) =
      (runs separator depth rest).modifyHead (.outside c :: ·) := by
  have inside : ¬ (c = separator ∧ depth = 0) := fun both => kept both.2 both.1
  simp [runs, Piece.turn, unopened, unclosed, inside]

end Runs

theorem runs_ne_nil (separator : Char) (depth : Int) (pieces : List Piece) :
    runs separator depth pieces ≠ [] := by
  cases pieces with
  | nil => exact List.cons_ne_nil _ _
  | cons piece rest =>
    rw [runs]
    split
    · exact List.cons_ne_nil _ _
    · exact fun empty => runs_ne_nil separator _ rest (List.modifyHead_eq_nil_iff.mp empty)

/-- A text without separators outside its parentheses stays in one run. -/
theorem Balanced.runs_append {separator : Char} {depth : Nat} {text : Text}
    (balanced : Balanced [separator] depth text) (rest : List Piece) :
    runs separator depth (pieces text ++ rest) =
      (runs separator 0 rest).modifyHead (pieces text ++ ·) := by
  induction balanced with
  | nil =>
    rw [pieces.eq_1]
    change runs separator 0 rest = _
    cases runs separator 0 rest <;> rfl
  | @opening depth text _ ih =>
    rw [pieces_cons (by decide), List.cons_append, runs_opening]
    have deeper : runs separator ((depth : Int) + 1) (pieces text ++ rest) = _ := ih
    rw [deeper, List.modifyHead_modifyHead]
    rfl
  | @closing depth text _ ih =>
    have higher : ((depth + 1 : Nat) : Int) - 1 = depth := by omega
    rw [pieces_cons (by decide), List.cons_append, runs_closing, higher, ih,
      List.modifyHead_modifyHead]
    rfl
  | literal stands _ ih =>
    rw [pieces_literal stands, List.cons_append, runs_literal, ih, List.modifyHead_modifyHead]
    rfl
  | @other depth c text unquoted unopened unclosed kept _ ih =>
    have inside : (depth : Int) = 0 → c ≠ separator := fun zero same =>
      kept (by omega) (List.mem_singleton.mpr same)
    rw [pieces_cons unquoted, List.cons_append, runs_other _ _ unopened unclosed inside, ih,
      List.modifyHead_modifyHead]
    rfl

/-- What is changed at its head is not empty. -/
theorem exists_cons_of_modifyHead {α : Type} {change : α → α} {xs ys : List α} {y : α}
    (changed : xs.modifyHead change = y :: ys) : ∃ x, xs = x :: ys ∧ y = change x := by
  cases xs with
  | nil => cases changed
  | cons x xs =>
    cases changed
    exact ⟨x, rfl, rfl⟩

/-- The runs of a balanced text have none of the separators outside their parentheses. -/
theorem Balanced.of_runs {separator : Char} {depth : Nat} {text : Text}
    (balanced : Balanced [] depth text) {first : List Piece} {others : List (List Piece)}
    (cut : runs separator depth (pieces text) = first :: others) :
    Balanced [separator] depth (first.flatMap Piece.text) ∧
      ∀ run ∈ others, Balanced [separator] 0 (run.flatMap Piece.text) := by
  induction balanced generalizing first others with
  | nil =>
    rw [pieces.eq_1] at cut
    cases cut
    exact ⟨.nil, List.forall_mem_nil _⟩
  | @opening depth text _ ih =>
    rw [pieces_cons (by decide), runs_opening] at cut
    obtain ⟨inner, left, rfl⟩ := exists_cons_of_modifyHead cut
    obtain ⟨own, later⟩ := ih left
    exact ⟨.opening own, later⟩
  | @closing depth text _ ih =>
    have higher : ((depth + 1 : Nat) : Int) - 1 = depth := by omega
    rw [pieces_cons (by decide), runs_closing, higher] at cut
    obtain ⟨inner, left, rfl⟩ := exists_cons_of_modifyHead cut
    obtain ⟨own, later⟩ := ih left
    exact ⟨.closing own, later⟩
  | literal stands _ ih =>
    rw [pieces_literal stands, runs_literal] at cut
    obtain ⟨inner, left, rfl⟩ := exists_cons_of_modifyHead cut
    obtain ⟨own, later⟩ := ih left
    refine ⟨?_, later⟩
    have whole := Balanced.literal stands own
    simpa [Piece.text] using whole
  | @other depth c text unquoted unopened unclosed _ after ih =>
    rw [pieces_cons unquoted] at cut
    -- only a separator outside of all parentheses starts a run, and the runs after it are those of
    -- the rest
    by_cases here : depth = 0 ∧ c = separator
    · obtain ⟨rfl, rfl⟩ := here
      have ordinary : c ∉ [Literal.quote, '(', ')'] := by simp [unquoted, unopened, unclosed]
      have cut : runs c 0 (.outside c :: pieces text) = first :: others := cut
      rw [runs_separator _ ordinary] at cut
      cases cut
      refine ⟨.nil, fun run member => ?_⟩
      obtain ⟨next, more, left⟩ := List.exists_cons_of_ne_nil (runs_ne_nil c 0 (pieces text))
      obtain ⟨own, later⟩ := ih left
      rw [left] at member
      rcases List.mem_cons.mp member with rfl | among
      · exact own
      · exact later run among
    · have kept : (depth : Int) = 0 → c ≠ separator := fun zero same =>
        here ⟨by omega, same⟩
      rw [runs_other _ _ unopened unclosed kept] at cut
      obtain ⟨inner, left, rfl⟩ := exists_cons_of_modifyHead cut
      obtain ⟨own, later⟩ := ih left
      refine ⟨.other unquoted unopened unclosed (fun zero member => ?_) own, later⟩
      exact here ⟨zero, List.mem_singleton.mp member⟩

/-- The runs of a text make it up again, with the separator between them. -/
theorem intercalate_runs (separator : Char) (depth : Int) (pieces : List Piece) :
    List.intercalate [separator]
        ((runs separator depth pieces).map fun run => run.flatMap Piece.text) =
      pieces.flatMap Piece.text := by
  induction pieces generalizing depth with
  | nil => rfl
  | cons piece rest ih =>
    rw [runs]
    split
    · rename_i here
      obtain ⟨next, more, left⟩ := List.exists_cons_of_ne_nil (runs_ne_nil separator depth rest)
      rw [List.flatMap_cons, ← ih depth, left, here.1]
      rfl
    · have later := ih (depth + piece.turn)
      cases left : runs separator (depth + piece.turn) rest with
      | nil => exact absurd left (runs_ne_nil separator _ rest)
      | cons next more =>
        rw [left] at later
        rw [List.flatMap_cons, ← later]
        cases more with
        | nil => simp
        | cons second more => simp [List.intercalate]

theorem mem_intercalate {separator c : Char} {texts : List Text} {text : Text} (inside : c ∈ text)
    (member : text ∈ texts) : c ∈ List.intercalate [separator] texts := by
  induction texts with
  | nil => cases member
  | cons first more ih =>
    cases more with
    | nil =>
      cases List.mem_singleton.mp member
      simpa using inside
    | cons next more =>
      have whole : List.intercalate [separator] (first :: next :: more) =
          first ++ separator :: List.intercalate [separator] (next :: more) := rfl
      rw [whole]
      rcases List.mem_cons.mp member with rfl | later
      · exact List.mem_append_left _ inside
      · exact List.mem_append_right _ (List.mem_cons_of_mem _ (ih later))

/-- Cutting loses nothing but the blanks around the parts: there are texts that make up the whole
with the separator between them, and the parts are these without the blanks at their ends. -/
theorem exists_intercalate_of_split {separator : Char} {text : Text} {parts : List Text}
    (cut : split separator text = .ok parts) :
    ∃ raws, raws ≠ [] ∧ text = List.intercalate [separator] raws ∧ parts = raws.map strip ∧
      (Balanced [] 0 text → ∀ raw ∈ raws, Balanced [separator] 0 raw) := by
  simp only [split] at cut
  split at cut
  · cases cut
  · cases cut
    refine ⟨(runs separator 0 text.pieces).map fun run => run.flatMap Piece.text, ?_, ?_, ?_, ?_⟩
    · simpa using runs_ne_nil separator 0 text.pieces
    · rw [intercalate_runs, flatMap_pieces]
    · rw [List.map_map]
      rfl
    · intro balanced raw member
      obtain ⟨run, among, rfl⟩ := List.mem_map.mp member
      obtain ⟨first, others, shape⟩ :=
        List.exists_cons_of_ne_nil (runs_ne_nil separator 0 text.pieces)
      obtain ⟨own, later⟩ := balanced.of_runs shape
      rw [shape] at among
      rcases List.mem_cons.mp among with rfl | after
      · exact own
      · exact later run after

/-- Pieces without an open literal let the search for one pass. -/
theorem unclosedFrom?_append {front : List Piece} (closed : ∀ body, .unclosed body ∉ front)
    (position : Nat) (rest : List Piece) :
    unclosedFrom? position (front ++ rest) =
      unclosedFrom? (position + (front.flatMap Piece.text).length) rest := by
  induction front generalizing position with
  | nil => rfl
  | cons piece front ih =>
    have later := ih (fun body inside => closed body (List.mem_cons_of_mem piece inside))
      (position + piece.length)
    rw [List.flatMap_cons, List.length_append, ← Nat.add_assoc]
    cases piece with
    | unclosed body => exact absurd List.mem_cons_self (closed body)
    | outside | literal => exact later

/-- A text that leaves no literal open is cut into its runs. -/
theorem split_of_closed {separator : Char} {text : Text}
    (closed : ∀ body, .unclosed body ∉ text.pieces) :
    split separator text =
      .ok ((runs separator 0 text.pieces).map fun run => strip (run.flatMap Piece.text)) := by
  have ends := unclosedFrom?_append closed 0 []
  rw [List.append_nil] at ends
  rw [split, ends]
  rfl

/-- Balanced texts with separators between them are runs of their own. -/
theorem runs_intercalate {separator : Char} (ordinary : separator ∉ [Literal.quote, '(', ')'])
    {raws : List Text} (some_raw : raws ≠ [])
    (balanced : ∀ raw ∈ raws, Balanced [separator] 0 raw) :
    runs separator 0 (pieces (List.intercalate [separator] raws)) = raws.map pieces := by
  have unquoted : separator ≠ Literal.quote := fun same => ordinary (by simp [same])
  induction raws with
  | nil => exact absurd rfl some_raw
  | cons raw more ih =>
    have own := balanced raw List.mem_cons_self
    have run (rest : List Piece) : runs separator 0 (pieces raw ++ rest) = _ :=
      own.runs_append rest
    cases more with
    | nil =>
      have alone := run []
      rw [List.append_nil] at alone
      rw [List.intercalate_singleton, alone]
      simp [runs]
    | cons next more =>
      have later := ih (List.cons_ne_nil next more) fun other member =>
        balanced other (List.mem_cons_of_mem raw member)
      have whole : List.intercalate [separator] (raw :: next :: more) =
          raw ++ separator :: List.intercalate [separator] (next :: more) := rfl
      rw [whole, pieces_append_of_closed own.closed, pieces_cons unquoted, run,
        runs_separator _ ordinary, later]
      simp

/-- Balanced texts with separators between them are cut apart again. -/
theorem split_intercalate {separator : Char} (ordinary : separator ∉ [Literal.quote, '(', ')'])
    {raws : List Text} (some_raw : raws ≠ [])
    (balanced : ∀ raw ∈ raws, Balanced [separator] 0 raw) :
    split separator (List.intercalate [separator] raws) = .ok (raws.map strip) := by
  have whole : Balanced [] 0 (List.intercalate [separator] raws) :=
    .intercalate ordinary List.not_mem_nil fun raw member => (balanced raw member).mono nofun
  rw [split_of_closed whole.closed, runs_intercalate ordinary some_raw balanced, List.map_map]
  refine congrArg _ (List.map_congr_left fun raw _ => ?_)
  rw [Function.comp_apply, flatMap_pieces]

end Text
end SceneFormula
