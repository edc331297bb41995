import Mathlib.Data.List.DropRight
import Mathlib.Data.List.TakeWhile
import SceneFormula.Formula.Lexeme
import SceneFormula.Proofs.Balance
import SceneFormula.Proofs.Word

set_option autoImplicit false

namespace SceneFormula

theorem isDecimalDigit_eq_false_of_isBlank {c : Char} (blank : isBlank c = true) :
    isDecimalDigit c = false := by
  rw [Bool.eq_false_iff]
  intro digit
  have blocks := blocks_of_isDecimalDigit digit
  rw [blocks_eq_false_of_isBlank blank] at blocks
  cases blocks

theorem isNamePart_eq_false_of_isBlank {c : Char} (blank : isBlank c = true) :
    isNamePart c = false := by
  rw [Bool.eq_false_iff]
  intro part
  have blocks := blocks_of_isNamePart part
  rw [blocks_eq_false_of_isBlank blank] at blocks
  cases blocks

namespace Text

variable {back : Text}

/-- Blanks behind a text do not go on with a run of other characters. -/
theorem takeWhile_append_blank (blank : back.isAllBlank = true) {p : Char → Bool}
    (apart : ∀ c, isBlank c = true → p c = false) (text : Text) :
    (text ++ back).takeWhile p = text.takeWhile p := by
  have none : back.takeWhile p = [] := by
    cases back with
    | nil => rfl
    | cons c back =>
      rw [List.takeWhile_cons, apart c (isBlank_of_mem blank List.mem_cons_self)]
      rfl
  rw [List.takeWhile_append, none, List.append_nil]
  split
  · rename_i whole
    exact ((List.takeWhile_prefix p).eq_of_length whole).symm
  · rfl

theorem head?_append_blank_iff (blank : back.isAllBlank = true) {c : Char}
    (visible : isBlank c = false) (text : Text) :
    (text ++ back).head? = some c ↔ text.head? = some c := by
  cases text with
  | nil =>
    refine iff_of_false (fun head => ?_) nofun
    obtain ⟨rest, rfl⟩ := List.head?_eq_some_iff.mp head
    rw [isBlank_of_mem blank List.mem_cons_self] at visible
    cases visible
  | cons d text => rfl

end Text

namespace Token

variable {back : Text}

theorem decimalLength_append_blank (blank : back.isAllBlank = true) (s : Text) :
    decimalLength (s ++ back) = decimalLength s := by
  have digits (t : Text) : (t ++ back).takeWhile isDecimalDigit = t.takeWhile isDecimalDigit :=
    Text.takeWhile_append_blank blank (fun c => isDecimalDigit_eq_false_of_isBlank) t
  have short : (s.takeWhile isDecimalDigit).length ≤ s.length :=
    (List.takeWhile_prefix _).length_le
  simp only [decimalLength, digits, List.drop_append_of_le_length short]
  generalize s.drop (s.takeWhile isDecimalDigit).length = rest
  cases rest with
  | nil =>
    cases back with
    | nil => rfl
    | cons c back =>
      rw [List.nil_append]
      have own : isBlank c = true := Text.isBlank_of_mem blank List.mem_cons_self
      split
      · rename_i same
        cases same
        exact absurd own (by decide)
      · rfl
  | cons c rest =>
    rw [List.cons_append]
    by_cases point : c = '.'
    · subst point
      simp only [digits]
    · split
      · rename_i same
        cases same
        exact absurd rfl point
      · split
        · rename_i same
          cases same
          exact absurd rfl point
        · rfl

theorem exponentLength_append_blank (blank : back.isAllBlank = true) (s : Text) :
    exponentLength (s ++ back) = exponentLength s := by
  have digits (t : Text) : (t ++ back).takeWhile isDecimalDigit = t.takeWhile isDecimalDigit :=
    Text.takeWhile_append_blank blank (fun c => isDecimalDigit_eq_false_of_isBlank) t
  cases s with
  | nil =>
    cases back with
    | nil => rfl
    | cons c back =>
      have own : isBlank c = true := Text.isBlank_of_mem blank List.mem_cons_self
      have unmarked : ¬ (c = 'e' ∨ c = 'E') := by
        rintro (rfl | rfl) <;> exact absurd own (by decide)
      simp [exponentLength, unmarked]
  | cons mark rest =>
    cases rest with
    | nil =>
      cases back with
      | nil => rfl
      | cons c back =>
        have own : isBlank c = true := Text.isBlank_of_mem blank List.mem_cons_self
        have unsigned : ¬ (c = '+' ∨ c = '-') := by
          rintro (rfl | rfl) <;> exact absurd own (by decide)
        simp [exponentLength, unsigned, isDecimalDigit_eq_false_of_isBlank own]
    | cons d rest =>
      have cut (sign : Nat) (small : sign ≤ 1) :
          ((d :: (rest ++ back)).drop sign).takeWhile isDecimalDigit =
            ((d :: rest).drop sign).takeWhile isDecimalDigit := by
        rw [← List.cons_append, List.drop_append_of_le_length (by simp; omega), digits]
      simp only [exponentLength, List.cons_append]
      split
      · rw [cut]
        split <;> omega
      · rfl

theorem decimalLength_le (s : Text) : decimalLength s ≤ s.length := by
  have whole := (List.takeWhile_prefix (l := s) isDecimalDigit).length_le
  simp only [decimalLength]
  split
  · rename_i rest dotted
    have fraction := (List.takeWhile_prefix (l := rest) isDecimalDigit).length_le
    have size := congrArg List.length dotted
    simp only [List.length_drop, List.length_cons] at size
    split <;> omega
  · exact whole

theorem numberLength_append_blank (blank : back.isAllBlank = true) (s : Text) :
    numberLength (s ++ back) = numberLength s := by
  have short := decimalLength_le s
  simp only [numberLength, decimalLength_append_blank blank, List.drop_append_of_le_length short,
    exponentLength_append_blank blank]

theorem exponentLength_le (s : Text) : exponentLength s ≤ s.length := by
  match s with
  | [] => exact Nat.zero_le _
  | [mark] => simp [exponentLength]
  | mark :: d :: rest =>
    simp only [exponentLength]
    split
    · have digits (sign : Nat) := (List.takeWhile_prefix (l := (d :: rest).drop sign)
        isDecimalDigit).length_le
      simp only [List.length_drop, List.length_cons] at digits ⊢
      split
      · have := digits 1
        split <;> omega
      · have := digits 0
        split <;> omega
    · exact Nat.zero_le _

theorem size_le_of_front? {s : Text} {make : Text → Token} {size : Nat}
    (found : front? s = some (make, size)) : size ≤ s.length := by
  cases s with
  | nil => cases found
  | cons c rest =>
    have run (p : Char → Bool) := (List.takeWhile_prefix (l := rest) p).length_le
    have blanks := run isBlank
    have parts := run isNamePart
    simp only [front?] at found
    split at found
    · cases found
      simp only [List.length_cons]
      omega
    · split at found
      · cases found
        have decimal := decimalLength_le (c :: rest)
        have exponent := exponentLength_le ((c :: rest).drop (decimalLength (c :: rest)))
        rw [List.length_drop] at exponent
        simp only [numberLength]
        split <;> omega
      · split at found
        · cases found
          simp only [List.length_cons]
          omega
        · split at found
          · rename_i stars
            cases found
            cases rest with
            | nil => cases stars.2
            | cons d rest => simp
          · split at found
            · cases found
              simp
            · cases found

/-- Blanks behind a text that ends with something else do not change its first token. -/
theorem front?_append_blank (blank : back.isAllBlank = true) {s : Text} {last : Char}
    (ends : s.getLast? = some last) (visible : isBlank last = false) :
    front? (s ++ back) = front? s := by
  cases s with
  | nil => cases ends
  | cons c rest =>
    have names : (rest ++ back).takeWhile isNamePart = rest.takeWhile isNamePart :=
      Text.takeWhile_append_blank blank (fun c => isNamePart_eq_false_of_isBlank) rest
    have number := numberLength_append_blank blank (c :: rest)
    rw [List.cons_append] at number
    have star := Text.head?_append_blank_iff blank (by decide : isBlank '*' = false) rest
    have blanks (own : isBlank c = true) :
        (rest ++ back).takeWhile isBlank = rest.takeWhile isBlank := by
      have short : (rest.takeWhile isBlank).length ≠ rest.length := by
        intro whole
        have all : ∀ d ∈ rest, isBlank d = true := fun d member =>
          of_mem_takeWhile ((List.takeWhile_prefix isBlank).eq_of_length whole ▸ member)
        have both : ∀ d ∈ c :: rest, isBlank d = true := List.forall_mem_cons.mpr ⟨own, all⟩
        rw [both last (List.mem_of_getLast? ends)] at visible
        cases visible
      rw [List.takeWhile_append, if_neg short]
    simp only [List.cons_append, front?, names, number, star]
    split
    · rename_i own
      rw [blanks own]
    · rfl

/-- The token that blanks are, if there are any. -/
def ofBlanks (blanks : Text) : List Token :=
  if blanks = [] then [] else [blank blanks]

/-- Blanks in front of a text are a token of their own. -/
theorem cut_blank_append {front : Text} (all : front.isAllBlank = true) {s : Text}
    (visible : ∀ c, s.head? = some c → isBlank c = false) :
    cut (front ++ s) = (ofBlanks front ++ (cut s).1, (cut s).2) := by
  cases front with
  | nil => rfl
  | cons c front =>
    have own : isBlank c = true := Text.isBlank_of_mem all List.mem_cons_self
    have run : (front ++ s).takeWhile isBlank = front :=
      takeWhile_append_of_ends
        (fun d member => Text.isBlank_of_mem all (List.mem_cons_of_mem c member)) visible
    have found : front? (c :: (front ++ s)) = some (blank, front.length + 1) := by
      rw [front?, if_pos own, run, Nat.add_comm]
    rw [List.cons_append, cut_of_front? found]
    simp [ofBlanks]

/-- Blanks behind a text that is cut into tokens are a token of their own. -/
theorem cut_append_blank {back : Text} (all : back.isAllBlank = true) {s : Text}
    (visible : ∀ c, s.getLast? = some c → isBlank c = false) :
    cut (s ++ back) =
      if (cut s).2 = [] then ((cut s).1 ++ ofBlanks back, [])
      else ((cut s).1, (cut s).2 ++ back) := by
  induction s using cut_induction with
  | stop s found =>
    cases last : s.getLast? with
    | none =>
      cases List.getLast?_eq_none_iff.mp last
      have nothing : cut [] = ([], []) := cut_eq_self_of_front? rfl
      have only := cut_blank_append (s := []) all nofun
      rw [List.append_nil, nothing] at only
      rw [List.nil_append, only, nothing]
      simp
    | some c =>
      have same := front?_append_blank all last (visible c last)
      rw [found] at same
      rw [cut_eq_self_of_front? same, cut_eq_self_of_front? found, if_neg]
      rintro rfl
      cases last
  | token s make size found ih =>
    cases last : s.getLast? with
    | none =>
      cases List.getLast?_eq_none_iff.mp last
      exact absurd rfl (front?_ne_nil found)
    | some c =>
      have same := front?_append_blank all last (visible c last)
      rw [found] at same
      have short : size ≤ s.length := size_le_of_front? found
      have later := ih (fun d ends => visible d (by
        rw [List.getLast?_drop] at ends
        split at ends
        · cases ends
        · exact ends))
      rw [cut_of_front? same, cut_of_front? found, List.take_append_of_le_length short,
        List.drop_append_of_le_length short, later]
      split <;> rfl

end Token

theorem Lexeme.trimBlanks_ofBlanks (front back : Text) (tokens : List Token) :
    trimBlanks (Token.ofBlanks front ++ (tokens ++ Token.ofBlanks back)) = trimBlanks tokens := by
  have gone (blanks : Text) (rest : List Token) (p : Token → Bool)
      (all : ∀ text, p (.blank text) = true) :
      (Token.ofBlanks blanks ++ rest).dropWhile p = rest.dropWhile p := by
    unfold Token.ofBlanks
    split
    · rfl
    · rw [List.singleton_append, List.dropWhile_cons_of_pos (all blanks)]
  have turned (blanks : Text) : (Token.ofBlanks blanks).reverse = Token.ofBlanks blanks := by
    unfold Token.ofBlanks
    split <;> rfl
  simp only [trimBlanks]
  rw [gone front _ _ fun _ => rfl, List.dropWhile_append]
  split
  · rename_i empty
    rw [List.isEmpty_iff.mp empty, ← List.append_nil (Token.ofBlanks back),
      gone back _ _ fun _ => rfl]
    rfl
  · rw [List.reverse_append, turned, gone back _ _ fun _ => rfl]

theorem Token.names_ofBlanks (front back : Text) (tokens : List Token) :
    names (ofBlanks front ++ (tokens ++ ofBlanks back)) = names tokens := by
  have none (blanks : Text) : names (ofBlanks blanks) = [] := by
    unfold ofBlanks
    split <;> rfl
  have append (first rest : List Token) : names (first ++ rest) = names first ++ names rest :=
    List.filterMap_append
  rw [append, append, none, none, List.nil_append, List.append_nil]

namespace Text

theorem isBlank_of_getLast?_strip {text : Text} {c : Char} (last : text.strip.getLast? = some c) :
    isBlank c = false := by
  have stopped := List.head?_dropWhile_not isBlank text.stripLeft.reverse
  rw [strip, stripRight, List.getLast?_reverse] at last
  rw [last] at stopped
  exact stopped

theorem isBlank_of_head?_strip {text : Text} {c : Char} (head : text.strip.head? = some c) :
    isBlank c = false := by
  obtain ⟨rest, whole⟩ := List.head?_eq_some_iff.mp head
  obtain ⟨back, left⟩ : text.strip <+: text.stripLeft := List.rdropWhile_prefix isBlank _
  have stopped := List.head?_dropWhile_not isBlank text
  have first : text.stripLeft.head? = some c := by rw [← left, whole]; rfl
  rw [stripLeft] at first
  rw [first] at stopped
  exact stopped

theorem isAllBlank_of_strip_eq_nil {text : Text} (empty : text.strip = []) :
    text.isAllBlank = true := by
  obtain ⟨front, back, frontBlank, backBlank, whole⟩ := pads_strip text
  rw [whole, empty, List.nil_append, isAllBlank, List.all_append, Bool.and_eq_true]
  exact ⟨frontBlank, backBlank⟩

end Text

/-- A text has the tokens that it has without the blanks at its ends, and tokens for these. -/
theorem Token.exists_cut_strip (text : Text) :
    ∃ front back rest, cut text = (ofBlanks front ++ ((cut text.strip).1 ++ ofBlanks back), rest) ∧
      rest.head? = (cut text.strip).2.head? := by
  obtain ⟨front, back, frontBlank, backBlank, whole⟩ := text.pads_strip
  by_cases empty : text.strip = []
  · have nothing : cut [] = ([], []) := cut_eq_self_of_front? rfl
    have only := cut_blank_append (s := []) (Text.isAllBlank_of_strip_eq_nil empty) nofun
    rw [List.append_nil, nothing] at only
    rw [empty, nothing, only]
    exact ⟨text, [], [], rfl, rfl⟩
  have visible (c : Char) (last : text.strip.getLast? = some c) : isBlank c = false :=
    Text.isBlank_of_getLast?_strip last
  have later := cut_append_blank backBlank visible
  have first := cut_blank_append frontBlank (s := text.strip ++ back) fun c head => by
    rw [List.head?_append_of_ne_nil _ empty] at head
    exact Text.isBlank_of_head?_strip head
  rw [← whole, later] at first
  rw [first]
  split
  · rename_i cut
    exact ⟨front, back, [], rfl, by rw [cut]⟩
  · rename_i left
    exact ⟨front, [], _, by rw [ofBlanks, ofBlanks, if_pos rfl, List.append_nil],
      List.head?_append_of_ne_nil _ left⟩

end SceneFormula
