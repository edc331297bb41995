import SceneFormula.Proofs.SlotOrder

set_option autoImplicit false

namespace SceneFormula

/-- The words of what follows a text are the last words of both together. -/
theorem Text.wordsAfter_suffix (front rest : Text) (previous : Option Char) :
    wordsAfter (front.getLast?.or previous) rest <:+ wordsAfter previous (front ++ rest) := by
  induction front generalizing previous with
  | nil => exact List.suffix_rfl
  | cons c front ih =>
    rw [getLast?_cons_or, List.cons_append, wordsAfter]
    split
    · exact (ih (some c)).trans (List.suffix_cons _ _)
    · exact ih (some c)

namespace Token

theorem startsAfter_eq_false_of_number {s front mid : Text} {c : Char} {previous : Option Char}
    (positive : 0 < numberLength s) (inside : s.take (numberLength s) = front ++ c :: mid) :
    Name.startsAfter (front.getLast?.or previous) (c :: (mid ++ s.drop (numberLength s))) =
      false := by
  rw [Bool.eq_false_iff]
  intro starts
  have whole : s = front ++ c :: (mid ++ s.drop (numberLength s)) := by
    conv => lhs; rw [← List.take_append_drop (numberLength s) s, inside]
    simp
  have last : (s.take (numberLength s)).getLast?.or previous = mid.getLast?.or (some c) := by
    rw [inside, List.getLast?_append, Option.or_assoc, ← Text.getLast?_cons_or c mid none,
      Option.or_none]
    simp [List.getLast?_cons]
  have words := congrArg List.length (wordsAfter_number previous positive)
  have front_le := (Text.wordsAfter_suffix front (c :: (mid ++ s.drop (numberLength s)))
    previous).length_le
  have mid_le := (Text.wordsAfter_suffix mid (s.drop (numberLength s)) (some c)).length_le
  rw [← whole, Text.wordsAfter, if_pos starts, List.length_cons] at front_le
  rw [last] at words
  omega

theorem startsAfter_eq_false_of_inside {s front mid : Text} {c : Char} {previous : Option Char}
    {make : Text → Token} {size : Nat} (found : front? s = some (make, size)) (ne : front ≠ [])
    (inside : s.take size = front ++ c :: mid) :
    Name.startsAfter (front.getLast?.or previous) (c :: (mid ++ s.drop size)) = false := by
  have among : c ∈ s.take size := by simp [inside]
  rcases front?_eq_some found with
    ⟨rfl, blanks⟩ | ⟨rfl, number⟩ | ⟨rfl, b, tail, word, first, long⟩ | ⟨rfl, operators⟩
  · rw [Name.startsAfter_cons, isNameStart_eq_false_of_isBlank (blanks c among), Bool.false_and]
  · rw [number] at inside ⊢
    exact startsAfter_eq_false_of_number (number ▸ front?_pos found) inside
  · -- All characters of a word are parts of it, so the one before blocks a name.
    obtain ⟨init, d, rfl⟩ := (List.eq_nil_or_concat' front).resolve_left ne
    have part : isNamePart d = true := by
      have member : d ∈ s.take size := by simp [inside]
      rw [word, long, List.take_succ_cons, take_length_takeWhile] at member
      rcases List.mem_cons.mp member with rfl | later
      · exact isNamePart_of_isNameStart first
      · exact of_mem_takeWhile later
    rw [Name.startsAfter_cons, List.getLast?_concat, Option.some_or, Option.any_some,
      blocks_of_isNamePart part, Bool.not_true, Bool.and_false]
  · rw [Name.startsAfter_cons, (isNameStart_eq_false_of_operator (operators c among)).1,
      Bool.false_and]

/-- A name starts in a text only behind its first token, or with it. -/
theorem size_le_of_startsAfter {s front rest : Text} {previous : Option Char}
    {make : Text → Token} {size : Nat} (found : front? s = some (make, size)) (ne : front ≠ [])
    (split : s = front ++ rest)
    (starts : Name.startsAfter (front.getLast?.or previous) rest = true) : size ≤ front.length := by
  by_contra near
  cases rest with
  | nil => cases starts
  | cons c after =>
    obtain ⟨beyond, rfl⟩ : ∃ beyond, size = front.length + (beyond + 1) :=
      ⟨size - front.length - 1, by omega⟩
    have inside : s.take (front.length + (beyond + 1)) = front ++ c :: after.take beyond := by
      rw [split, List.take_length_add_append, List.take_succ_cons]
    have left : s.drop (front.length + (beyond + 1)) = after.drop beyond := by
      rw [split, List.drop_length_add_append, List.drop_succ_cons]
    have quiet : Name.startsAfter (front.getLast?.or previous)
        (c :: (after.take beyond ++ s.drop (front.length + (beyond + 1)))) = false :=
      startsAfter_eq_false_of_inside found ne inside
    rw [left, List.take_append_drop, starts] at quiet
    cases quiet

theorem cut_of_startsAfter {s front rest : Text} {previous : Option Char} (whole : (cut s).2 = [])
    (split : s = front ++ rest)
    (starts : Name.startsAfter (front.getLast?.or previous) rest = true) :
    (cut rest).1 <:+ (cut s).1 ∧ (cut rest).2 = [] := by
  induction s using cut_induction generalizing front previous with
  | stop s found =>
    rw [cut_eq_self_of_front? found] at whole
    have whole : s = [] := whole
    rw [whole] at split
    obtain ⟨rfl, rfl⟩ := List.append_eq_nil_iff.mp split.symm
    cases starts
  | token s make size found ih =>
    by_cases ne : front = []
    · subst ne
      rw [split, List.nil_append] at whole ⊢
      exact ⟨List.suffix_rfl, whole⟩
    · have far := size_le_of_startsAfter found ne split starts
      have dropped : s.drop size = front.drop size ++ rest := by
        rw [split, List.drop_append_of_le_length far]
      rw [cut_of_front? found] at whole ⊢
      rw [← List.take_append_drop size front, List.getLast?_append, Option.or_assoc] at starts
      obtain ⟨suffix, done⟩ := ih whole dropped starts
      exact ⟨suffix.trans (List.suffix_cons _ _), done⟩

theorem quote_not_mem_of_cut {s : Text} (whole : (cut s).2 = []) : Literal.quote ∉ s := by
  induction s using cut_induction with
  | stop s found =>
    rw [cut_eq_self_of_front? found] at whole
    have whole : s = [] := whole
    rw [whole]
    exact List.not_mem_nil
  | token s make size found ih =>
    rw [cut_of_front? found] at whole
    rw [← List.take_append_drop size s, List.mem_append]
    refine fun inside => inside.elim (fun first => ?_) (ih whole)
    rcases front?_eq_some found with
      ⟨-, blanks⟩ | ⟨-, number⟩ | ⟨-, c, rest, rfl, start, long⟩ | ⟨-, operators⟩
    · exact absurd (blanks _ first) (by decide)
    · rw [number, numberLength] at first
      split at first
      · cases first
      · rw [List.take_add, List.mem_append] at first
        rcases first with decimal | exponent
        · exact (of_mem_take_decimalLength decimal).elim (by decide) (by decide)
        · exact (of_mem_take_exponentLength exponent).elim (by decide) (by decide)
    · rw [long, List.take_succ_cons, take_length_takeWhile] at first
      rcases List.mem_cons.mp first with rfl | part
      · exact absurd start (by decide)
      · exact absurd (of_mem_takeWhile part) (by decide)
    · exact absurd (operators _ first) (by decide)

theorem isDecimalDigit_eq_false_of_isNameStart {c : Char} (start : isNameStart c = true) :
    isDecimalDigit c = false := by
  rw [Bool.eq_false_iff]
  intro digit
  rw [isNameStart_eq_false_of_isDecimalDigit digit] at start
  cases start

theorem front?_of_isNameStart {c : Char} (start : isNameStart c = true) (rest : Text) :
    front? (c :: rest) = some (name, 1 + (rest.takeWhile isNamePart).length) := by
  have visible : isBlank c = false := by
    rw [Bool.eq_false_iff]
    intro blank
    rw [isNameStart_eq_false_of_isBlank blank] at start
    cases start
  have digit := isDecimalDigit_eq_false_of_isNameStart start
  have point : c ≠ '.' := by
    rintro rfl
    exact absurd start (by decide)
  have none : numberLength (c :: rest) = 0 := by
    simp [numberLength, decimalLength, digit, point]
  simp [front?, visible, none, start]

theorem front?_point {d : Char} (start : isNameStart d = true) (rest : Text) :
    front? ('.' :: d :: rest) = none := by
  have digit := isDecimalDigit_eq_false_of_isNameStart start
  have plain : isBlank '.' = false ∧ isDecimalDigit '.' = false ∧ isNameStart '.' = false ∧
      '.' ∉ operatorCharacters := by decide
  have none : numberLength ('.' :: d :: rest) = 0 := by
    simp [numberLength, decimalLength, plain.2.1, digit]
  simp [front?, plain, none]

/-- In a text that is cut whole, a name is a token by itself, without an object. -/
theorem name_of_front? {s : Text} {made : Name} (whole : (cut s).2 = [])
    (named : Name.front? s = some made) :
    made.object? = none ∧ (cut s).1.head? = some (name made.text) := by
  have text := Name.text_append_drop_of_front? named
  obtain ⟨c, rest, rfl, start, rfl | ⟨d, tail, next, rfl⟩⟩ := Name.front?_eq_some named
  · refine ⟨rfl, ?_⟩
    rw [cut_of_front? (front?_of_isNameStart start rest), List.head?_cons, Nat.add_comm,
      List.take_succ_cons, take_length_takeWhile]
    rfl
  · exfalso
    rw [cut_of_front? (front?_of_isNameStart start rest), Nat.add_comm, List.drop_succ_cons,
      drop_length_takeWhile] at whole
    generalize (c :: rest).drop _ = after at text
    have behind : rest.dropWhile isNamePart = '.' :: d :: (tail.takeWhile isNamePart ++ after) := by
      refine (List.append_right_inj (c :: rest.takeWhile isNamePart)).mp ?_
      rw [List.cons_append, List.takeWhile_append_dropWhile, ← text]
      simp [Name.text]
    rw [behind, cut_eq_self_of_front? (front?_point next _)] at whole
    cases whole

/-- Where a name starts in a text that is cut whole, it is one of the names that are cut. -/
theorem mem_names_of_startsAfter {s front rest : Text} {previous : Option Char} {made : Name}
    (whole : (cut s).2 = []) (split : s = front ++ rest)
    (starts : Name.startsAfter (front.getLast?.or previous) rest = true)
    (named : Name.front? rest = some made) :
    made.object? = none ∧ made.text ∈ names (cut s).1 := by
  obtain ⟨suffix, done⟩ := cut_of_startsAfter whole split starts
  obtain ⟨free, first⟩ := name_of_front? done named
  exact ⟨free, List.mem_filterMap.mpr ⟨_, suffix.subset (List.mem_of_head? first), rfl⟩⟩

end Token

end SceneFormula
