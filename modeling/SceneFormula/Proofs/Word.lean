import SceneFormula.Proofs.Character

set_option autoImplicit false

namespace SceneFormula

theorem take_length_takeWhile (p : Char → Bool) (text : Text) :
    text.take (text.takeWhile p).length = text.takeWhile p :=
  (List.prefix_iff_eq_take.mp (List.takeWhile_prefix p)).symm

theorem drop_length_takeWhile (p : Char → Bool) (text : Text) :
    text.drop (text.takeWhile p).length = text.dropWhile p := by
  have whole := List.takeWhile_append_dropWhile (p := p) (l := text)
  conv => lhs; arg 2; rw [← whole]
  exact List.drop_left

theorem of_mem_takeWhile {p : Char → Bool} {text : Text} {c : Char}
    (member : c ∈ text.takeWhile p) : p c = true :=
  List.all_eq_true.mp List.all_takeWhile c member

/-- The characters at the front that a class holds, where the next one is not of the class. -/
theorem takeWhile_append_of_ends {p : Char → Bool} {front rest : Text}
    (inside : ∀ c ∈ front, p c = true) (ends : ∀ c, rest.head? = some c → p c = false) :
    (front ++ rest).takeWhile p = front := by
  rw [List.takeWhile_append_of_pos inside]
  cases rest with
  | nil => simp
  | cons c rest => simp [ends c rfl]

namespace Text

def wordsAfter (previous : Option Char) : Text → List Text
  | [] => []
  | c :: rest =>
    if Name.startsAfter previous (c :: rest) then
      (c :: rest.takeWhile isNamePart) :: wordsAfter (some c) rest
    else wordsAfter (some c) rest

theorem getLast?_cons_or (c : Char) (rest : Text) (previous : Option Char) :
    (c :: rest).getLast?.or previous = rest.getLast?.or (some c) := by
  cases rest with
  | nil => rfl
  | cons d rest => simp [List.getLast?_cons]

theorem wordsAfter_append_of_not_start {front : Text} (previous : Option Char) (rest : Text)
    (quiet : ∀ c ∈ front, isNameStart c = false) :
    wordsAfter previous (front ++ rest) = wordsAfter (front.getLast?.or previous) rest := by
  induction front generalizing previous with
  | nil => rfl
  | cons c front ih =>
    have none : Name.startsAfter previous (c :: (front ++ rest)) = false := by
      simp [Name.startsAfter_cons, quiet c List.mem_cons_self]
    rw [List.cons_append, wordsAfter, none, getLast?_cons_or]
    exact ih (some c) fun d member => quiet d (List.mem_cons_of_mem c member)

/-- Characters that block each other's names have no words after a character that blocks. -/
theorem wordsAfter_append_of_blocks {front : Text} {previous : Option Char} (rest : Text)
    (blocked : previous.any Name.blocks = true) (each : ∀ c ∈ front, Name.blocks c = true) :
    wordsAfter previous (front ++ rest) = wordsAfter (front.getLast?.or previous) rest := by
  induction front generalizing previous with
  | nil => rfl
  | cons c front ih =>
    have none : Name.startsAfter previous (c :: (front ++ rest)) = false := by
      simp [Name.startsAfter_cons, blocked]
    rw [List.cons_append, wordsAfter, none, getLast?_cons_or]
    exact ih (each c List.mem_cons_self) fun d member => each d (List.mem_cons_of_mem c member)

/-- Where a name starts, the run of name characters is a word, and none starts inside it. -/
theorem wordsAfter_of_startsAfter {previous : Option Char} {c : Char} {rest : Text}
    (starts : Name.startsAfter previous (c :: rest) = true) :
    wordsAfter previous (c :: rest) = (c :: rest.takeWhile isNamePart) ::
      wordsAfter ((rest.takeWhile isNamePart).getLast?.or (some c))
        (rest.dropWhile isNamePart) := by
  have blocked : (some c).any Name.blocks = true := by
    rw [Name.startsAfter_cons, Bool.and_eq_true] at starts
    exact blocks_of_isNamePart (isNamePart_of_isNameStart starts.1)
  have inner : ∀ d ∈ rest.takeWhile isNamePart, Name.blocks d = true := fun d member =>
    blocks_of_isNamePart (of_mem_takeWhile member)
  have skipped := wordsAfter_append_of_blocks (rest.dropWhile isNamePart) blocked inner
  rw [List.takeWhile_append_dropWhile] at skipped
  rw [wordsAfter, starts, if_pos rfl, skipped]

/-- A text that starts with no name has the same words after every character. -/
theorem wordsAfter_eq_of_not_start {text : Text} (quiet : ∀ c, text.head? = some c →
    isNameStart c = false) (previous next : Option Char) :
    wordsAfter previous text = wordsAfter next text := by
  cases text with
  | nil => rfl
  | cons c rest => simp [wordsAfter, Name.startsAfter_cons, quiet c rfl]

/-- Where a name starts and no other does inside the text in front, one word starts there. -/
theorem wordsAfter_append_of_startsAfter {front : Text} {previous : Option Char} (rest : Text)
    (starts : Name.startsAfter previous front = true)
    (each : ∀ c ∈ front, Name.blocks c = true) :
    wordsAfter previous (front ++ rest) =
      (front ++ rest).takeWhile isNamePart :: wordsAfter front.getLast? rest := by
  cases front with
  | nil => cases starts
  | cons c front =>
    rw [Name.startsAfter_cons, Bool.and_eq_true] at starts
    have blocked : (some c).any Name.blocks = true := each c List.mem_cons_self
    have skipped := wordsAfter_append_of_blocks rest blocked fun d member =>
      each d (List.mem_cons_of_mem c member)
    rw [List.cons_append, wordsAfter, Name.startsAfter_cons, starts.1, starts.2, Bool.and_self,
      if_pos rfl, List.takeWhile_cons_of_pos (isNamePart_of_isNameStart starts.1), skipped,
      ← getLast?_cons_or c front none, Option.or_none]

end Text

namespace Name

theorem take_wordLength_cons {c : Char} {rest : Text} (start : isNameStart c = true) :
    (c :: rest).take (wordLength (c :: rest)) = c :: rest.takeWhile isNamePart ∧
      (c :: rest).drop (wordLength (c :: rest)) = rest.dropWhile isNamePart := by
  simp only [wordLength, start, if_true, Nat.add_comm 1, List.take_succ_cons,
    List.drop_succ_cons, take_length_takeWhile, drop_length_takeWhile, and_self]

theorem isNameStart_of_wordLength_pos {c : Char} {rest : Text}
    (positive : wordLength (c :: rest) ≠ 0) : isNameStart c = true := by
  simp only [wordLength] at positive
  split at positive
  · assumption
  · exact absurd rfl positive

/-- A word starts a name and goes on with all characters that names go on with. A name is a word,
or an object's word and another one. -/
theorem front?_eq_some {text : Text} {name : Name} (found : front? text = some name) :
    ∃ c rest, text = c :: rest ∧ isNameStart c = true ∧
      (name = ⟨none, c :: rest.takeWhile isNamePart⟩ ∨
        ∃ (d : Char) (tail : Text), isNameStart d = true ∧
          name = ⟨some (c :: rest.takeWhile isNamePart), d :: tail.takeWhile isNamePart⟩) := by
  cases text with
  | nil => cases found
  | cons c rest =>
    simp only [front?] at found
    split at found
    · cases found
    · rename_i positive
      have start := isNameStart_of_wordLength_pos positive
      have taken : (c :: rest).take (wordLength (c :: rest)) = c :: rest.takeWhile isNamePart :=
        (take_wordLength_cons start).1
      refine ⟨c, rest, rfl, start, ?_⟩
      rw [taken] at found
      split at found
      · rename_i after _
        split at found
        · cases found
          exact .inl rfl
        · rename_i more
          cases after with
          | nil => exact absurd rfl more
          | cons d tail =>
            have second := isNameStart_of_wordLength_pos more
            rw [(take_wordLength_cons second).1] at found
            cases found
            exact .inr ⟨d, tail, second, rfl⟩
      · cases found
        exact .inl rfl

/-- Every character of a name keeps others from starting directly after it. -/
theorem blocks_of_mem_text {text : Text} {name : Name} (found : front? text = some name)
    {c : Char} (member : c ∈ name.text) : blocks c = true := by
  have word {c : Char} {rest : Text} (start : isNameStart c = true) :
      ∀ d ∈ c :: rest.takeWhile isNamePart, blocks d = true := by
    intro d member
    rcases List.mem_cons.mp member with rfl | later
    · exact blocks_of_isNamePart (isNamePart_of_isNameStart start)
    · exact blocks_of_isNamePart (of_mem_takeWhile later)
  obtain ⟨first, rest, rfl, start, rfl | ⟨second, tail, next, rfl⟩⟩ := front?_eq_some found
  · exact word start c member
  · rcases List.mem_append.mp member with object | rest
    · exact word start c object
    · rcases List.mem_cons.mp rest with rfl | later
      · decide
      · exact word next c later

theorem dot_mem_text_iff {text : Text} {name : Name} (found : front? text = some name) :
    '.' ∈ name.text ↔ name.object?.isSome = true := by
  obtain ⟨c, rest, rfl, start, rfl | ⟨d, tail, _, rfl⟩⟩ := front?_eq_some found
  · have absent : '.' ∉ c :: rest.takeWhile isNamePart := by
      intro member
      rcases List.mem_cons.mp member with rfl | later
      · exact absurd start (by decide)
      · exact absurd (of_mem_takeWhile later) (by decide)
    exact iff_of_false absent nofun
  · exact iff_of_true (List.mem_append_right _ List.mem_cons_self) rfl

theorem isSome_front?_of_startsAfter {previous : Option Char} {text : Text}
    (starts : startsAfter previous text = true) : (front? text).isSome = true := by
  cases text with
  | nil => cases starts
  | cons c rest =>
    rw [startsAfter_cons, Bool.and_eq_true] at starts
    have positive : 0 < wordLength (c :: rest) := wordLength_pos_of_isNameStart starts.1
    simp only [front?]
    split
    · omega
    · split
      · split <;> rfl
      · rfl

theorem startsAfter_eq_of_head? {first second : Text} (same : first.head? = second.head?)
    (previous : Option Char) : startsAfter previous first = startsAfter previous second := by
  simp only [startsAfter, same]

theorem head?_text_of_front? {text : Text} {name : Name} (found : front? text = some name) :
    name.text.head? = text.head? := by
  obtain ⟨c, rest, rfl, _, rfl | ⟨d, tail, _, rfl⟩⟩ := front?_eq_some found <;> rfl

/-- The word at the front of a name that stands before other text is a front part of the name, as
long as that text starts as what followed the name. -/
theorem takeWhile_text_append {text rest : Text} {name : Name} (found : front? text = some name)
    (same : rest.head? = (text.drop name.text.length).head?) :
    (name.text ++ rest).takeWhile isNamePart <+: name.text := by
  obtain ⟨c, after, rfl, start, rfl | ⟨d, tail, next, rfl⟩⟩ := front?_eq_some found
  all_goals
    have inside : ∀ d ∈ c :: after.takeWhile isNamePart, isNamePart d = true := by
      intro d member
      rcases List.mem_cons.mp member with rfl | later
      · exact isNamePart_of_isNameStart start
      · exact of_mem_takeWhile later
  · -- The word of the whole text ended here, so the character after it goes on with no name.
    have ends : ∀ c, rest.head? = some c → isNamePart c = false := by
      intro e first
      have stopped := List.head?_dropWhile_not (p := isNamePart) (l := after)
      simp only [Name.text, List.length_cons, List.drop_succ_cons, drop_length_takeWhile] at same
      simpa only [← same, first, Bool.not_eq_true] using stopped
    exact (takeWhile_append_of_ends inside ends).symm ▸ List.prefix_rfl
  · have point : ∀ e, ('.' :: (d :: tail.takeWhile isNamePart ++ rest)).head? = some e →
        isNamePart e = false := by
      rintro e ⟨⟩
      decide
    rw [Name.text, List.append_assoc]
    exact (takeWhile_append_of_ends inside point).symm ▸ List.prefix_append _ _

end Name

namespace Token

theorem cut_of_front? {s : Text} {make : Text → Token} {size : Nat}
    (found : front? s = some (make, size)) :
    cut s = (make (s.take size) :: (cut (s.drop size)).1, (cut (s.drop size)).2) := by
  rw [cut]
  split
  · rename_i none
    rw [found] at none
    cases none
  · rename_i other
    rw [found] at other
    cases other
    rfl

theorem cut_eq_self_of_front? {s : Text} (found : front? s = none) : cut s = ([], s) := by
  rw [cut]
  split
  · rfl
  · rename_i other
    rw [found] at other
    cases other

theorem front?_eq_some {s : Text} {make : Text → Token} {size : Nat}
    (found : front? s = some (make, size)) :
    (make = blank ∧ ∀ c ∈ s.take size, isBlank c = true) ∨
    (make = number ∧ size = numberLength s) ∨
    (make = name ∧ ∃ c rest, s = c :: rest ∧ isNameStart c = true ∧
      size = (rest.takeWhile isNamePart).length + 1) ∨
    (make = operator ∧ ∀ c ∈ s.take size, c ∈ operatorCharacters) := by
  cases s with
  | nil => cases found
  | cons c rest =>
    simp only [front?] at found
    split at found
    · rename_i blanks
      cases found
      refine .inl ⟨rfl, fun d member => ?_⟩
      rw [Nat.add_comm, List.take_succ_cons] at member
      rcases List.mem_cons.mp member with rfl | later
      · exact blanks
      · rw [take_length_takeWhile] at later
        exact of_mem_takeWhile later
    · split at found
      · cases found
        exact .inr (.inl ⟨rfl, rfl⟩)
      · split at found
        · rename_i start
          cases found
          exact .inr (.inr (.inl ⟨rfl, c, rest, rfl, start, Nat.add_comm _ _⟩))
        · split at found
          · rename_i stars
            cases found
            refine .inr (.inr (.inr ⟨rfl, fun d member => ?_⟩))
            obtain ⟨rfl, second⟩ := stars
            cases rest with
            | nil => cases second
            | cons e rest =>
              cases second
              simp only [List.take_succ_cons, List.take_zero, List.mem_cons,
                List.not_mem_nil, or_false, or_self] at member
              subst member
              decide
          · split at found
            · rename_i single
              cases found
              refine .inr (.inr (.inr ⟨rfl, fun d member => ?_⟩))
              simp only [List.take_succ_cons, List.take_zero, List.mem_cons,
                List.not_mem_nil, or_false] at member
              subst member
              exact single
            · cases found

theorem text_of_front? {s : Text} {make : Text → Token} {size : Nat}
    (found : front? s = some (make, size)) (text : Text) : (make text).text = text := by
  rcases front?_eq_some found with ⟨rfl, _⟩ | ⟨rfl, _⟩ | ⟨rfl, _⟩ | ⟨rfl, _⟩ <;> rfl

theorem of_mem_take_decimalLength {s : Text} {c : Char} (member : c ∈ s.take (decimalLength s)) :
    isDecimalDigit c = true ∨ c = '.' := by
  simp only [decimalLength] at member
  split at member
  · rename_i rest dotted
    split at member
    · simp at member
    · rw [Nat.add_assoc, List.take_add, List.mem_append, dotted, take_length_takeWhile,
        Nat.add_comm, List.take_succ_cons, take_length_takeWhile] at member
      rcases member with whole | fraction
      · exact .inl (of_mem_takeWhile whole)
      · rcases List.mem_cons.mp fraction with rfl | later
        · exact .inr rfl
        · exact .inl (of_mem_takeWhile later)
  · rw [take_length_takeWhile] at member
    exact .inl (of_mem_takeWhile member)

/-- The exponent of a number is a mark before characters that start no name. -/
theorem take_exponentLength (s : Text) :
    s.take (exponentLength s) = [] ∨ ∃ mark tail, s.take (exponentLength s) = mark :: tail ∧
      ∀ c ∈ tail, isNameStart c = false := by
  match s with
  | [] => exact .inl rfl
  | [mark] =>
    left
    simp [exponentLength]
  | mark :: d :: rest =>
    simp only [exponentLength]
    split
    · generalize signed : (if d = '+' ∨ d = '-' then 1 else 0) = sign
      split
      · exact .inl rfl
      · right
        rw [Nat.add_assoc, Nat.add_comm, List.take_succ_cons, List.take_add,
          take_length_takeWhile]
        refine ⟨mark, _, rfl, fun c member => ?_⟩
        rcases List.mem_append.mp member with front | digits
        · split at signed
          · rename_i plusOrMinus
            subst signed
            rw [List.take_one, List.head?_cons, Option.toList_some, List.mem_singleton] at front
            subst front
            rcases plusOrMinus with rfl | rfl <;> decide
          · subst signed
            cases front
        · exact isNameStart_eq_false_of_isDecimalDigit (of_mem_takeWhile digits)
    · exact .inl rfl

theorem wordsAfter_number (previous : Option Char) {s : Text} (positive : 0 < numberLength s) :
    Text.wordsAfter previous s =
      Text.wordsAfter ((s.take (numberLength s)).getLast?.or previous)
        (s.drop (numberLength s)) := by
  have sizes : 0 < decimalLength s ∧
      numberLength s = decimalLength s + exponentLength (s.drop (decimalLength s)) := by
    simp only [numberLength] at positive ⊢
    split at positive
    · omega
    · rename_i some_digits
      simp only [some_digits, if_false, and_true]
      omega
  have front_ne_nil : s.take (decimalLength s) ≠ [] := by
    intro empty
    rcases List.take_eq_nil_iff.mp empty with zero | rfl
    · omega
    · exact absurd positive (by decide)
  rw [sizes.2, List.take_add, ← List.drop_drop]
  generalize known : s.drop (decimalLength s) = rest
  have whole : s = s.take (decimalLength s) ++ rest := by rw [← known, List.take_append_drop]
  -- no word starts inside the digits, and the mark of an exponent is blocked by the digit before it
  conv => lhs; rw [whole]
  rw [Text.wordsAfter_append_of_not_start]
  · have blocked : ((s.take (decimalLength s)).getLast?.or previous).any Name.blocks = true := by
      rw [List.getLast?_eq_some_getLast front_ne_nil, Option.some_or, Option.any_some]
      rcases of_mem_take_decimalLength (List.getLast_mem front_ne_nil) with digit | point
      · exact blocks_of_isDecimalDigit digit
      · rw [point]
        decide
    rw [List.getLast?_append, Option.or_assoc]
    generalize (s.take (decimalLength s)).getLast?.or previous = last at blocked ⊢
    rcases take_exponentLength rest with none | ⟨mark, tail, shape, quiet⟩
    · have zero : exponentLength rest = 0 ∨ rest = [] := List.take_eq_nil_iff.mp none
      rw [none]
      rcases zero with zero | rfl
      · rw [zero]
        rfl
      · rfl
    · have cut : rest = mark :: (tail ++ rest.drop (exponentLength rest)) := by
        rw [← List.cons_append, ← shape, List.take_append_drop]
      rw [shape, Text.getLast?_cons_or]
      conv => lhs; rw [cut]
      rw [Text.wordsAfter, Name.startsAfter_cons, blocked, Bool.not_true, Bool.and_false]
      exact Text.wordsAfter_append_of_not_start (some mark) _ quiet
  · intro c member
    rcases of_mem_take_decimalLength member with digit | rfl
    · exact isNameStart_eq_false_of_isDecimalDigit digit
    · decide

theorem isNameStart_of_head?_cut {s word : Text} (first : (cut s).1.head? = some (name word)) :
    ∃ c rest, s = c :: rest ∧ isNameStart c = true := by
  cases found : front? s with
  | none =>
    rw [cut_eq_self_of_front? found] at first
    cases first
  | some token =>
    obtain ⟨make, size⟩ := token
    rw [cut_of_front? found, List.head?_cons, Option.some.injEq] at first
    rcases front?_eq_some found with ⟨rfl, _⟩ | ⟨rfl, _⟩ | ⟨rfl, c, rest, rfl, start, _⟩ | ⟨rfl, _⟩
    · cases first
    · cases first
    · exact ⟨c, rest, rfl, start⟩
    · cases first

/-- What comes after all of a name does not start with a name. -/
theorem head?_cut_dropWhile_ne {s : Text} (word : Text) :
    (cut (s.dropWhile isNamePart)).1.head? ≠ some (name word) := by
  intro first
  obtain ⟨c, rest, left, begins⟩ := isNameStart_of_head?_cut first
  have ends := List.head?_dropWhile_not (p := isNamePart) (l := s)
  rw [left, List.head?_cons] at ends
  simp only [isNamePart_of_isNameStart begins] at ends
  cases ends

theorem take_ne_nil_of_front? {s : Text} {make : Text → Token} {size : Nat}
    (found : front? s = some (make, size)) : s.take size ≠ [] := by
  intro empty
  rcases List.take_eq_nil_iff.mp empty with zero | rfl
  · exact absurd (front?_pos found) (by omega)
  · exact front?_ne_nil found rfl

theorem length_drop_lt_of_front? {s : Text} {make : Text → Token} {size : Nat}
    (found : front? s = some (make, size)) : (s.drop size).length < s.length := by
  have taken := front?_pos found
  have given := List.length_pos_iff.mpr (front?_ne_nil found)
  rw [List.length_drop]
  omega

/-- Induction over how a text is cut: what holds of a text that starts with a token as soon as it
holds of what is left behind the token, and of every text that starts with none, holds of all texts.
-/
theorem cut_induction {motive : Text → Prop} (stop : ∀ s, front? s = none → motive s)
    (token : ∀ s make size, front? s = some (make, size) → motive (s.drop size) → motive s)
    (s : Text) : motive s := by
  induction size : s.length using Nat.strongRecOn generalizing s with
  | ind length ih =>
    subst size
    cases found : front? s with
    | none => exact stop s found
    | some first => exact token s _ _ found (ih _ (length_drop_lt_of_front? found) _ rfl)

/-- The names among a text's tokens are the words of the text, as long as no name directly follows
a number. The induction carries the character before the tokens that are left: it may block a name
only where none comes next. -/
theorem names_cut_eq_wordsAfter {s : Text} {previous : Option Char} (whole : (cut s).2 = [])
    (apart : ∀ a b, ¬ [number a, name b] <:+: (cut s).1)
    (entry : ∀ word, (cut s).1.head? = some (name word) → previous.any Name.blocks = false) :
    names (cut s).1 = Text.wordsAfter previous s := by
  induction s using cut_induction generalizing previous with
  | stop s found =>
    rw [cut_eq_self_of_front? found] at whole ⊢
    cases whole
    rfl
  | token s make size found ih =>
    have taken := take_ne_nil_of_front? found
    rw [cut_of_front? found] at whole apart entry ⊢
    have rest_apart : ∀ a b, ¬ [number a, name b] <:+: (cut (s.drop size)).1 := fun a b inside =>
      apart a b (List.infix_cons inside)
    have next {last : Option Char}
        (entry : ∀ word, (cut (s.drop size)).1.head? = some (name word) →
          last.any Name.blocks = false) :
        names (cut (s.drop size)).1 = Text.wordsAfter last (s.drop size) :=
      ih whole rest_apart entry
    -- A token of characters that start no name and let one follow leaves the words to the rest.
    have plain (quiet : ∀ c ∈ s.take size, isNameStart c = false ∧ Name.blocks c = false) :
        names (cut (s.drop size)).1 = Text.wordsAfter previous s := by
      have split := Text.wordsAfter_append_of_not_start previous (s.drop size)
        fun c member => (quiet c member).1
      rw [List.take_append_drop] at split
      rw [split]
      refine next fun word _ => ?_
      rw [List.getLast?_eq_some_getLast taken, Option.some_or, Option.any_some]
      exact (quiet _ (List.getLast_mem taken)).2
    rcases front?_eq_some found with
      ⟨rfl, blanks⟩ | ⟨rfl, rfl⟩ | ⟨rfl, c, rest, rfl, start, rfl⟩ | ⟨rfl, operators⟩
    · exact plain fun c member =>
        ⟨isNameStart_eq_false_of_isBlank (blanks c member),
          blocks_eq_false_of_isBlank (blanks c member)⟩
    · rw [wordsAfter_number previous (front?_pos found)]
      refine next fun word first => ?_
      exfalso
      obtain ⟨others, tokens⟩ := List.head?_eq_some_iff.mp first
      refine apart (s.take (numberLength s)) word ?_
      rw [tokens]
      exact ⟨[], others, rfl⟩
    · have starts : Name.startsAfter previous (c :: rest) = true := by
        rw [Name.startsAfter_cons, start, entry _ rfl]
        rfl
      rw [Text.wordsAfter_of_startsAfter starts]
      simp only [List.take_succ_cons, List.drop_succ_cons, take_length_takeWhile,
        drop_length_takeWhile] at next ⊢
      exact congrArg _ (next fun word first => absurd first (head?_cut_dropWhile_ne word))
    · exact plain fun c member => isNameStart_eq_false_of_operator (operators c member)

end Token
end SceneFormula
