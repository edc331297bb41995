import SceneFormula.Proofs.Word

set_option autoImplicit false

namespace SceneFormula.Token

/-- Whether a text is digits of any script with at most one point among them, and not the point
alone. -/
inductive IsDecimal : Text → Prop
  | whole {digits : Text} (filled : digits ≠ []) (each : ∀ c ∈ digits, isDecimalDigit c = true) :
    IsDecimal digits
  | pointed {whole fraction : Text} (filled : whole ≠ [] ∨ fraction ≠ [])
    (before : ∀ c ∈ whole, isDecimalDigit c = true)
    (behind : ∀ c ∈ fraction, isDecimalDigit c = true) : IsDecimal (whole ++ '.' :: fraction)

/-- Whether a text is an exponent: its mark, a sign or none, and digits. -/
inductive IsExponent : Text → Prop
  | unsigned {mark : Char} {digits : Text} (marked : mark = 'e' ∨ mark = 'E')
    (filled : digits ≠ []) (each : ∀ c ∈ digits, isDecimalDigit c = true) :
    IsExponent (mark :: digits)
  | signed {mark sign : Char} {digits : Text} (marked : mark = 'e' ∨ mark = 'E')
    (signs : sign = '+' ∨ sign = '-') (filled : digits ≠ [])
    (each : ∀ c ∈ digits, isDecimalDigit c = true) : IsExponent (mark :: sign :: digits)

/-- Whether a text is a number. -/
inductive IsNumber : Text → Prop
  | plain {decimal : Text} (isDecimal : IsDecimal decimal) : IsNumber decimal
  | scaled {decimal exponent : Text} (isDecimal : IsDecimal decimal)
    (isExponent : IsExponent exponent) : IsNumber (decimal ++ exponent)

theorem length_le_length_takeWhile {p : Char → Bool} {run : Text} (each : ∀ c ∈ run, p c = true)
    (rest : Text) : run.length ≤ ((run ++ rest).takeWhile p).length := by
  rw [List.takeWhile_append_of_pos each, List.length_append]
  exact Nat.le_add_right _ _

theorem length_takeWhile_le_decimalLength (s : Text) :
    (s.takeWhile isDecimalDigit).length ≤ decimalLength s := by
  simp only [decimalLength]
  split
  · split <;> omega
  · exact Nat.le_refl _

theorem decimalLength_append_point {whole : Text} (digits : ∀ c ∈ whole, isDecimalDigit c = true)
    (rest : Text) :
    decimalLength (whole ++ '.' :: rest) =
      if whole.length = 0 ∧ (rest.takeWhile isDecimalDigit).length = 0 then 0
      else whole.length + 1 + (rest.takeWhile isDecimalDigit).length := by
  have ends : ∀ c, ('.' :: rest).head? = some c → isDecimalDigit c = false := by
    rintro c ⟨⟩
    decide
  have run : (whole ++ '.' :: rest).takeWhile isDecimalDigit = whole :=
    takeWhile_append_of_ends digits ends
  simp only [decimalLength, run, List.drop_left]

theorem IsDecimal.length_le {text : Text} (isDecimal : IsDecimal text) (rest : Text) :
    text.length ≤ decimalLength (text ++ rest) := by
  cases isDecimal with
  | whole filled each =>
    exact Nat.le_trans (length_le_length_takeWhile each rest) (length_takeWhile_le_decimalLength _)
  | @pointed whole fraction filled before behind =>
    have far := length_le_length_takeWhile behind rest
    rw [List.append_assoc, List.cons_append, decimalLength_append_point before]
    have some_digit : ¬ (whole.length = 0 ∧
        ((fraction ++ rest).takeWhile isDecimalDigit).length = 0) := by
      rintro ⟨none, nothing⟩
      have absent : fraction.length = 0 := by omega
      exact filled.elim (· (List.length_eq_zero_iff.mp none))
        (· (List.length_eq_zero_iff.mp absent))
    rw [if_neg some_digit, List.length_append, List.length_cons]
    omega

theorem IsDecimal.length_pos {text : Text} (isDecimal : IsDecimal text) : 0 < text.length := by
  cases isDecimal with
  | whole filled => exact List.length_pos_iff.mpr filled
  | pointed =>
    rw [List.length_append, List.length_cons]
    omega

theorem isDecimal_take {s : Text} (positive : 0 < decimalLength s) :
    IsDecimal (s.take (decimalLength s)) := by
  simp only [decimalLength] at positive ⊢
  split at positive
  · rename_i rest dotted
    split at positive
    · exact absurd positive (Nat.lt_irrefl 0)
    · rename_i some_digit
      have shape : s.take ((s.takeWhile isDecimalDigit).length + 1 +
            (rest.takeWhile isDecimalDigit).length) =
          s.takeWhile isDecimalDigit ++ '.' :: rest.takeWhile isDecimalDigit := by
        rw [Nat.add_assoc, List.take_add, take_length_takeWhile, dotted, Nat.add_comm 1,
          List.take_succ_cons, take_length_takeWhile]
      simp only [some_digit, if_false, shape]
      refine .pointed ?_ (fun _ => of_mem_takeWhile) (fun _ => of_mem_takeWhile)
      rw [List.length_eq_zero_iff, List.length_eq_zero_iff] at some_digit
      exact Decidable.not_and_iff_not_or_not.mp some_digit
  · rename_i undotted
    simp only [take_length_takeWhile]
    exact .whole (List.length_pos_iff.mp positive) fun _ => of_mem_takeWhile

theorem IsExponent.length_le {text : Text} (isExponent : IsExponent text) (rest : Text) :
    text.length ≤ exponentLength (text ++ rest) := by
  cases isExponent with
  | @unsigned mark digits marked filled each =>
    have far := length_le_length_takeWhile each rest
    have some_digit := List.length_pos_iff.mpr filled
    obtain ⟨d, digits, rfl⟩ := List.exists_cons_of_ne_nil filled
    have unsigned : ¬ (d = '+' ∨ d = '-') := by
      have digit := each d List.mem_cons_self
      rintro (rfl | rfl) <;> exact absurd digit (by decide)
    simp only [List.cons_append] at far ⊢
    simp only [exponentLength, marked, if_true, unsigned, if_false, List.drop_zero]
    rw [if_neg (by omega), List.length_cons]
    omega
  | @signed mark sign digits marked signs filled each =>
    have far := length_le_length_takeWhile each rest
    have some_digit := List.length_pos_iff.mpr filled
    simp only [List.cons_append, exponentLength, marked, if_true, signs, List.drop_succ_cons,
      List.drop_zero]
    rw [if_neg (by omega), List.length_cons, List.length_cons]
    omega

theorem IsExponent.exists_mark {text : Text} (isExponent : IsExponent text) :
    ∃ mark tail, text = mark :: tail ∧ (mark = 'e' ∨ mark = 'E') := by
  cases isExponent with
  | unsigned marked => exact ⟨_, _, rfl, marked⟩
  | signed marked => exact ⟨_, _, rfl, marked⟩

theorem isExponent_take {s : Text} (positive : 0 < exponentLength s) :
    IsExponent (s.take (exponentLength s)) := by
  match s with
  | [] => exact absurd positive (Nat.lt_irrefl 0)
  | [mark] => simp [exponentLength] at positive
  | mark :: d :: rest =>
    simp only [exponentLength] at positive ⊢
    split at positive
    · rename_i marked
      rw [if_pos marked]
      generalize signed : (if d = '+' ∨ d = '-' then 1 else 0) = sign at positive ⊢
      split at positive
      · exact absurd positive (Nat.lt_irrefl 0)
      · rename_i some_digit
        have filled := fun none => some_digit (List.length_eq_zero_iff.mpr none)
        rw [if_neg some_digit, Nat.add_assoc, Nat.add_comm, List.take_succ_cons, List.take_add,
          take_length_takeWhile]
        split at signed
        · rename_i signs
          subst signed
          exact .signed marked signs filled fun _ => of_mem_takeWhile
        · subst signed
          exact .unsigned marked filled fun _ => of_mem_takeWhile
    · exact absurd positive (Nat.lt_irrefl 0)

theorem numberLength_pos_iff {s : Text} : 0 < numberLength s ↔ 0 < decimalLength s := by
  simp only [numberLength]
  split <;> omega

theorem numberLength_of_pos {s : Text} (positive : 0 < decimalLength s) :
    numberLength s = decimalLength s + exponentLength (s.drop (decimalLength s)) := by
  simp only [numberLength]
  split <;> omega

theorem IsNumber.length_pos {text : Text} (isNumber : IsNumber text) : 0 < text.length := by
  cases isNumber with
  | plain isDecimal => exact isDecimal.length_pos
  | scaled isDecimal =>
    rw [List.length_append]
    exact Nat.add_pos_left isDecimal.length_pos _

theorem isNumber_take {s : Text} (positive : 0 < numberLength s) :
    IsNumber (s.take (numberLength s)) := by
  have digits := numberLength_pos_iff.mp positive
  have isDecimal := isDecimal_take digits
  rw [numberLength_of_pos digits]
  by_cases scaled : 0 < exponentLength (s.drop (decimalLength s))
  · rw [List.take_add]
    exact .scaled isDecimal (isExponent_take scaled)
  · have plain : exponentLength (s.drop (decimalLength s)) = 0 := by omega
    rw [plain, Nat.add_zero]
    exact .plain isDecimal

/-- The digits and points in front of a text may go on behind a number's own only where the number
has no exponent: its mark would have to be one of them. -/
theorem IsNumber.length_le {text : Text} (isNumber : IsNumber text) (rest : Text) :
    text.length ≤ numberLength (text ++ rest) := by
  cases isNumber with
  | plain isDecimal =>
    have near := isDecimal.length_le rest
    have filled := isDecimal.length_pos
    rw [numberLength_of_pos (by omega)]
    omega
  | @scaled decimal exponent isDecimal isExponent =>
    have near := isDecimal.length_le (exponent ++ rest)
    have filled := isDecimal.length_pos
    rw [List.append_assoc, List.length_append, numberLength_of_pos (by omega)]
    obtain same | further := Nat.eq_or_lt_of_le near
    · have far := isExponent.length_le rest
      rw [← same, List.drop_left]
      omega
    · exfalso
      obtain ⟨mark, tail, rfl, marked⟩ := isExponent.exists_mark
      have inside : mark ∈ (decimal ++ (mark :: tail ++ rest)).take
          (decimalLength (decimal ++ (mark :: tail ++ rest))) := by
        obtain ⟨beyond, size⟩ := Nat.exists_eq_add_of_lt further
        rw [size, Nat.add_assoc, List.take_length_add_append, List.cons_append, List.take_succ_cons]
        exact List.mem_append_right _ List.mem_cons_self
      have plain : isDecimalDigit mark = false ∧ mark ≠ '.' := by
        obtain rfl | rfl := marked <;> exact ⟨rfl, by decide⟩
      obtain digit | point := of_mem_take_decimalLength inside
      · rw [plain.1] at digit
        cases digit
      · exact plain.2 point

end SceneFormula.Token
