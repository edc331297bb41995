import SceneFormula.Expression.Name

set_option autoImplicit false

namespace SceneFormula

theorem inRanges_iff {ranges : List (Nat × Nat)} {code : Nat} :
    inRanges ranges code = true ↔ ∃ range ∈ ranges, range.1 ≤ code ∧ code ≤ range.2 := by
  simp [inRanges]

/-- Whether no code point is in both of two lists of ranges. The comparisons are those that a
proof can compute fast. -/
def rangesApart (first second : List (Nat × Nat)) : Bool :=
  first.all fun a => second.all fun b => Nat.blt a.2 b.1 || Nat.blt b.2 a.1

/-- Whether runs of code points lie in the ranges, each run with its first code point given. -/
def rangesCover (ranges : List (Nat × Nat)) (size : Nat) (firsts : List Nat) : Bool :=
  firsts.all fun first => ranges.any fun range =>
    Nat.ble range.1 first && Nat.ble (first + size) (range.2 + 1)

theorem rangesApart_iff {first second : List (Nat × Nat)} :
    rangesApart first second = true ↔ ∀ a ∈ first, ∀ b ∈ second, a.2 < b.1 ∨ b.2 < a.1 := by
  simp [rangesApart]

theorem inRanges_eq_false_of_apart {first second : List (Nat × Nat)} {code : Nat}
    (apart : rangesApart first second = true)
    (inside : inRanges first code = true) : inRanges second code = false := by
  rw [Bool.eq_false_iff]
  intro both
  obtain ⟨a, inFirst, aLow, aHigh⟩ := inRanges_iff.mp inside
  obtain ⟨b, inSecond, bLow, bHigh⟩ := inRanges_iff.mp both
  have pair := rangesApart_iff.mp apart a inFirst b inSecond
  omega

/-- Whether each range of the second list lies in one of the first, both in order: each of the
first takes those that it holds from the front. A proof can compute this in one pass. -/
def rangesTakeAll : List (Nat × Nat) → List (Nat × Nat) → Bool
  | _, [] => true
  | [], _ :: _ => false
  | outer :: outers, inner :: inners =>
    rangesTakeAll outers <|
      (inner :: inners).dropWhile fun inner => Nat.ble outer.1 inner.1 && Nat.ble inner.2 outer.2

theorem exists_of_takeAll {outers inners : List (Nat × Nat)}
    (taken : rangesTakeAll outers inners = true) {inner : Nat × Nat} (member : inner ∈ inners) :
    ∃ outer ∈ outers, outer.1 ≤ inner.1 ∧ inner.2 ≤ outer.2 := by
  fun_induction rangesTakeAll outers inners with
  | case1 => cases member
  | case2 => cases taken
  | case3 outer outers first rest ih =>
    rw [← List.takeWhile_append_dropWhile (l := first :: rest)
      (p := fun inner => Nat.ble outer.1 inner.1 && Nat.ble inner.2 outer.2)] at member
    rcases List.mem_append.mp member with front | back
    · have own := List.all_eq_true.mp List.all_takeWhile inner front
      rw [Bool.and_eq_true, Nat.ble_eq, Nat.ble_eq] at own
      exact ⟨outer, List.mem_cons_self, own⟩
    · obtain ⟨other, among, bounds⟩ := ih taken back
      exact ⟨other, List.mem_cons_of_mem outer among, bounds⟩

theorem rangesCover_of_takeAll {ranges : List (Nat × Nat)} {size : Nat} {firsts : List Nat}
    (taken : rangesTakeAll ranges (firsts.map fun first => (first, first + size - 1)) = true) :
    rangesCover ranges size firsts = true := by
  rw [rangesCover, List.all_eq_true]
  intro first member
  obtain ⟨range, among, low, high⟩ := exists_of_takeAll taken (List.mem_map_of_mem member)
  rw [List.any_eq_true]
  refine ⟨range, among, ?_⟩
  rw [Bool.and_eq_true, Nat.ble_eq, Nat.ble_eq]
  omega

/-- Ranges that lie in the gaps of others are apart from them. -/
theorem rangesApart_of_takeAll {first second gaps : List (Nat × Nat)}
    (apart : rangesApart first gaps = true) (taken : rangesTakeAll gaps second = true) :
    rangesApart first second = true := by
  rw [rangesApart_iff] at apart ⊢
  intro a inFirst b inSecond
  obtain ⟨gap, among, low, high⟩ := exists_of_takeAll taken inSecond
  exact (apart a inFirst gap among).imp (fun below => by omega) (fun above => by omega)

/-- The code points between the blanks. -/
def blankGaps : List (Nat × Nat) :=
  [(0x0, 0x8), (0xe, 0x1b), (0x21, 0x84), (0x86, 0x9f), (0xa1, 0x167f), (0x1681, 0x1fff),
    (0x200b, 0x2027), (0x202a, 0x202e), (0x2030, 0x205e), (0x2060, 0x2fff), (0x3001, 0x10ffff)]

theorem isAlpha_iff (c : Char) :
    c.isAlpha = true ↔
      (65 ≤ c.toNat ∧ c.toNat ≤ 90) ∨ (97 ≤ c.toNat ∧ c.toNat ≤ 122) := by
  have upper : c.isUpper = true ↔ 65 ≤ c.toNat ∧ c.toNat ≤ 90 :=
    decide_eq_true_iff (p := c.val ≥ 'A'.val ∧ c.val ≤ 'Z'.val)
  have lower : c.isLower = true ↔ 97 ≤ c.toNat ∧ c.toNat ≤ 122 := by
    show (decide (c.val ≥ 'a'.val) && decide (c.val ≤ 'z'.val)) = true ↔ _
    rw [Bool.and_eq_true, decide_eq_true_iff, decide_eq_true_iff]
    rfl
  show (c.isUpper || c.isLower) = true ↔ _
  rw [Bool.or_eq_true, upper, lower]

theorem isDigit_iff (c : Char) : c.isDigit = true ↔ 48 ≤ c.toNat ∧ c.toNat ≤ 57 := by
  simp only [Char.isDigit, Bool.and_eq_true, decide_eq_true_eq, ge_iff_le,
    UInt32.le_iff_toNat_le]
  rfl

theorem isAlphanum_iff (c : Char) :
    c.isAlphanum = true ↔
      ((65 ≤ c.toNat ∧ c.toNat ≤ 90) ∨ (97 ≤ c.toNat ∧ c.toNat ≤ 122)) ∨
        (48 ≤ c.toNat ∧ c.toNat ≤ 57) := by
  rw [Char.isAlphanum, Bool.or_eq_true, isAlpha_iff, isDigit_iff]

theorem eq_underscore_iff (c : Char) : c = '_' ↔ c.toNat = 95 := by
  rw [← Char.toNat_inj]
  rfl

/-- The plain letters and digits have their ranges among those of all scripts. -/
theorem inRanges_of_isAlphanumeric {c : Char} (inside : isAlphanumeric c = true) :
    inRanges alphanumericRanges c.toNat = true := by
  unfold isAlphanumeric at inside
  split at inside
  · rw [isAlphanum_iff] at inside
    rw [inRanges_iff]
    rcases inside with (upper | lower) | digit
    · exact ⟨(0x41, 0x5a), by decide, upper⟩
    · exact ⟨(0x61, 0x7a), by decide, lower⟩
    · exact ⟨(0x30, 0x39), by decide, digit⟩
  · exact inside

/-- Whether a name cannot start after the character. -/
def Name.blocks (c : Char) : Bool := isAlphanumeric c || c = '_' || c = '.'

theorem Name.startsAfter_cons (previous : Option Char) (c : Char) (rest : Text) :
    Name.startsAfter previous (c :: rest) = (isNameStart c && !previous.any Name.blocks) := rfl

theorem isNamePart_of_isNameStart {c : Char} (start : isNameStart c = true) :
    isNamePart c = true := by
  simp only [isNameStart, isNamePart, Bool.or_eq_true] at start ⊢
  exact start.imp_left fun alpha => by simp [Char.isAlphanum, alpha]

/-- After a character of a name no other name starts. -/
theorem blocks_of_isNamePart {c : Char} (part : isNamePart c = true) : Name.blocks c = true := by
  simp only [isNamePart, Bool.or_eq_true] at part
  simp only [Name.blocks, Bool.or_eq_true]
  left
  refine part.imp_left fun plain => ?_
  have ascii : c.toNat < 128 := by
    rw [isAlphanum_iff] at plain
    omega
  simp only [isAlphanumeric, ascii, if_true, plain]

theorem isNameStart_eq_false_of_isBlank {c : Char} (blank : isBlank c = true) :
    isNameStart c = false := by
  rw [Bool.eq_false_iff]
  intro start
  simp only [isNameStart, Bool.or_eq_true, isAlpha_iff, decide_eq_true_eq,
    eq_underscore_iff] at start
  obtain ⟨range, member, low, high⟩ := inRanges_iff.mp blank
  have apart : ∀ range ∈ blankRanges, range.2 < 65 ∨ 122 < range.1 := by decide
  rcases apart range member with below | above <;> omega

theorem blocks_eq_false_of_isBlank {c : Char} (blank : isBlank c = true) :
    Name.blocks c = false := by
  have letters : isAlphanumeric c = false := by
    rw [Bool.eq_false_iff]
    intro inside
    have between : rangesApart blankRanges blankGaps = true := by decide
    have apart : rangesApart blankRanges alphanumericRanges = true :=
      rangesApart_of_takeAll between (by decide)
    have outside := inRanges_eq_false_of_apart apart blank
    rw [inRanges_of_isAlphanumeric inside] at outside
    cases outside
  have underscore : c ≠ '_' := by
    rintro rfl
    exact absurd blank (by decide)
  have point : c ≠ '.' := by
    rintro rfl
    exact absurd blank (by decide)
  simp [Name.blocks, letters, underscore, point]

/-- An operator is no part of a name, and a name may start after it. -/
theorem isNameStart_eq_false_of_operator {c : Char} (operator : c ∈ operatorCharacters) :
    isNameStart c = false ∧ Name.blocks c = false := by
  have each : operatorCharacters.all (fun c => !isNameStart c && !Name.blocks c) = true := by
    decide
  simpa using List.all_eq_true.mp each c operator

theorem isNameStart_eq_false_of_isDecimalDigit {c : Char} (digit : isDecimalDigit c = true) :
    isNameStart c = false := by
  rw [Bool.eq_false_iff]
  intro start
  simp only [isNameStart, Bool.or_eq_true, isAlpha_iff, decide_eq_true_eq,
    eq_underscore_iff] at start
  have ascii : c.toNat < 128 := by omega
  unfold isDecimalDigit decimalDigit? at digit
  simp only [ascii, if_true] at digit
  split at digit
  · rename_i plain
    rw [isDigit_iff] at plain
    omega
  · cases digit

theorem blocks_of_isDecimalDigit {c : Char} (digit : isDecimalDigit c = true) :
    Name.blocks c = true := by
  have letters : isAlphanumeric c = true := by
    unfold isDecimalDigit decimalDigit? at digit
    unfold isAlphanumeric
    split at digit
    · rename_i ascii
      simp only [ascii, if_true]
      split at digit
      · rename_i plain
        simp [Char.isAlphanum, plain]
      · cases digit
    · rename_i wide
      simp only [wide, if_false]
      rw [Option.isSome_map, List.find?_isSome] at digit
      obtain ⟨first, member, inside⟩ := digit
      have covered : rangesCover alphanumericRanges 10 decimalZeros = true :=
        rangesCover_of_takeAll (by decide +kernel)
      have own := List.all_eq_true.mp covered first member
      obtain ⟨range, among, bounds⟩ := List.any_eq_true.mp own
      simp only [Bool.and_eq_true, decide_eq_true_eq, Nat.ble_eq] at inside bounds
      exact inRanges_iff.mpr ⟨range, among, by omega, by omega⟩
  simp [Name.blocks, letters]

end SceneFormula
