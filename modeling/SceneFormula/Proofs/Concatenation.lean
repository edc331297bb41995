import SceneFormula.Proofs.Invocation

set_option autoImplicit false

namespace SceneFormula

theorem forall₂_comp_iff {α β γ : Type} {first : α → β → Prop} {second : β → γ → Prop}
    {xs : List α} {zs : List γ} :
    List.Forall₂ (fun x z => ∃ y, first x y ∧ second y z) xs zs ↔
      ∃ ys, List.Forall₂ first xs ys ∧ List.Forall₂ second ys zs := by
  constructor
  · intro each
    induction each with
    | nil => exact ⟨[], .nil, .nil⟩
    | cons both _ ih =>
      obtain ⟨y, own, next⟩ := both
      obtain ⟨ys, owns, nexts⟩ := ih
      exact ⟨y :: ys, .cons own owns, .cons next nexts⟩
  · rintro ⟨ys, owns, nexts⟩
    induction owns generalizing zs with
    | nil =>
      cases nexts
      exact .nil
    | cons own _ ih =>
      cases nexts with
      | cons next later => exact .cons ⟨_, own, next⟩ (ih later)

namespace Text

theorem stripLeft_cons {c : Char} (visible : isBlank c = false) (rest : Text) :
    stripLeft (c :: rest) = c :: rest :=
  List.dropWhile_cons_of_neg (by simp [visible])

theorem stripRight_concat {c : Char} (visible : isBlank c = false) (front : Text) :
    stripRight (front ++ [c]) = front ++ [c] := by
  simp [stripRight, visible]

/-- The blanks at the end of a text end where its last part shows something. -/
theorem stripRight_append_of_ne_nil {back : Text} (filled : back.stripRight ≠ [])
    (front : Text) : stripRight (front ++ back) = front ++ back.stripRight := by
  have some_left : (back.reverse.dropWhile isBlank).isEmpty = false := by
    simpa [stripRight] using filled
  rw [stripRight, List.reverse_append, List.dropWhile_append, some_left, stripRight]
  simp

end Text

namespace Term

/-- How a term is written: a literal between its quotes, or a call. -/
inductive Written : Term → Text → Prop
  | literal {body content : Text} (stands : Literal.Stands body content) :
    Written (.literal content) (Literal.quote :: (body ++ [Literal.quote]))
  | call {cut : Call} (written : cut.Written) : Written (.call cut) cut.source

theorem written_of_ofPart {whole part : Text} {term : Term} (read : ofPart whole part = .ok term) :
    term.Written part := by
  cases part with
  | nil => cases read
  | cons c rest =>
    rw [ofPart] at read
    split at read
    · rename_i quoted
      subst quoted
      split at read
      · cases read
      · rename_i body closed
        cases read
        have stands := Literal.stands_of_close? closed
        have ends := Literal.eq_append_of_close? closed
        have same : Literal.value (Literal.quote :: rest) = Literal.unescape body := by
          simp [Literal.value, ends]
        rw [same, ends]
        exact .literal stands
      · cases read
    · split at read
      · split at read
        · cases read
        · cases read
        · rename_i cut found
          split at read
          · rename_i long
            cases read
            obtain ⟨written, leading⟩ := Call.front?_eq_ok_some_iff.mp found
            rw [← leading.eq_of_length long]
            exact .call written
          · cases read
      · cases read

theorem Written.ofPart_eq {term : Term} {part : Text} (written : term.Written part) (whole : Text) :
    ofPart whole part = .ok term := by
  cases written with
  | @literal body content stands =>
    have closed : Literal.close? (body ++ [Literal.quote]) = some (body, []) :=
      stands.close?_append []
    have value : Literal.value (Literal.quote :: (body ++ [Literal.quote])) = content := by
      simp [Literal.value, stands.unescape_eq]
    rw [ofPart, if_pos rfl, closed]
    simp only [value]
  | @call cut written =>
    have found : Call.front? 0 cut.source = .ok (some cut) :=
      Call.front?_eq_ok_some_iff.mpr ⟨written, List.prefix_rfl⟩
    obtain ⟨c, rest, source, start⟩ := written.exists_cons
    have unquoted : c ≠ Literal.quote := by
      rintro rfl
      exact absurd start (by decide)
    have starts : Name.startsAfter none (c :: rest) = true := by
      simp [Name.startsAfter_cons, start]
    rw [source] at found ⊢
    rw [ofPart, if_neg unquoted, if_pos starts, found]
    simp [source]

/-- A part between plus signs is read as a term exactly if it is written as that term. -/
theorem ofPart_eq_ok_iff {whole part : Text} {term : Term} :
    ofPart whole part = .ok term ↔ term.Written part :=
  ⟨written_of_ofPart, fun written => written.ofPart_eq whole⟩

theorem Written.exists_cons {term : Term} {part : Text} (written : term.Written part) :
    ∃ c rest, part = c :: rest ∧ isBlank c = false := by
  cases written with
  | literal stands => exact ⟨_, _, rfl, by decide⟩
  | call written =>
    obtain ⟨c, rest, source, start⟩ := written.exists_cons
    refine ⟨c, rest, source, ?_⟩
    by_contra blank
    rw [Bool.not_eq_false] at blank
    rw [isNameStart_eq_false_of_isBlank blank] at start
    cases start

theorem Written.exists_concat {term : Term} {part : Text} (written : term.Written part) :
    ∃ front c, part = front ++ [c] ∧ isBlank c = false := by
  cases written with
  | @literal body _ stands => exact ⟨Literal.quote :: body, Literal.quote, rfl, by decide⟩
  | call written =>
    obtain ⟨front, ends⟩ := written.exists_concat
    exact ⟨front, ')', ends, by decide⟩

theorem Written.strip_eq {term : Term} {part : Text} (written : term.Written part) :
    part.strip = part := by
  obtain ⟨c, rest, starts, first⟩ := written.exists_cons
  obtain ⟨front, d, ends, last⟩ := written.exists_concat
  rw [Text.strip, starts, Text.stripLeft_cons first, ← starts, ends, Text.stripRight_concat last]

theorem Written.ne_nil {term : Term} {part : Text} (written : term.Written part) : part ≠ [] := by
  obtain ⟨c, rest, rfl, _⟩ := written.exists_cons
  exact List.cons_ne_nil _ _

theorem Written.balanced {term : Term} {part : Text} (written : term.Written part)
    {separators : List Char}
    (foreign : ∀ c ∈ separators, isNamePart c = false ∧ c ≠ '.' ∧ isBlank c = false) :
    part.Balanced separators 0 := by
  cases written with
  | literal stands => exact .literal stands .nil
  | call written => exact written.balanced foreign

/-- How terms are written one after another, with plus signs between them and blanks around
each. -/
def Concatenated (terms : List Term) (text : Text) : Prop :=
  ∃ raws : List Text, raws ≠ [] ∧ text = List.intercalate ['+'] raws ∧
    List.Forall₂ (fun raw (term : Term) => ∃ part, Text.Pads part raw ∧ term.Written part)
      raws terms

/-- A text that is written as terms is balanced, without separators other than the plus signs
outside of its parentheses. -/
theorem Concatenated.balanced {terms : List Term} {text : Text}
    (concatenated : Concatenated terms text) {separators : List Char} (free : '+' ∉ separators)
    (foreign : ∀ c ∈ separators, isNamePart c = false ∧ c ≠ '.' ∧ isBlank c = false) :
    text.Balanced separators 0 := by
  obtain ⟨raws, -, rfl, each⟩ := concatenated
  refine .intercalate (by decide) free fun raw member => ?_
  obtain ⟨term, _, part, pads, written⟩ := exists_of_forall₂ each.flip member
  exact (written.balanced foreign).of_pads pads fun c separator => (foreign c separator).2.2

theorem Concatenated.stripLeft {terms : List Term} {text : Text}
    (concatenated : Concatenated terms text) : Concatenated terms text.stripLeft := by
  obtain ⟨raws, some_raw, rfl, each⟩ := concatenated
  cases each with
  | nil => exact absurd rfl some_raw
  | @cons _ _ more terms own later =>
    obtain ⟨part, ⟨front, back, frontBlank, backBlank, rfl⟩, written⟩ := own
    obtain ⟨c, rest, rfl, visible⟩ := written.exists_cons
    refine ⟨(c :: (rest ++ back)) :: more, List.cons_ne_nil _ _, ?_,
      .cons ⟨_, ⟨[], back, rfl, backBlank, rfl⟩, written⟩ later⟩
    have whole : List.intercalate ['+'] ((front ++ (c :: rest ++ back)) :: more) =
        front ++ List.intercalate ['+'] ((c :: (rest ++ back)) :: more) := by
      cases more <;> simp [List.intercalate]
    have shown : ∃ others,
        List.intercalate ['+'] ((c :: (rest ++ back)) :: more) = c :: others := by
      cases more <;> simp [List.intercalate]
    obtain ⟨others, shown⟩ := shown
    have gone : Text.stripLeft (front ++ c :: others) = Text.stripLeft (c :: others) :=
      List.dropWhile_append_of_pos fun d member => Text.isBlank_of_mem frontBlank member
    rw [whole, shown, gone, Text.stripLeft_cons visible]

theorem Concatenated.stripRight {terms : List Term} {text : Text}
    (concatenated : Concatenated terms text) : Concatenated terms text.stripRight := by
  obtain ⟨raws, some_raw, rfl, each⟩ := concatenated
  induction each with
  | nil => exact absurd rfl some_raw
  | @cons raw term more terms own later ih =>
    cases later with
    | nil =>
      obtain ⟨part, ⟨front, back, frontBlank, backBlank, rfl⟩, written⟩ := own
      refine ⟨[front ++ part], List.cons_ne_nil _ _, ?_,
        .cons ⟨part, ⟨front, [], frontBlank, rfl, by rw [List.append_nil]⟩, written⟩ .nil⟩
      obtain ⟨others, c, rfl, visible⟩ := written.exists_concat
      rw [List.intercalate_singleton, List.intercalate_singleton, ← List.append_assoc,
        Text.stripRight_append backBlank, ← List.append_assoc, Text.stripRight_concat visible]
    | @cons next _ others _ second later =>
      obtain ⟨raws, some_later, same, each⟩ := ih (List.cons_ne_nil _ _)
      refine ⟨raw :: raws, List.cons_ne_nil _ _, ?_, .cons own each⟩
      have filled : Text.stripRight (List.intercalate ['+'] (next :: others)) ≠ [] := by
        intro empty
        obtain ⟨first, member⟩ := List.exists_mem_of_ne_nil raws some_later
        obtain ⟨_, _, _, ⟨_, _, _, _, rfl⟩, written⟩ := exists_of_forall₂ each.flip member
        obtain ⟨c, rest, rfl, _⟩ := written.exists_cons
        have inside : c ∈ List.intercalate ['+'] raws := Text.mem_intercalate (by simp) member
        rw [← same, empty] at inside
        cases inside
      obtain ⟨first, rest, rfl⟩ := List.exists_cons_of_ne_nil some_later
      have split (first : Text) (rest : List Text) :
          List.intercalate ['+'] (raw :: first :: rest) =
            raw ++ ['+'] ++ List.intercalate ['+'] (first :: rest) := by
        simp [List.intercalate]
      rw [split, split, Text.stripRight_append_of_ne_nil filled, same]

theorem Concatenated.strip {terms : List Term} {text : Text}
    (concatenated : Concatenated terms text) : Concatenated terms text.strip :=
  concatenated.stripLeft.stripRight

/-- A text is cut at its plus signs into parts that are terms exactly if it is written as these
terms one after another. -/
theorem exists_parts_iff_concatenated {text : Text} {terms : List Term} :
    (∃ found, parts text = .ok found ∧
      List.Forall₂ (fun part term => ofPart text part = .ok term) found terms) ↔
        Concatenated terms text := by
  simp only [ofPart_eq_ok_iff]
  constructor
  · rintro ⟨found, cut, read⟩
    rw [parts] at cut
    split at cut
    · cases cut
    · cases apart : text.split '+' with
      | error fault =>
        rw [apart] at cut
        cases cut
      | ok stripped =>
        rw [apart] at cut
        cases cut
        obtain ⟨raws, some_raw, whole, rfl, -⟩ := Text.exists_intercalate_of_split apart
        refine ⟨raws, some_raw, whole, ?_⟩
        rw [List.forall₂_map_left_iff] at read
        exact read.imp fun raw term written => ⟨raw.strip, raw.pads_strip, written⟩
  · rintro ⟨raws, some_raw, rfl, each⟩
    -- no term has a plus sign outside its own parentheses and literals, so the text is cut between
    -- them
    have stripped : List.Forall₂ (fun raw (term : Term) => term.Written raw.strip) raws terms := by
      refine each.imp ?_
      rintro raw term ⟨part, pads, written⟩
      rw [pads.strip_eq, written.strip_eq]
      exact written
    have apart : Text.split '+' (List.intercalate ['+'] raws) = .ok (raws.map Text.strip) := by
      refine Text.split_intercalate (by decide) some_raw fun raw member => ?_
      obtain ⟨term, _, part, pads, written⟩ := exists_of_forall₂ each.flip member
      exact (written.balanced (by decide)).of_pads pads (by decide)
    have visible : Text.isAllBlank (List.intercalate ['+'] raws) ≠ true := by
      intro blank
      obtain ⟨raw, member⟩ := List.exists_mem_of_ne_nil raws some_raw
      obtain ⟨term, _, written⟩ := exists_of_forall₂ stripped.flip member
      refine written.ne_nil (Text.strip_eq_nil ?_)
      exact List.all_eq_true.mpr fun c inside =>
        Text.isBlank_of_mem blank (Text.mem_intercalate inside member)
    refine ⟨raws.map Text.strip, ?_, List.forall₂_map_left_iff.mpr stripped⟩
    rw [parts, if_neg visible, apart]
    rfl

end Term

namespace Plan

variable {functions : Registry} {engine : FormulaEngine} {text : Text} {plan : Plan}

/-- A text is prepared as a text expression exactly if it is written as terms whose calls can be
bound. Whatever way it is written so, the segments of its plan are those of the terms, in order and
one for each. -/
theorem prepare_text_eq_ok_iff_concatenated :
    (prepare functions engine .text text).result = .ok plan ↔
      ∃ (terms : List Term) (segments : List Segment),
        Term.Concatenated terms text ∧ plan = .text segments ∧
        List.Forall₂ (Segment.Renders functions fun kind plain plan =>
          (prepare functions engine kind plain).result = .ok plan) terms segments := by
  rw [prepare_text_eq_ok_iff]
  constructor
  · rintro ⟨parts, segments, rfl, cut, each⟩
    obtain ⟨terms, read, renders⟩ := forall₂_comp_iff.mp each
    exact ⟨terms, segments, Term.exists_parts_iff_concatenated.mp ⟨parts, cut, read⟩, rfl, renders⟩
  · rintro ⟨terms, segments, concatenated, rfl, renders⟩
    obtain ⟨parts, cut, read⟩ := Term.exists_parts_iff_concatenated.mpr concatenated
    exact ⟨parts, segments, rfl, cut, forall₂_comp_iff.mpr ⟨terms, read, renders⟩⟩

end Plan
end SceneFormula
