import SceneFormula.Proofs.Invocation
import SceneFormula.Proofs.SlotOrder

set_option autoImplicit false

namespace SceneFormula

namespace Name

variable {back : Text}

theorem wordLength_append_blank (blank : back.isAllBlank = true) (text : Text) :
    wordLength (text ++ back) = wordLength text := by
  cases text with
  | nil =>
    cases back with
    | nil => rfl
    | cons c back =>
      have own : isBlank c = true := Text.isBlank_of_mem blank List.mem_cons_self
      simp [wordLength, isNameStart_eq_false_of_isBlank own]
  | cons c text =>
    simp only [List.cons_append, wordLength,
      Text.takeWhile_append_blank blank (fun c => isNamePart_eq_false_of_isBlank)]

/-- Blanks behind a text do not change the name at its front. -/
theorem front?_append_blank (blank : back.isAllBlank = true) (text : Text) :
    front? (text ++ back) = front? text := by
  have size := wordLength_le text
  simp only [front?, wordLength_append_blank blank, List.drop_append_of_le_length size,
    List.take_append_of_le_length size]
  split
  · rfl
  · generalize text.drop (wordLength text) = rest
    cases rest with
    | nil =>
      cases back with
      | nil => rfl
      | cons c back =>
        have own : isBlank c = true := Text.isBlank_of_mem blank List.mem_cons_self
        rw [List.nil_append]
        split
        · rename_i same
          cases same
          exact absurd own (by decide)
        · rfl
    | cons c rest =>
      rw [List.cons_append]
      by_cases point : c = '.'
      · subst point
        simp only [wordLength_append_blank blank,
          List.take_append_of_le_length (wordLength_le rest)]
      · split
        · rename_i same
          cases same
          exact absurd rfl point
        · split
          · rename_i same
            cases same
            exact absurd rfl point
          · rfl

theorem isBlank_of_mem_text {text : Text} {name : Name} (named : front? text = some name) {c : Char}
    (member : c ∈ name.text) : isBlank c = false := by
  rw [Bool.eq_false_iff]
  intro blank
  have blocks := blocks_of_mem_text named member
  rw [blocks_eq_false_of_isBlank blank] at blocks
  cases blocks

end Name

namespace Call

theorem front?_eq_ok_none_iff {position : Nat} {text : Text} :
    front? position text = .ok none ↔ ∀ name, Name.front? text = some name →
      ((text.drop name.text.length).dropWhile isBlank).head? ≠ some '(' := by
  rw [front?]
  cases Name.front? text with
  | none => simp
  | some name =>
    simp only [drop_length_takeWhile, Option.some.injEq, forall_eq']
    generalize (text.drop name.text.length).dropWhile isBlank = rest
    split
    · refine iff_of_false (fun found => ?_) (by simp)
      split at found
      · cases found
      · split at found <;> cases found
    · rename_i closed
      refine iff_of_true rfl fun head => ?_
      obtain ⟨inside, rfl⟩ := List.head?_eq_some_iff.mp head
      exact closed inside rfl

theorem front?_eq_ok_of_position {position : Nat} {text : Text} {found : Option Call}
    (success : front? position text = .ok found) (other : Nat) :
    front? other text = .ok found := by
  cases found with
  | none => exact front?_eq_ok_none_iff.mpr (front?_eq_ok_none_iff.mp success)
  | some cut => exact front?_eq_ok_some_iff.mpr (front?_eq_ok_some_iff.mp success)

theorem Written.exists_append_of_append_blank {cut : Call} (written : cut.Written)
    {rest text back : Text} (blank : back.isAllBlank = true)
    (whole : cut.source ++ rest = text ++ back) :
    ∃ inner, text = cut.source ++ inner ∧ rest = inner ++ back := by
  rcases List.append_eq_append_iff.mp whole with ⟨inner, here, after⟩ | ⟨beyond, here, after⟩
  · exact ⟨inner, here, after⟩
  · obtain ⟨front, ends⟩ := written.exists_concat
    rcases List.eq_nil_or_concat' beyond with rfl | ⟨before, last, rfl⟩
    · rw [List.append_nil] at here
      exact ⟨[], by rw [List.append_nil, here], after.symm⟩
    · rw [ends, ← List.append_assoc] at here
      obtain ⟨-, same⟩ := List.append_inj' here rfl
      cases same
      have own : isBlank ')' = true := Text.isBlank_of_mem blank (by rw [after]; simp)
      exact absurd own (by decide)

/-- Blanks behind a text do not make a call at its front, nor spoil one. -/
theorem front?_eq_ok_of_append_blank {position : Nat} {text back : Text} {found : Option Call}
    (blank : back.isAllBlank = true) (success : front? position (text ++ back) = .ok found) :
    front? position text = .ok found := by
  cases found with
  | none =>
    rw [front?_eq_ok_none_iff, Name.front?_append_blank blank] at success
    rw [front?_eq_ok_none_iff]
    intro name named opened
    refine success name named ?_
    have size : name.text.length ≤ text.length := by
      have whole := congrArg List.length (Name.text_append_drop_of_front? named)
      rw [List.length_append] at whole
      omega
    obtain ⟨rest, shape⟩ := List.head?_eq_some_iff.mp opened
    rw [List.drop_append_of_le_length size, List.dropWhile_append, shape]
    rfl
  | some cut =>
    obtain ⟨written, after, whole⟩ := front?_eq_ok_some_iff.mp success
    obtain ⟨inner, rfl, -⟩ := written.exists_append_of_append_blank blank whole
    exact front?_eq_ok_some_iff.mpr ⟨written, List.prefix_append _ _⟩

end Call

namespace Draft

/-- Whether a name at the front of a text stays there when the text is drafted: it is called as what
the formula has built in, or not called and no slot's. -/
def Keeps (isBuiltin : Name → Bool) (name : Name) (text : Text) : Prop :=
  Call.front? 0 text = .ok none ∧ slotPrefix.isPrefixOf name.text = false ∨
    (∃ cut, Call.front? 0 text = .ok (some cut)) ∧ isBuiltin name = true

theorem Keeps.of_append_blank {isBuiltin : Name → Bool} {name : Name} {text back : Text}
    (kept : Keeps isBuiltin name (text ++ back)) (blank : back.isAllBlank = true) :
    Keeps isBuiltin name text :=
  kept.imp (And.imp_left (Call.front?_eq_ok_of_append_blank blank))
    (And.imp_left (Exists.imp fun _ => Call.front?_eq_ok_of_append_blank blank))

/-- Whether a text after a character is drafted as parts, without a fault. -/
inductive Cuts (isBuiltin : Name → Bool) : Option Char → Text → List Part → Prop
  | nil {previous : Option Char} : Cuts isBuiltin previous [] []
  | character {previous : Option Char} {c : Char} {rest : Text} {parts : List Part}
    (unquoted : c ≠ Literal.quote) (nameless : Name.startsAfter previous (c :: rest) = false)
    (later : Cuts isBuiltin (some c) rest parts) :
    Cuts isBuiltin previous (c :: rest) (.verbatim [c] :: parts)
  | name {previous : Option Char} {name : Name} {rest : Text} {parts : List Part}
    (starts : Name.startsAfter previous (name.text ++ rest) = true)
    (named : Name.front? (name.text ++ rest) = some name)
    (kept : Keeps isBuiltin name (name.text ++ rest))
    (later : Cuts isBuiltin name.text.getLast? rest parts) :
    Cuts isBuiltin previous (name.text ++ rest) (.verbatim name.text :: parts)
  | call {previous : Option Char} {cut : Call} {rest : Text} {parts : List Part}
    (starts : Name.startsAfter previous (cut.source ++ rest) = true) (written : cut.Written)
    (foreign : isBuiltin cut.name = false)
    (later : Cuts isBuiltin cut.source.getLast? rest parts) :
    Cuts isBuiltin previous (cut.source ++ rest) (.call cut :: parts)

section Scan

variable {isBuiltin : Name → Bool} {previous : Option Char} {position : Nat} {text : Text}

theorem scan_character {c : Char} {rest : Text} (unquoted : c ≠ Literal.quote)
    (nameless : Name.startsAfter previous (c :: rest) = false) :
    scan isBuiltin previous position (c :: rest) =
      after (.verbatim [c]) (scan isBuiltin (some c) (position + 1) rest) := by
  rw [scan, if_neg unquoted]
  split
  · rfl
  · rename_i named
    rw [nameless, if_neg Bool.false_ne_true] at named
    cases named

theorem ne_quote_of_startsAfter {c : Char} {rest : Text}
    (starts : Name.startsAfter previous (c :: rest) = true) : c ≠ Literal.quote := by
  rintro rfl
  simp only [Name.startsAfter_cons, Bool.and_eq_true] at starts
  exact absurd starts.1 (by decide)

theorem scan_name {name : Name} {found : Option Call}
    (starts : Name.startsAfter previous text = true) (named : Name.front? text = some name)
    (called : Call.front? 0 text = .ok found) :
    scan isBuiltin previous position text =
      if (found.isNone && !slotPrefix.isPrefixOf name.text) ||
          (found.isSome && isBuiltin name) then
        after (.verbatim name.text) (scan isBuiltin name.text.getLast?
          (position + name.text.length) (text.drop name.text.length))
      else
        match found with
        | none => stop (.reservedName name)
        | some call =>
          after (.call call) (scan isBuiltin call.source.getLast?
            (position + call.source.length) (text.drop call.source.length)) := by
  cases text with
  | nil => cases named
  | cons c rest =>
    have called := Call.front?_eq_ok_of_position called position
    rw [scan, if_neg (ne_quote_of_startsAfter starts)]
    split
    · rename_i unnamed
      rw [if_pos starts, named] at unnamed
      cases unnamed
    · rename_i other same
      rw [if_pos starts, named] at same
      cases same
      split
      · rename_i failed
        rw [called] at failed
        cases failed
      · rename_i same
        rw [called] at same
        cases same
        cases found <;> rfl

theorem cuts_of_scan {parts : List Part}
    (done : scan isBuiltin previous position text = ⟨parts, none⟩) :
    Cuts isBuiltin previous text parts := by
  -- A part in front of parts without a fault.
  have split {part : Part} {draft : Draft} {parts : List Part}
      (done : after part draft = ⟨parts, none⟩) :
      parts = part :: draft.parts ∧ draft = ⟨draft.parts, none⟩ := by
    cases draft
    cases done
    exact ⟨rfl, rfl⟩
  fun_induction scan isBuiltin previous position text generalizing parts with
  | case1 =>
    cases done
    exact .nil
  | case2 => cases done
  | case3 previous position c rest unquoted unnamed ih =>
    obtain ⟨rfl, faultless⟩ := split done
    exact .character unquoted (startsAfter_of_unnamed unnamed) (ih faultless)
  | case4 => cases done
  | case5 previous position c rest _ name named found called kept ih =>
    obtain ⟨rfl, faultless⟩ := split done
    obtain ⟨starts, first⟩ := startsAfter_of_named named
    have whole := Name.text_append_drop_of_front? first
    have called := Call.front?_eq_ok_of_position called 0
    have keeps : Keeps isBuiltin name (c :: rest) := by
      simp only [Bool.or_eq_true, Bool.and_eq_true, Bool.not_eq_true'] at kept
      rcases kept with ⟨missing, unslotted⟩ | ⟨present, builtin⟩
      · rw [Option.isNone_iff_eq_none.mp missing] at called
        exact .inl ⟨called, unslotted⟩
      · obtain ⟨cut, rfl⟩ := Option.isSome_iff_exists.mp present
        exact .inr ⟨⟨cut, called⟩, builtin⟩
    have later := ih faultless
    generalize (c :: rest).drop name.text.length = tail at whole later
    rw [← whole] at starts first keeps ⊢
    exact .name starts first keeps later
  | case6 => cases done
  | case7 previous position c rest _ name named cut called _ foreign ih =>
    obtain ⟨rfl, faultless⟩ := split done
    obtain ⟨starts, first⟩ := startsAfter_of_named named
    obtain ⟨written, tail, whole⟩ := Call.front?_eq_ok_some_iff.mp called
    have same : cut.name = name :=
      Option.some.inj ((Call.front?_name called).symm.trans first)
    have later := ih faultless
    rw [← whole] at starts later ⊢
    simp only [List.drop_left] at later ⊢
    refine .call starts written ?_ later
    rw [same]
    simpa using foreign

theorem Cuts.scan_eq {parts : List Part} (cuts : Cuts isBuiltin previous text parts) :
    scan isBuiltin previous position text = ⟨parts, none⟩ := by
  induction cuts generalizing position with
  | nil => rw [scan]
  | character unquoted nameless _ ih =>
    rw [scan_character unquoted nameless, ih]
    rfl
  | @name previous name rest parts starts named kept _ ih =>
    rcases kept with ⟨missing, unslotted⟩ | ⟨⟨cut, called⟩, builtin⟩
    · rw [scan_name starts named missing, unslotted, List.drop_left, ih]
      rfl
    · rw [scan_name starts named called, builtin, List.drop_left, ih]
      rfl
  | @call previous cut rest parts starts written foreign _ ih =>
    have called : Call.front? 0 (cut.source ++ rest) = .ok (some cut) :=
      Call.front?_eq_ok_some_iff.mpr ⟨written, List.prefix_append _ _⟩
    rw [scan_name starts (Call.front?_name called) called, foreign]
    simp only [Option.isNone_some, Bool.false_and, Bool.and_false, Bool.or_self,
      Bool.false_eq_true, if_false, List.drop_left, ih]
    rfl

/-- The scan finds the parts of a text exactly if the text is drafted as these. -/
theorem scan_eq_iff {parts : List Part} :
    scan isBuiltin previous position text = ⟨parts, none⟩ ↔
      Cuts isBuiltin previous text parts :=
  ⟨cuts_of_scan, Cuts.scan_eq⟩

end Scan

section Blanks

variable {isBuiltin : Name → Bool} {previous : Option Char} {text : Text} {parts : List Part}

/-- Characters as parts of their own. -/
def characters (text : Text) : List Part :=
  text.map fun c => .verbatim [c]

/-- The character before a text plays a part only if it blocks names. -/
theorem Cuts.of_previous {other : Option Char} (cuts : Cuts isBuiltin previous text parts)
    (same : previous.any Name.blocks = other.any Name.blocks) :
    Cuts isBuiltin other text parts := by
  have starts (text : Text) : Name.startsAfter other text = Name.startsAfter previous text :=
    congrArg (fun blocked => text.head?.any isNameStart && !blocked) same.symm
  cases cuts with
  | nil => exact .nil
  | character unquoted nameless later =>
    exact .character unquoted ((starts _).trans nameless) later
  | name begins named kept later => exact .name ((starts _).trans begins) named kept later
  | call begins written foreign later =>
    exact .call ((starts _).trans begins) written foreign later

theorem Cuts.eq_nil (cuts : Cuts isBuiltin previous [] parts) : parts = [] := by
  generalize empty : ([] : Text) = text at cuts
  cases cuts with
  | nil => rfl
  | character => cases empty
  | name _ named =>
    rw [← empty] at named
    cases named
  | call _ written =>
    obtain ⟨c, rest, source, -⟩ := written.exists_cons
    rw [source] at empty
    cases empty

/-- Nothing but a character of its own starts with a blank. -/
theorem Cuts.cons_blank {c : Char} (blank : isBlank c = true)
    (cuts : Cuts isBuiltin previous (c :: text) parts) :
    ∃ inner, parts = .verbatim [c] :: inner ∧ Cuts isBuiltin (some c) text inner := by
  have unstarted {rest : Text} (same : rest = c :: text) :
      ¬ Name.startsAfter previous rest = true := by
    rw [same, Name.startsAfter_cons, isNameStart_eq_false_of_isBlank blank]
    nofun
  generalize whole : c :: text = long at cuts
  cases cuts with
  | nil => cases whole
  | character _ _ later =>
    cases whole
    exact ⟨_, rfl, later⟩
  | name starts => exact absurd starts (unstarted whole.symm)
  | call starts => exact absurd starts (unstarted whole.symm)

theorem Cuts.of_blank_append {front : Text} (blank : front.isAllBlank = true)
    (unblocked : previous.any Name.blocks = false)
    (cuts : Cuts isBuiltin previous (front ++ text) parts) :
    ∃ inner, parts = characters front ++ inner ∧ Cuts isBuiltin none text inner := by
  induction front generalizing previous parts with
  | nil => exact ⟨parts, rfl, cuts.of_previous unblocked⟩
  | cons c front ih =>
    have own : isBlank c = true := Text.isBlank_of_mem blank List.mem_cons_self
    have later : Text.isAllBlank front = true := List.all_eq_true.mpr fun d member =>
      Text.isBlank_of_mem blank (List.mem_cons_of_mem c member)
    obtain ⟨rest, rfl, tail⟩ := cuts.cons_blank own
    have unblocked : (some c).any Name.blocks = false := blocks_eq_false_of_isBlank own
    obtain ⟨inner, rfl, rest⟩ := ih later unblocked tail
    exact ⟨inner, rfl, rest⟩

theorem Cuts.of_append_blank {back : Text} (blank : back.isAllBlank = true)
    (cuts : Cuts isBuiltin previous (text ++ back) parts) :
    ∃ inner, parts = inner ++ characters back ∧ Cuts isBuiltin previous text inner := by
  generalize whole : text ++ back = long at cuts
  induction cuts generalizing text with
  | nil =>
    obtain ⟨rfl, rfl⟩ := List.append_eq_nil_iff.mp whole
    exact ⟨[], rfl, .nil⟩
  | @character previous c rest parts unquoted nameless later ih =>
    cases text with
    | nil =>
      -- Nothing but the blanks is left.
      have all : Text.isAllBlank (c :: rest) = true := by rwa [← whole, List.nil_append]
      have tail : Text.isAllBlank rest = true := List.all_eq_true.mpr fun d member =>
        Text.isBlank_of_mem all (List.mem_cons_of_mem c member)
      have own : (some c).any Name.blocks = false :=
        blocks_eq_false_of_isBlank (Text.isBlank_of_mem all List.mem_cons_self)
      rw [← List.append_nil rest] at later
      obtain ⟨inner, rfl, cuts⟩ := later.of_blank_append tail own
      have same : back = c :: rest := whole
      rw [cuts.eq_nil, List.append_nil, same]
      exact ⟨[], rfl, .nil⟩
    | cons d text =>
      cases whole
      obtain ⟨inner, rfl, cuts⟩ := ih rfl
      exact ⟨.verbatim [c] :: inner, rfl,
        .character unquoted ((Name.startsAfter_eq_of_head? rfl previous).trans nameless) cuts⟩
  | @name previous name rest parts starts named kept later ih =>
    obtain ⟨inner, rfl, rfl⟩ : ∃ inner, text = name.text ++ inner ∧ rest = inner ++ back := by
      rcases List.append_eq_append_iff.mp whole.symm with
        ⟨inner, here, after⟩ | ⟨beyond, here, after⟩
      · exact ⟨inner, here, after⟩
      · cases beyond with
        | nil => exact ⟨[], by rw [here, List.append_nil, List.append_nil], after.symm⟩
        | cons c beyond =>
          have own : isBlank c = true := Text.isBlank_of_mem blank (by rw [after]; simp)
          rw [Name.isBlank_of_mem_text named (by rw [here]; simp)] at own
          cases own
    obtain ⟨tail, rfl, cuts⟩ := ih rfl
    have head (rest : Text) : (name.text ++ rest).head? = name.text.head? :=
      List.head?_append_of_ne_nil _ (Name.text_ne_nil_of_front? named)
    have starts : Name.startsAfter previous (name.text ++ inner) = true :=
      (Name.startsAfter_eq_of_head? ((head _).trans (head _).symm) _).trans starts
    rw [← List.append_assoc] at named kept
    rw [Name.front?_append_blank blank] at named
    exact ⟨.verbatim name.text :: tail, rfl, .name starts named (kept.of_append_blank blank) cuts⟩
  | @call previous cut rest parts starts written foreign later ih =>
    obtain ⟨inner, rfl, rfl⟩ := written.exists_append_of_append_blank blank whole.symm
    obtain ⟨tail, rfl, cuts⟩ := ih rfl
    obtain ⟨c, others, source, -⟩ := written.exists_cons
    refine ⟨.call cut :: tail, rfl, .call ?_ written foreign cuts⟩
    exact (Name.startsAfter_eq_of_head? (by simp [source]) _).trans starts

theorem cuts_of_faultless {position : Nat}
    (faultless : (scan isBuiltin previous position text).fault? = none) :
    Cuts isBuiltin previous text (scan isBuiltin previous position text).parts := by
  have drafted : scan isBuiltin previous position text =
      ⟨(scan isBuiltin previous position text).parts, none⟩ := by
    generalize scan isBuiltin previous position text = draft at faultless
    cases draft
    cases faultless
    rfl
  exact scan_eq_iff.mp drafted

theorem filterMap_call?_characters (text : Text) :
    (characters text).filterMap Part.call? = [] := by
  induction text with
  | nil => rfl
  | cons c text ih => exact ih

theorem rewriteFrom_characters_append (front : Text) (index : Nat) (parts : List Part) :
    rewriteFrom index (characters front ++ parts) = front ++ rewriteFrom index parts := by
  induction front with
  | nil => rfl
  | cons c front ih => exact congrArg (c :: ·) ih

theorem rewriteFrom_append_characters (back : Text) (index : Nat) (parts : List Part) :
    rewriteFrom index (parts ++ characters back) = rewriteFrom index parts ++ back := by
  induction parts generalizing index with
  | nil => simpa [rewriteFrom] using rewriteFrom_characters_append back index []
  | cons part parts ih =>
    cases part <;> simp [rewriteFrom, ih]

/-- Without the blanks at its ends a text has the same calls, and the same formula but for these
blanks. -/
theorem ofText_strip (faultless : (ofText isBuiltin text).fault? = none) :
    (ofText isBuiltin text.strip).fault? = none ∧
      (ofText isBuiltin text.strip).calls = (ofText isBuiltin text).calls ∧
      (ofText isBuiltin text.strip).rewritten.Pads (ofText isBuiltin text).rewritten := by
  have cuts := cuts_of_faultless faultless
  obtain ⟨front, back, frontBlank, backBlank, whole⟩ := text.pads_strip
  have known : (ofText isBuiltin text).parts = (scan isBuiltin none 0 text).parts := rfl
  rw [← known] at cuts
  conv at cuts => arg 3; rw [whole]
  obtain ⟨rest, left, later⟩ := cuts.of_blank_append frontBlank rfl
  obtain ⟨inner, rfl, stripped⟩ := later.of_append_blank backBlank
  have own : ofText isBuiltin text.strip = ⟨inner, none⟩ := scan_eq_iff.mpr stripped
  rw [own]
  refine ⟨rfl, ?_, front, back, frontBlank, backBlank, ?_⟩
  · rw [calls, calls, left, List.filterMap_append, List.filterMap_append,
      filterMap_call?_characters, filterMap_call?_characters, List.nil_append, List.append_nil]
  · rw [rewritten, rewritten, left, rewriteFrom_characters_append, rewriteFrom_append_characters]

end Blanks

end Draft
namespace Text

theorem marks_cons_of_mem {c : Char} (mark : c ∈ ['(', ')', ',']) (rest : Text) :
    marks (c :: rest) = c :: rest.marks :=
  List.filter_cons_of_pos (by simpa using mark)

theorem marks_cons_of_not_mem {c : Char} (unmarked : c ∉ ['(', ')', ',']) (rest : Text) :
    marks (c :: rest) = rest.marks :=
  List.filter_cons_of_neg (by simpa using unmarked)

/-- A character in front of a balanced text, if its parentheses and commas are balanced with
it. -/
theorem Balanced.cons_of_marks {c : Char} {depth : Nat} {text shown : Text}
    (unquoted : c ≠ Literal.quote) (balanced : (marks (c :: shown)).Balanced [','] depth)
    (later : ∀ depth, shown.marks.Balanced [','] depth → text.Balanced [','] depth) :
    Balanced [','] depth (c :: text) := by
  by_cases mark : c ∈ ['(', ')', ',']
  · rw [marks_cons_of_mem mark] at balanced
    generalize shown.marks = left at balanced later
    cases balanced with
    | opening inside => exact .opening (later _ inside)
    | closing outside => exact .closing (later _ outside)
    | literal => exact absurd rfl unquoted
    | other _ unopened unclosed kept after =>
      exact .other unquoted unopened unclosed kept (later _ after)
  · rw [marks_cons_of_not_mem mark] at balanced
    simp only [List.mem_cons, List.not_mem_nil, or_false, not_or] at mark
    exact .other unquoted mark.1 mark.2.1 (by simpa using fun _ => mark.2.2) (later _ balanced)

end Text

/-- A text is balanced, without commas outside of its parentheses, as soon as what is left of it
with slots for its calls is. -/
theorem Draft.Cuts.balanced {isBuiltin : Name → Bool} {previous : Option Char} {text : Text}
    {parts : List Part} (cuts : Cuts isBuiltin previous text parts) {index depth : Nat}
    (balanced : (rewriteFrom index parts).marks.Balanced [','] depth) :
    text.Balanced [','] depth := by
  have plain {word : Text} (word_ : ∀ c ∈ word, isNamePart c = true ∨ c = '.') :
      word.marks = [] ∧ word.Balanced [','] 0 := by
    have each : ∀ c ∈ word, c ∉ [',', Literal.quote, '(', ')'] := by
      intro c member special
      have known : ∀ c ∈ [',', Literal.quote, '(', ')'], ¬ (isNamePart c = true ∨ c = '.') := by
        decide
      exact known c special (word_ c member)
    simp only [List.mem_cons, List.not_mem_nil, or_false, not_or] at each
    refine ⟨Text.marks_eq_nil fun c member => ?_, .of_plain fun c member => ?_⟩
    · simp [each c member]
    · simp [each c member]
  induction cuts generalizing index depth with
  | nil => exact balanced
  | character unquoted _ _ ih => exact .cons_of_marks unquoted balanced fun depth => ih
  | @name _ name rest parts _ named _ _ ih =>
    obtain ⟨unmarked, own⟩ := plain fun c =>
      Name.isNamePart_or_dot_of_mem (Name.wellFormed_of_front? named)
    rw [rewriteFrom, Text.marks_append, unmarked] at balanced
    simpa using own.append (ih balanced) fun _ _ => id
  | @call _ cut rest parts _ written _ _ ih =>
    obtain ⟨unmarked, -⟩ := plain fun c member => .inl (isNamePart_of_mem_slotName member)
    rw [rewriteFrom, Text.marks_append, unmarked] at balanced
    simpa using (written.balanced (by decide)).append (ih balanced) fun _ _ => id

end SceneFormula
