import SceneFormula.Proofs.Balance
import SceneFormula.Proofs.Preparation
import SceneFormula.Proofs.Word

set_option autoImplicit false

namespace SceneFormula

namespace Name

/-- Whether a text is a word that a name can consist of. -/
def IsWord (text : Text) : Prop :=
  ∃ c rest, text = c :: rest ∧ isNameStart c = true ∧ ∀ d ∈ rest, isNamePart d = true

/-- Whether a name consists of words. -/
structure WellFormed (name : Name) : Prop where
  object : ∀ text, name.object? = some text → IsWord text
  member : IsWord name.member

theorem isNamePart_of_mem {word : Text} (isWord : IsWord word) {c : Char} (among : c ∈ word) :
    isNamePart c = true := by
  obtain ⟨first, rest, rfl, start, parts⟩ := isWord
  rcases List.mem_cons.mp among with rfl | later
  · exact isNamePart_of_isNameStart start
  · exact parts c later

theorem wordLength_append {word rest : Text} (isWord : IsWord word)
    (ends : ∀ c, rest.head? = some c → isNamePart c = false) :
    wordLength (word ++ rest) = word.length := by
  obtain ⟨c, tail, rfl, start, parts⟩ := isWord
  have run := takeWhile_append_of_ends parts ends
  simp [wordLength, start, run, Nat.add_comm]

theorem front?_text_append {name : Name} (wellFormed : name.WellFormed) {rest : Text}
    (ends : ∀ c, rest.head? = some c → isNamePart c = false ∧ c ≠ '.') :
    front? (name.text ++ rest) = some name := by
  have filled {word : Text} (isWord : IsWord word) : word.length ≠ 0 := by
    obtain ⟨c, tail, rfl, -, -⟩ := isWord
    exact Nat.succ_ne_zero _
  have stops : ∀ c, rest.head? = some c → isNamePart c = false := fun c head => (ends c head).1
  obtain ⟨object?, member⟩ := name
  cases object? with
  | none =>
    have size := wordLength_append wellFormed.member stops
    rw [text, front?]
    simp only [size, filled wellFormed.member, if_false, List.drop_left, List.take_left]
    split
    · exact absurd rfl (ends '.' rfl).2
    · rfl
  | some object =>
    have first := wellFormed.object object rfl
    have size : wordLength (object ++ '.' :: (member ++ rest)) = object.length :=
      wordLength_append first (by rintro c ⟨⟩; decide)
    have more := wordLength_append wellFormed.member stops
    rw [text, List.append_assoc, List.cons_append, front?]
    simp only [size, filled first, filled wellFormed.member, if_false, List.drop_left,
      List.take_left, more]

theorem wellFormed_of_front? {text : Text} {name : Name} (found : front? text = some name) :
    name.WellFormed := by
  have word {c : Char} {rest : Text} (start : isNameStart c = true) :
      IsWord (c :: rest.takeWhile isNamePart) :=
    ⟨c, _, rfl, start, fun _ => of_mem_takeWhile⟩
  obtain ⟨c, rest, -, start, rfl | ⟨d, tail, next, rfl⟩⟩ := front?_eq_some found
  · exact ⟨nofun, word start⟩
  · exact ⟨by rintro _ ⟨⟩; exact word start, word next⟩

theorem isNamePart_or_dot_of_mem {name : Name} (wellFormed : name.WellFormed) {c : Char}
    (among : c ∈ name.text) : isNamePart c = true ∨ c = '.' := by
  obtain ⟨object?, member⟩ := name
  cases object? with
  | none => exact .inl (isNamePart_of_mem wellFormed.member among)
  | some object =>
    rcases List.mem_append.mp among with front | back
    · exact .inl (isNamePart_of_mem (wellFormed.object object rfl) front)
    · rcases List.mem_cons.mp back with rfl | later
      · exact .inr rfl
      · exact .inl (isNamePart_of_mem wellFormed.member later)

theorem exists_cons_of_wellFormed {name : Name} (wellFormed : name.WellFormed) :
    ∃ c rest, name.text = c :: rest ∧ isNameStart c = true := by
  obtain ⟨object?, member⟩ := name
  cases object? with
  | none =>
    obtain ⟨c, rest, rfl, start, -⟩ := wellFormed.member
    exact ⟨c, rest, rfl, start⟩
  | some object =>
    obtain ⟨c, rest, rfl, start, -⟩ := wellFormed.object object rfl
    exact ⟨c, rest ++ '.' :: member, rfl, start⟩

end Name

/-- Whether a text can be the argument of a call: it is not empty, has no blanks at its ends, and
is balanced without a comma outside of its parentheses. -/
structure Text.IsArgument (text : Text) : Prop where
  filled : text ≠ []
  trimmed : text.strip = text
  balanced : text.Balanced [','] 0

namespace Call

/-- How arguments may be written between the parentheses of a call. -/
inductive Lists : List Text → Text → Prop
  | none {inner : Text} (blank : inner.isAllBlank = true) : Lists [] inner
  | some {arguments raws : List Text} (filled : raws ≠ [])
    (each : List.Forall₂ (fun argument raw => argument.IsArgument ∧ argument.Pads raw)
      arguments raws) : Lists arguments (List.intercalate [','] raws)

/-- Whether the source of a call is its name, blanks, and its arguments in parentheses. -/
structure Written (cut : Call) : Prop where
  name : cut.name.WellFormed
  source : ∃ blanks inner : Text, blanks.isAllBlank = true ∧ Lists cut.arguments inner ∧
    cut.source = cut.name.text ++ (blanks ++ '(' :: (inner ++ [')']))

theorem Lists.balanced {arguments : List Text} {inner : Text} (lists : Lists arguments inner) :
    inner.Balanced [] 0 := by
  cases lists with
  | none blank => exact .of_isAllBlank (by simp) blank
  | @some _ raws _ each =>
    refine .intercalate (by decide) (by simp) fun raw member => ?_
    obtain ⟨argument, _, isArgument, pads⟩ := exists_of_forall₂ each member
    exact (isArgument.balanced.mono (by simp)).of_pads pads (by simp)

theorem lists_of_argumentsOf {name : Name} {arguments : List Text} {inner : Text}
    (balanced : inner.Balanced [] 0) (cut : argumentsOf name inner = .ok arguments) :
    Lists arguments inner := by
  rw [argumentsOf] at cut
  split at cut
  · rename_i blank
    cases cut
    exact .none blank
  · split at cut
    · cases cut
    · rename_i parts apart
      split at cut
      · cases cut
      · rename_i filled
        cases cut
        obtain ⟨raws, some_raw, rfl, rfl, each⟩ := Text.exists_intercalate_of_split apart
        refine .some some_raw ?_
        rw [List.forall₂_map_left_iff, List.forall₂_same]
        intro raw member
        refine ⟨⟨fun empty => ?_, raw.strip_strip, (each balanced raw member).strip⟩,
          raw.pads_strip⟩
        exact filled (empty ▸ List.mem_map_of_mem member)

theorem Lists.argumentsOf_eq {arguments : List Text} {inner : Text} (lists : Lists arguments inner)
    (name : Name) : argumentsOf name inner = .ok arguments := by
  rw [argumentsOf]
  cases lists with
  | none blank => rw [if_pos blank]
  | @some _ raws some_raw each =>
    have parts : raws.map Text.strip = arguments := by
      rw [← List.forall₂_eq_eq_eq, List.forall₂_map_left_iff]
      exact each.flip.imp fun raw argument own => own.2.strip_eq.trans own.1.trimmed
    have visible : Text.isAllBlank (List.intercalate [','] raws) ≠ true := by
      intro blank
      obtain ⟨raw, member⟩ := List.exists_mem_of_ne_nil raws some_raw
      obtain ⟨argument, _, isArgument, pads⟩ := exists_of_forall₂ each member
      have nothing : raw.strip = [] := Text.strip_eq_nil <| List.all_eq_true.mpr fun c inside =>
        Text.isBlank_of_mem blank (Text.mem_intercalate inside member)
      rw [pads.strip_eq, isArgument.trimmed] at nothing
      exact isArgument.filled nothing
    have apart : Text.split ',' (List.intercalate [','] raws) = .ok (raws.map Text.strip) := by
      refine Text.split_intercalate (by decide) some_raw fun raw member => ?_
      obtain ⟨argument, _, isArgument, pads⟩ := exists_of_forall₂ each member
      exact isArgument.balanced.of_pads pads (by decide)
    have filled : [] ∉ arguments := by
      intro empty
      obtain ⟨raw, _, isArgument, _⟩ := exists_of_forall₂ each.flip empty
      exact isArgument.filled rfl
    rw [if_neg visible, apart, parts]
    simp only [filled, if_false]

/-- A call that is written as it should be is balanced, whatever separators that are no part of a
name are kept out. -/
theorem Written.balanced {cut : Call} (written : cut.Written) {separators : List Char}
    (foreign : ∀ c ∈ separators, isNamePart c = false ∧ c ≠ '.' ∧ isBlank c = false) :
    cut.source.Balanced separators 0 := by
  obtain ⟨blanks, inner, blank, lists, source⟩ := written.source
  have name : cut.name.text.Balanced separators 0 := by
    refine .of_plain fun c member => ?_
    rcases Name.isNamePart_or_dot_of_mem written.name member with part | rfl
    · refine ⟨fun separator => ?_, fun special => ?_⟩
      · rw [(foreign c separator).1] at part
        cases part
      · have each : ∀ c ∈ [Literal.quote, '(', ')'], isNamePart c = false := by decide
        rw [each c special] at part
        cases part
    · exact ⟨fun separator => (foreign '.' separator).2.1 rfl, by decide⟩
  rw [source]
  refine name.beside (.beside ?_ (.parenthesized lists.balanced))
  exact .of_isAllBlank (fun c separator => (foreign c separator).2.2) blank

theorem Written.exists_cons {cut : Call} (written : cut.Written) :
    ∃ c rest, cut.source = c :: rest ∧ isNameStart c = true := by
  obtain ⟨c, tail, text, start⟩ := Name.exists_cons_of_wellFormed written.name
  obtain ⟨blanks, inner, -, -, source⟩ := written.source
  exact ⟨c, tail ++ (blanks ++ '(' :: (inner ++ [')'])), by rw [source, text]; rfl, start⟩

theorem Written.exists_concat {cut : Call} (written : cut.Written) :
    ∃ front, cut.source = front ++ [')'] := by
  obtain ⟨blanks, inner, -, -, source⟩ := written.source
  exact ⟨cut.name.text ++ (blanks ++ '(' :: inner), by rw [source]; simp⟩

/-- Behind a name, blanks and balanced parentheses make a call of it if there are arguments in the
parentheses. -/
theorem front?_append {name : Name} {blanks inner after : Text} (position : Nat)
    (named : Name.front? (name.text ++ (blanks ++ '(' :: (inner ++ ')' :: after))) = some name)
    (blank : blanks.isAllBlank = true) (balanced : inner.Balanced [] 0) :
    front? position (name.text ++ (blanks ++ '(' :: (inner ++ ')' :: after))) =
      (argumentsOf name inner).map fun arguments =>
        some ⟨name, arguments, name.text ++ (blanks ++ '(' :: (inner ++ [')']))⟩ := by
  have run : (blanks ++ '(' :: (inner ++ ')' :: after)).takeWhile isBlank = blanks :=
    takeWhile_append_of_ends (fun c => Text.isBlank_of_mem blank) (by rintro c ⟨⟩; decide)
  generalize opens : position + (name.text.length + blanks.length) = opening
  have closes : Text.closingFrom opening 0 opening (Text.pieces ('(' :: (inner ++ ')' :: after))) =
      .ok (opening + 1 + inner.length) := by
    rw [Text.pieces_cons (by decide), Text.closingFrom_opening]
    exact balanced.closingFrom_eq opening (opening + 1) after
  have width : opening + 1 + inner.length - opening - 1 = inner.length := by omega
  have source : (name.text ++ (blanks ++ '(' :: (inner ++ ')' :: after))).take
      (name.text.length + blanks.length + inner.length + 2) =
        name.text ++ (blanks ++ '(' :: (inner ++ [')'])) := by
    have cut : name.text ++ (blanks ++ '(' :: (inner ++ ')' :: after)) =
        name.text ++ (blanks ++ '(' :: (inner ++ [')'])) ++ after := by simp
    rw [cut, List.take_left']
    simp only [List.length_append, List.length_cons, List.length_nil]
    omega
  rw [front?, named]
  simp only [List.drop_left, run, opens, closes, width, List.take_left, source]
  cases argumentsOf name inner <;> rfl

theorem exists_parentheses_of_front? {position : Nat} {text : Text} {cut : Call}
    (found : front? position text = .ok (some cut)) :
    ∃ (name : Name) (blanks inner after : Text),
      text = name.text ++ (blanks ++ '(' :: (inner ++ ')' :: after)) ∧
      Name.front? text = some name ∧ blanks.isAllBlank = true ∧ inner.Balanced [] 0 := by
  rw [front?] at found
  split at found
  · cases found
  · rename_i name named
    have whole := Name.text_append_drop_of_front? named
    generalize text.drop name.text.length = rest at found whole
    have split := List.takeWhile_append_dropWhile (p := isBlank) (l := rest)
    simp only [drop_length_takeWhile] at found
    split at found
    · rename_i inside opened
      rw [Text.pieces_cons (by decide), Text.closingFrom_opening] at found
      split at found
      · cases found
      · rename_i closing closed
        have closed : Text.closingFrom _ ((0 : Nat) + 1) _ _ = .ok closing := closed
        obtain ⟨inner, after, rfl, -, balanced⟩ := Text.exists_balanced_of_closingFrom closed
        refine ⟨name, rest.takeWhile isBlank, inner, after, ?_, named, List.all_takeWhile,
          balanced⟩
        rw [← whole, ← opened, split]
    · cases found

theorem name_front?_append {name : Name} (wellFormed : name.WellFormed) {blanks : Text}
    (blank : blanks.isAllBlank = true) (rest : Text) :
    Name.front? (name.text ++ (blanks ++ '(' :: rest)) = some name := by
  refine Name.front?_text_append wellFormed fun c head => ?_
  cases blanks with
  | nil =>
    cases head
    decide
  | cons b blanks =>
    cases head
    have own := Text.isBlank_of_mem blank List.mem_cons_self
    refine ⟨?_, fun same => ?_⟩
    · rw [← Bool.not_eq_true]
      intro part
      have blocks := blocks_of_isNamePart part
      rw [blocks_eq_false_of_isBlank own] at blocks
      cases blocks
    · rw [same] at own
      exact absurd own (by decide)

/-- A call is found at the front of a text exactly if the text starts with a call that is written
as it should be, wherever the text stands. -/
theorem front?_eq_ok_some_iff {position : Nat} {text : Text} {cut : Call} :
    front? position text = .ok (some cut) ↔ cut.Written ∧ cut.source <+: text := by
  constructor
  · intro found
    obtain ⟨name, blanks, inner, after, rfl, named, blank, balanced⟩ :=
      exists_parentheses_of_front? found
    rw [front?_append position named blank balanced] at found
    cases lists : argumentsOf name inner with
    | error fault =>
      rw [lists] at found
      cases found
    | ok arguments =>
      rw [lists] at found
      cases found
      refine ⟨⟨Name.wellFormed_of_front? named, blanks, inner, blank, ?_, rfl⟩, after, by simp⟩
      exact lists_of_argumentsOf balanced lists
  · rintro ⟨⟨wellFormed, blanks, inner, blank, lists, source⟩, after, rfl⟩
    have shape : cut.source ++ after =
        cut.name.text ++ (blanks ++ '(' :: (inner ++ ')' :: after)) := by simp [source]
    have named := name_front?_append wellFormed blank (inner ++ ')' :: after)
    rw [shape, front?_append position named blank lists.balanced, lists.argumentsOf_eq, ← source]
    rfl

end Call
end SceneFormula
