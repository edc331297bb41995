import SceneFormula.Proofs.Invocation
import SceneFormula.Proofs.LongestMatch
import SceneFormula.Proofs.NameTokens
import SceneFormula.Proofs.Numeral

set_option autoImplicit false

namespace SceneFormula

namespace Token

/-- Whether a token is written as one of its kind. -/
inductive WellFormed : Token → Prop
  | blank {text : Text} (filled : text ≠ []) (blank : text.isAllBlank = true) :
    WellFormed (.blank text)
  | number {text : Text} (isNumber : IsNumber text) : WellFormed (.number text)
  | name {text : Text} (isWord : Name.IsWord text) : WellFormed (.name text)
  | power : WellFormed (.operator ['*', '*'])
  | single {c : Char} (operator : c ∈ operatorCharacters) : WellFormed (.operator [c])

/-- Whether a text is written as a token. -/
def IsWritten (text : Text) : Prop :=
  ∃ token, WellFormed token ∧ token.text = text

/-- Whether tokens make up a text, each of them the longest one that the rest of the text starts
with. -/
inductive Spells : List Token → Text → Prop
  | nil : Spells [] []
  | cons {token : Token} {tokens : List Token} {rest : Text} (wellFormed : token.WellFormed)
    (longest : Text.IsLongest IsWritten token.text (token.text ++ rest))
    (later : Spells tokens rest) : Spells (token :: tokens) (token.text ++ rest)

/-- What is cut off a text is written as a token. -/
theorem wellFormed_of_front? {s : Text} {make : Text → Token} {size : Nat}
    (found : front? s = some (make, size)) : (make (s.take size)).WellFormed := by
  cases s with
  | nil => cases found
  | cons c rest =>
    simp only [front?] at found
    split at found
    · rename_i blank
      cases found
      rw [Nat.add_comm, List.take_succ_cons, take_length_takeWhile]
      refine .blank (List.cons_ne_nil _ _) ?_
      rw [Text.isAllBlank, List.all_cons, blank, List.all_takeWhile]
      rfl
    · split at found
      · rename_i positive
        cases found
        exact .number (isNumber_take positive)
      · split at found
        · rename_i start
          cases found
          rw [Nat.add_comm, List.take_succ_cons, take_length_takeWhile]
          exact .name ⟨c, _, rfl, start, fun _ => of_mem_takeWhile⟩
        · split at found
          · rename_i stars
            cases found
            obtain ⟨rfl, second⟩ := stars
            obtain ⟨rest, rfl⟩ := List.head?_eq_some_iff.mp second
            exact .power
          · split at found
            · rename_i single
              cases found
              exact .single single
            · cases found

theorem of_numberLength_pos {c : Char} {rest : Text} (positive : 0 < numberLength (c :: rest)) :
    isDecimalDigit c = true ∨ c = '.' := by
  obtain ⟨size, shape⟩ := Nat.exists_eq_add_of_lt (numberLength_pos_iff.mp positive)
  refine of_mem_take_decimalLength (s := c :: rest) ?_
  rw [shape, List.take_succ_cons]
  exact List.mem_cons_self

theorem isBlank_eq_false_of_number {c : Char} (number : isDecimalDigit c = true ∨ c = '.') :
    isBlank c = false := by
  have blocked : Name.blocks c = true := by
    obtain digit | rfl := number
    · exact blocks_of_isDecimalDigit digit
    · decide
  rw [Bool.eq_false_iff]
  intro blank
  rw [blocks_eq_false_of_isBlank blank] at blocked
  cases blocked

theorem front?_of_operator {c : Char} (operator : c ∈ operatorCharacters) (rest : Text) :
    front? (c :: rest) =
      some (.operator, if c = '*' ∧ rest.head? = some '*' then 2 else 1) := by
  have plain : ∀ c ∈ operatorCharacters, isBlank c = false ∧ isNameStart c = false ∧
      isDecimalDigit c = false ∧ c ≠ '.' := by decide
  obtain ⟨visible, other, digit, point⟩ := plain c operator
  have none : ¬ 0 < numberLength (c :: rest) := fun positive =>
    (of_numberLength_pos positive).elim (by simp [digit]) point
  simp only [front?, visible, none, other, operator, Bool.false_eq_true, if_false, if_true]
  split <;> rfl

/-- A token at the front of a text is cut off, or a longer one of its kind. -/
theorem exists_front?_of_wellFormed {token : Token} (wellFormed : token.WellFormed) (rest : Text) :
    ∃ make size, front? (token.text ++ rest) = some (make, size) ∧ make token.text = token ∧
      token.text.length ≤ size := by
  cases wellFormed with
  | @blank text filled blank =>
    obtain ⟨c, text, rfl⟩ := List.exists_cons_of_ne_nil filled
    have each : ∀ d ∈ c :: text, isBlank d = true := fun _ => Text.isBlank_of_mem blank
    have far := length_le_length_takeWhile each rest
    refine ⟨.blank, _, ?_, rfl, far⟩
    have first := each c List.mem_cons_self
    rw [Token.text, List.cons_append, front?, if_pos first, List.takeWhile_cons_of_pos first,
      List.length_cons, Nat.add_comm]
  | @number text isNumber =>
    have far := isNumber.length_le rest
    have positive : 0 < numberLength (text ++ rest) := Nat.lt_of_lt_of_le isNumber.length_pos far
    obtain ⟨c, text, rfl⟩ := List.exists_cons_of_ne_nil (List.length_pos_iff.mp isNumber.length_pos)
    have visible := isBlank_eq_false_of_number (of_numberLength_pos positive)
    refine ⟨.number, _, ?_, rfl, far⟩
    rw [Token.text, List.cons_append] at *
    rw [front?, visible, if_neg Bool.false_ne_true, if_pos positive]
  | name isWord =>
    obtain ⟨c, text, rfl, start, parts⟩ := isWord
    have far := length_le_length_takeWhile parts rest
    refine ⟨.name, 1 + ((text ++ rest).takeWhile isNamePart).length,
      front?_of_isNameStart start _, rfl, ?_⟩
    rw [Token.text, List.length_cons]
    omega
  | power => exact ⟨.operator, 2, front?_of_operator (by decide) _, rfl, Nat.le_refl 2⟩
  | single operator =>
    refine ⟨.operator, _, front?_of_operator operator _, rfl, ?_⟩
    rw [Token.text, List.length_singleton]
    split <;> omega

theorem isLongest_of_front? {s : Text} {make : Text → Token} {size : Nat}
    (found : front? s = some (make, size)) : Text.IsLongest IsWritten (s.take size) s := by
  refine ⟨⟨_, wellFormed_of_front? found, text_of_front? found _⟩, List.take_prefix size s, ?_⟩
  rintro other ⟨token, wellFormed, rfl⟩ ⟨rest, rfl⟩
  obtain ⟨make', size', found', -, far⟩ := exists_front?_of_wellFormed wellFormed rest
  cases found'.symm.trans found
  rwa [List.length_take, Nat.min_eq_left (size_le_of_front? found)]

theorem front?_of_isLongest {token : Token} (wellFormed : token.WellFormed) {rest : Text}
    (longest : Text.IsLongest IsWritten token.text (token.text ++ rest)) :
    ∃ make, front? (token.text ++ rest) = some (make, token.text.length) ∧
      make token.text = token := by
  obtain ⟨make, size, found, same, -⟩ := exists_front?_of_wellFormed wellFormed rest
  have taken := (isLongest_of_front? found).eq longest
  have whole := congrArg List.length taken
  rw [List.length_take, Nat.min_eq_left (size_le_of_front? found)] at whole
  exact ⟨make, whole ▸ found, same⟩

theorem spells_cut {text : Text} (whole : (cut text).2 = []) : Spells (cut text).1 text := by
  induction text using cut_induction with
  | stop text found =>
    rw [cut_eq_self_of_front? found] at whole ⊢
    have whole : text = [] := whole
    rw [whole]
    exact .nil
  | token text make size found ih =>
    rw [cut_of_front? found] at whole ⊢
    have written := text_of_front? found (text.take size)
    have split : (make (text.take size)).text ++ text.drop size = text := by
      rw [written, List.take_append_drop]
    have longest : Text.IsLongest IsWritten (make (text.take size)).text
        ((make (text.take size)).text ++ text.drop size) := by
      rw [split, written]
      exact isLongest_of_front? found
    have spelled := Spells.cons (wellFormed_of_front? found) longest (ih whole)
    rwa [split] at spelled

/-- Tokens make up a text exactly if the text is cut into them and nothing is left. -/
theorem spells_iff {tokens : List Token} {text : Text} :
    Spells tokens text ↔ cut text = (tokens, []) := by
  constructor
  · intro spelled
    induction spelled with
    | nil => exact cut_eq_self_of_front? rfl
    | cons wellFormed longest later ih =>
      obtain ⟨make, found, same⟩ := front?_of_isLongest wellFormed longest
      rw [cut_of_front? found, List.take_left, List.drop_left, ih, same]
  · intro whole
    have spelled := spells_cut (congrArg Prod.snd whole)
    rwa [whole] at spelled

end Token

namespace Text

/-- Whether each dot of a text has a digit directly before or behind it. -/
def Pointed (text : Text) : Prop :=
  ∀ front back, text = front ++ '.' :: back →
    (∃ c, front.getLast? = some c ∧ isDecimalDigit c = true) ∨
      ∃ c, back.head? = some c ∧ isDecimalDigit c = true

theorem pointed_of_not_mem {text : Text} (undotted : '.' ∉ text) : text.Pointed := by
  rintro front back rfl
  exact absurd (List.mem_append_right _ List.mem_cons_self) undotted

theorem Pointed.append {first second : Text} (one : first.Pointed) (two : second.Pointed) :
    Pointed (first ++ second) := by
  intro front back split
  obtain ⟨between, rfl, rfl⟩ | ⟨between, rfl, tail⟩ := List.append_eq_append_iff.mp split
  · obtain ⟨c, last, digit⟩ | behind := two between back rfl
    · exact .inl ⟨c, by rw [List.getLast?_append, last, Option.some_or], digit⟩
    · exact .inr behind
  · cases between with
    | nil =>
      obtain rfl : second = '.' :: back := tail.symm
      exact (two [] back rfl).elim (fun ⟨_, absent, _⟩ => nomatch absent) .inr
    | cons c between =>
      obtain ⟨rfl, behind⟩ := List.cons.inj tail
      obtain rfl : back = between ++ second := behind
      obtain before | ⟨c, first, digit⟩ := one front between rfl
      · exact .inl before
      · exact .inr ⟨c, by rw [List.head?_append, first, Option.some_or], digit⟩

end Text

namespace Token

theorem ne_dot_of_isDecimalDigit {c : Char} (digit : isDecimalDigit c = true) : c ≠ '.' := by
  rintro rfl
  exact absurd digit (by decide)

theorem not_mem_of_digits {digits : Text} (each : ∀ c ∈ digits, isDecimalDigit c = true) :
    '.' ∉ digits := fun inside => ne_dot_of_isDecimalDigit (each _ inside) rfl

theorem IsDecimal.pointed_text {text : Text} (isDecimal : IsDecimal text) : text.Pointed := by
  cases isDecimal with
  | whole _ each => exact Text.pointed_of_not_mem (not_mem_of_digits each)
  | @pointed whole fraction filled before behind =>
    intro front back split
    obtain ⟨rfl, -, rfl⟩ := (List.append_cons_inj_of_notMem (not_mem_of_digits before)
      (not_mem_of_digits behind)).mp split
    obtain filled | filled := filled
    · exact .inl ⟨_, List.getLast?_eq_some_getLast filled, before _ (List.getLast_mem filled)⟩
    · exact .inr ⟨_, List.head?_eq_some_head filled, behind _ (List.head_mem filled)⟩

def IsCharacter (c : Char) : Prop :=
  isBlank c = true ∨ isDecimalDigit c = true ∨ c = '.' ∨ isNamePart c = true ∨
    c ∈ operatorCharacters

instance (c : Char) : Decidable (IsCharacter c) := by
  unfold IsCharacter
  infer_instance

theorem isCharacter_of_isDecimalDigit {c : Char} (digit : isDecimalDigit c = true) :
    IsCharacter c := .inr (.inl digit)

theorem IsDecimal.isCharacter {text : Text} (isDecimal : IsDecimal text) :
    ∀ c ∈ text, IsCharacter c := by
  cases isDecimal with
  | whole _ each => exact fun c inside => isCharacter_of_isDecimalDigit (each c inside)
  | pointed _ before behind =>
    intro c inside
    obtain inside | inside := List.mem_append.mp inside
    · exact isCharacter_of_isDecimalDigit (before c inside)
    · obtain rfl | inside := List.mem_cons.mp inside
      · exact .inr (.inr (.inl rfl))
      · exact isCharacter_of_isDecimalDigit (behind c inside)

theorem IsExponent.isCharacter {text : Text} (isExponent : IsExponent text) :
    ∀ c ∈ text, IsCharacter c ∧ c ≠ '.' := by
  have mark : ∀ c, c = 'e' ∨ c = 'E' → IsCharacter c ∧ c ≠ '.' := by
    rintro c (rfl | rfl) <;> exact ⟨.inr (.inr (.inr (.inl (by decide)))), by decide⟩
  have sign : ∀ c, c = '+' ∨ c = '-' → IsCharacter c ∧ c ≠ '.' := by
    rintro c (rfl | rfl) <;> exact ⟨.inr (.inr (.inr (.inr (by decide)))), by decide⟩
  have digit {digits : Text} (each : ∀ c ∈ digits, isDecimalDigit c = true) (c : Char)
      (inside : c ∈ digits) : IsCharacter c ∧ c ≠ '.' :=
    ⟨isCharacter_of_isDecimalDigit (each c inside), ne_dot_of_isDecimalDigit (each c inside)⟩
  cases isExponent with
  | unsigned marked _ each => exact List.forall_mem_cons.mpr ⟨mark _ marked, digit each⟩
  | signed marked signs _ each =>
    exact List.forall_mem_cons.mpr
      ⟨mark _ marked, List.forall_mem_cons.mpr ⟨sign _ signs, digit each⟩⟩

theorem WellFormed.characters {token : Token} (wellFormed : token.WellFormed) :
    (∀ c ∈ token.text, IsCharacter c) ∧ token.text.Pointed := by
  have undotted : '.' ∉ operatorCharacters := by decide
  have operators {text : Text} (each : ∀ c ∈ text, c ∈ operatorCharacters) :
      (∀ c ∈ text, IsCharacter c) ∧ text.Pointed :=
    ⟨fun c inside => .inr (.inr (.inr (.inr (each c inside)))),
      Text.pointed_of_not_mem fun inside => undotted (each _ inside)⟩
  cases wellFormed with
  | blank _ blank =>
    have each : ∀ c ∈ _, isBlank c = true := fun _ => Text.isBlank_of_mem blank
    refine ⟨fun c inside => .inl (each c inside), Text.pointed_of_not_mem fun inside => ?_⟩
    exact absurd (each _ inside) (by decide)
  | number isNumber =>
    cases isNumber with
    | plain isDecimal => exact ⟨isDecimal.isCharacter, isDecimal.pointed_text⟩
    | scaled isDecimal isExponent =>
      refine ⟨List.forall_mem_append.mpr ⟨isDecimal.isCharacter, ?_⟩, isDecimal.pointed_text.append
        (Text.pointed_of_not_mem fun inside => (isExponent.isCharacter _ inside).2 rfl)⟩
      exact fun c inside => (isExponent.isCharacter c inside).1
  | name isWord =>
    have each : ∀ c ∈ _, isNamePart c = true := fun _ => Name.isNamePart_of_mem isWord
    refine ⟨fun c inside => .inr (.inr (.inr (.inl (each c inside)))), ?_⟩
    exact Text.pointed_of_not_mem fun inside => absurd (each _ inside) (by decide)
  | power => exact operators (by decide)
  | single operator => exact operators (List.forall_mem_singleton.mpr operator)

theorem Spells.characters {tokens : List Token} {text : Text} (spelled : Spells tokens text) :
    (∀ c ∈ text, IsCharacter c) ∧ text.Pointed := by
  induction spelled with
  | nil => exact ⟨List.forall_mem_nil _, Text.pointed_of_not_mem List.not_mem_nil⟩
  | cons wellFormed _ _ ih =>
    obtain ⟨each, pointed⟩ := wellFormed.characters
    exact ⟨List.forall_mem_append.mpr ⟨each, ih.1⟩, pointed.append ih.2⟩

theorem mem_names_iff {tokens : List Token} {word : Text} :
    word ∈ names tokens ↔ .name word ∈ tokens := by
  rw [names, List.mem_filterMap]
  constructor
  · rintro ⟨token, inside, named⟩
    split at named <;> cases named
    exact inside
  · exact fun inside => ⟨_, inside, rfl⟩

end Token

/-- Whether a word is the name of one of the first slots, of a built-in function or of a
constant. -/
def IsAllowed (count : Nat) (word : Text) : Prop :=
  (∃ i < count, word = slotName i) ∨ (∃ builtin : Builtin, word = builtin.name) ∨
    word = Text.lit "pi" ∨ word = Text.lit "e"

theorem isKnownName_iff {count : Nat} {word : Text} :
    isKnownName count word = true ↔ IsAllowed count word := by
  have all (builtin : Builtin) : builtin ∈ Builtin.all := by cases builtin <;> decide
  have slots : (slotNamed? count word).isSome = true ↔ ∃ i < count, word = slotName i := by
    simp only [slotNamed?, List.find?_isSome, List.mem_range, decide_eq_true_eq, @eq_comm _ word]
  have builtins : (Builtin.named? word).isSome = true ↔
      ∃ builtin : Builtin, word = builtin.name := by
    simp only [Builtin.named?, List.find?_isSome, all, true_and, decide_eq_true_eq,
      @eq_comm _ word]
  have constants : (Constant.named? word).isSome = true ↔
      word = Text.lit "pi" ∨ word = Text.lit "e" := by
    rw [Constant.named?]
    split
    · exact iff_of_true rfl (.inl ‹_›)
    · split
      · exact iff_of_true rfl (.inr ‹_›)
      · exact iff_of_false (by simp) (not_or.mpr ⟨‹_›, ‹_›⟩)
  rw [isKnownName, Bool.or_eq_true, Bool.or_eq_true, slots, builtins, constants, or_assoc,
    IsAllowed]

/-- Whether a text is made up of longest tokens whose names may be used. -/
def Text.Passes (count : Nat) (text : Text) : Prop :=
  ∃ tokens, Token.Spells tokens text ∧ ∀ word, .name word ∈ tokens → IsAllowed count word

theorem tokenFault?_eq_none_iff_passes {count : Nat} {text : Text} :
    tokenFault? count text = none ↔ text.Passes count := by
  simp only [tokenFault?_eq_none_iff, Token.mem_names_iff, isKnownName_iff]
  constructor
  · rintro ⟨whole, allowed⟩
    exact ⟨_, Token.spells_cut whole, allowed⟩
  · rintro ⟨tokens, spelled, allowed⟩
    rw [Token.spells_iff.mp spelled]
    exact ⟨rfl, allowed⟩

/-- Quotes, brackets and other characters that a language has and arithmetic does not. -/
def foreignCharacters : Text := Text.lit "\"'[]\x7b\x7d\\=<>:;@&|~"

/-- Whether each dot of a text is a number's, no character is foreign to arithmetic, and each run of
name characters that is no part of a number may be used. -/
structure Text.IsArithmetic (count : Nat) (text : Text) : Prop where
  pointed : text.Pointed
  plain : ∀ c ∈ foreignCharacters, c ∉ text
  allowed : ∀ front word back, text = front ++ (word ++ back) → Name.IsWord word →
    (∀ c, front.getLast? = some c → isNamePart c = false ∧ isDecimalDigit c = false ∧ c ≠ '.') →
    (∀ c, back.head? = some c → isNamePart c = false) → IsAllowed count word

/-- A word that stands by itself is one of the names that a text is cut into. -/
theorem Token.Spells.name_mem {tokens : List Token} {front word back : Text}
    (spelled : Spells tokens (front ++ (word ++ back))) (isWord : Name.IsWord word)
    (begins : ∀ c, front.getLast? = some c →
      isNamePart c = false ∧ isDecimalDigit c = false ∧ c ≠ '.')
    (ends : ∀ c, back.head? = some c → isNamePart c = false) : .name word ∈ tokens := by
  obtain ⟨c, rest, rfl, start, parts⟩ := isWord
  have unblocked : front.getLast?.any Name.blocks = false := by
    cases last : front.getLast? with
    | none => rfl
    | some d =>
      obtain ⟨other, digit, point⟩ := begins d last
      have inside := List.mem_append_left (c :: rest ++ back) (List.mem_of_getLast? last)
      obtain blank | own | own | own | operator := spelled.characters.1 d inside
      · exact blocks_eq_false_of_isBlank blank
      · exact absurd own (by simp [digit])
      · exact absurd own point
      · exact absurd own (by simp [other])
      · exact (isNameStart_eq_false_of_operator operator).2
  have starts : Name.startsAfter (front.getLast?.or none) (c :: rest ++ back) = true := by
    rw [Option.or_none, List.cons_append, Name.startsAfter_cons, start, unblocked]
    rfl
  have cut := spells_iff.mp spelled
  obtain ⟨made, named⟩ := Option.isSome_iff_exists.mp (Name.isSome_front?_of_startsAfter starts)
  obtain ⟨free, member⟩ := mem_names_of_startsAfter (congrArg Prod.snd cut) rfl starts named
  obtain ⟨d, tail, same, -, rfl | ⟨_, _, -, rfl⟩⟩ := Name.front?_eq_some named
  · obtain ⟨rfl, rfl⟩ := List.cons.inj same
    rw [cut, mem_names_iff] at member
    have run : (rest ++ back).takeWhile isNamePart = rest := takeWhile_append_of_ends parts ends
    rwa [← run]
  · cases free

theorem Text.Passes.isArithmetic {count : Nat} {text : Text} (passes : text.Passes count) :
    text.IsArithmetic count := by
  obtain ⟨tokens, spelled, allowed⟩ := passes
  obtain ⟨each, pointed⟩ := spelled.characters
  refine ⟨pointed, fun c foreign inside => ?_, ?_⟩
  · have apart : ∀ c ∈ foreignCharacters, ¬ Token.IsCharacter c := by decide
    exact apart c foreign (each c inside)
  · rintro front word back rfl isWord begins ends
    exact allowed word (spelled.name_mem isWord begins ends)

theorem Text.passes_of_isAllBlank {text : Text} (blank : text.isAllBlank = true) (count : Nat) :
    text.Passes count := by
  by_cases filled : text = []
  · exact ⟨[], filled ▸ .nil, fun _ inside => nomatch inside⟩
  · have wellFormed := Token.WellFormed.blank filled blank
    have longest : Text.IsLongest Token.IsWritten (Token.blank text).text
        ((Token.blank text).text ++ []) :=
      ⟨⟨_, wellFormed, rfl⟩, List.prefix_append _ _, fun other _ leads => by
        simpa [Token.text] using leads.length_le⟩
    have spelled := Token.Spells.cons wellFormed longest .nil
    rw [List.append_nil] at spelled
    exact ⟨_, spelled, by simp⟩

namespace Compiled

theorem exists_fault_of_not_passes {text : Text} {count : Nat}
    (rejected : ¬ text.Passes (max count 1)) :
    ∃ fault, ∀ engine, parse engine text count = .error (.fault (.token fault)) := by
  have visible : ¬ text.isAllBlank = true := fun blank =>
    rejected (Text.passes_of_isAllBlank blank _)
  cases checked : tokenFault? (max count 1) text with
  | none => exact absurd (tokenFault?_eq_none_iff_passes.mp checked) rejected
  | some fault =>
    refine ⟨fault, fun engine => ?_⟩
    simp only [parse, visible, checked, Bool.false_eq_true, if_false]

/-- The check lets through the texts of known names, numbers, operators and blanks, none of which
has anything in it but arithmetic. Every other text is at fault for its tokens, whatever it would
have been read as. -/
theorem passes_check (text : Text) (count : Nat) :
    (tokenFault? count text = none ↔ text.Passes count) ∧
    (tokenFault? count text = none → text.IsArithmetic count) ∧
    (¬ text.Passes (max count 1) →
      ∃ fault, ∀ engine, parse engine text count = .error (.fault (.token fault))) :=
  ⟨tokenFault?_eq_none_iff_passes,
    fun accepted => (tokenFault?_eq_none_iff_passes.mp accepted).isArithmetic,
    exists_fault_of_not_passes⟩

/-- A number with a point and an exponent passes; the class of a function does not. -/
theorem passes_check_point :
    tokenFault? 1 (Text.lit "2.*sin(_slot0)+.5e-1") = none ∧
      (Text.lit "2.*sin(_slot0)+.5e-1").IsArithmetic 1 ∧
      ¬ (Text.lit "sin.__class__").Passes (max 0 1) ∧
      ∃ fault, ∀ engine,
        parse engine (Text.lit "sin.__class__") 0 = .error (.fault (.token fault)) := by
  have accepted : tokenFault? 1 (Text.lit "2.*sin(_slot0)+.5e-1") = none := by decide +kernel
  have faulty : (tokenFault? 1 (Text.lit "sin.__class__")).isSome = true := by decide +kernel
  have rejected : ¬ (Text.lit "sin.__class__").Passes (max 0 1) := fun passes => by
    rw [((passes_check _ 1).1).mpr passes] at faulty
    cases faulty
  exact ⟨accepted, (passes_check _ 1).2.1 accepted, rejected, (passes_check _ 0).2.2 rejected⟩

end Compiled
end SceneFormula
