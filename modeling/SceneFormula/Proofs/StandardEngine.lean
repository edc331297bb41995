import SceneFormula.Proofs.CodeSlots
import SceneFormula.Proofs.EngineLaws
import SceneFormula.Proofs.Grammar

set_option autoImplicit false

namespace SceneFormula

/-- A lexeme that is a parenthesis or a comma, as it is written. -/
def Lexeme.mark : Lexeme → Text
  | openParen => ['(']
  | closeParen => [')']
  | comma => [',']
  | _ => []

namespace Token

/-- Whether a token is a parenthesis or a comma, or has none in it. -/
def MarksAlone (token : Token) : Prop :=
  token.text.marks = [] ∨ token ∈ [operator ['('], operator [')'], operator [',']]

theorem of_mem_take_exponentLength {s : Text} {c : Char} (member : c ∈ s.take (exponentLength s)) :
    c ∈ ['e', 'E', '+', '-'] ∨ isDecimalDigit c = true := by
  match s with
  | [] => cases member
  | [mark] => simp [exponentLength] at member
  | mark :: d :: rest =>
    simp only [exponentLength] at member
    split at member
    · rename_i exponent
      generalize signed : (if d = '+' ∨ d = '-' then 1 else 0) = sign at member
      split at member
      · cases member
      · rw [Nat.add_assoc, Nat.add_comm, List.take_succ_cons, List.take_add,
          take_length_takeWhile] at member
        rcases List.mem_cons.mp member with rfl | later
        · left
          rcases exponent with rfl | rfl <;> decide
        · rcases List.mem_append.mp later with front | digits
          · split at signed
            · rename_i plusOrMinus
              subst signed
              rw [List.take_one, List.head?_cons, Option.toList_some, List.mem_singleton] at front
              subst front
              left
              rcases plusOrMinus with rfl | rfl <;> decide
            · subst signed
              cases front
          · exact .inr (of_mem_takeWhile digits)
    · cases member

theorem marks_take_numberLength (s : Text) : Text.marks (s.take (numberLength s)) = [] := by
  have digit {c : Char} (own : isDecimalDigit c = true) : c ∉ ['(', ')', ','] := by
    intro mark
    have each : ∀ c ∈ ['(', ')', ','], Name.blocks c = false := by decide +kernel
    have blocks := blocks_of_isDecimalDigit own
    rw [each c mark] at blocks
    cases blocks
  refine Text.marks_eq_nil fun c member => ?_
  simp only [numberLength] at member
  split at member
  · cases member
  · rw [List.take_add, List.mem_append] at member
    rcases member with decimal | exponent
    · rcases of_mem_take_decimalLength decimal with own | rfl
      · exact digit own
      · decide
    · rcases of_mem_take_exponentLength exponent with letter | own
      · have each : ∀ c ∈ ['e', 'E', '+', '-'], c ∉ ['(', ')', ','] := by decide
        exact each c letter
      · exact digit own

theorem marks_take_takeWhile {p : Char → Bool} {c : Char} (own : p c = true)
    (unmarked : ∀ c ∈ ['(', ')', ','], p c = false) (rest : Text) :
    Text.marks ((c :: rest).take (1 + (rest.takeWhile p).length)) = [] := by
  refine Text.marks_eq_nil fun d member mark => ?_
  rw [Nat.add_comm, List.take_succ_cons, take_length_takeWhile] at member
  have inside : p d = true := by
    rcases List.mem_cons.mp member with rfl | later
    · exact own
    · exact of_mem_takeWhile later
  rw [unmarked d mark] at inside
  cases inside

theorem marksAlone_of_front? {s : Text} {make : Text → Token} {size : Nat}
    (found : front? s = some (make, size)) : (make (s.take size)).MarksAlone := by
  cases s with
  | nil => cases found
  | cons c rest =>
    simp only [front?] at found
    split at found
    · cases found
      exact .inl (marks_take_takeWhile ‹_› (by decide) rest)
    · split at found
      · cases found
        exact .inl (marks_take_numberLength _)
      · split at found
        · rename_i start
          cases found
          exact .inl (marks_take_takeWhile (isNamePart_of_isNameStart start) (by decide) rest)
        · split at found
          · rename_i stars
            cases found
            cases rest with
            | nil => cases stars.2
            | cons d rest =>
              obtain ⟨rfl, second⟩ := stars
              cases second
              exact .inl rfl
          · split at found
            · rename_i single
              cases found
              have each : ∀ c ∈ operatorCharacters, Text.marks [c] = [] ∨
                  operator [c] ∈ [operator ['('], operator [')'], operator [',']] := by decide
              exact each c single
            · cases found

theorem marksAlone_of_mem_cut {s : Text} {token : Token} (member : token ∈ (cut s).1) :
    token.MarksAlone := by
  induction s using cut_induction with
  | stop s found =>
    rw [cut_eq_self_of_front? found] at member
    cases member
  | token s make size found ih =>
    rw [cut_of_front? found] at member
    rcases List.mem_cons.mp member with rfl | later
    · exact marksAlone_of_front? found
    · exact ih later

/-- The tokens of a text make it up, with what is left behind them. -/
theorem flatMap_text_cut (s : Text) : (cut s).1.flatMap text ++ (cut s).2 = s := by
  induction s using cut_induction with
  | stop s found =>
    rw [cut_eq_self_of_front? found]
    rfl
  | token s make size found ih =>
    rw [cut_of_front? found, List.flatMap_cons, List.append_assoc, ih, text_of_front? found,
      List.take_append_drop]

end Token

namespace Lexeme

theorem flatMap_mark_of_close? {run : Run} {rest lexemes : List Lexeme}
    (closed : run.close? rest = some lexemes) : lexemes.flatMap mark = rest.flatMap mark := by
  unfold Run.close? at closed
  split at closed <;> cases closed <;> rfl

theorem marks_of_single? {text : Text} {lexeme : Lexeme} (single : single? text = some lexeme) :
    text.marks = lexeme.mark := by
  unfold single? at single
  split at single <;> cases single <;> rfl

/-- Members that are dropped at both ends of a list stand around what is left. -/
theorem exists_append_of_dropWhile {α : Type} (p : α → Bool) (xs : List α) :
    ∃ front back, xs = front ++ (((xs.dropWhile p).reverse.dropWhile p).reverse ++ back) ∧
      ∀ x ∈ front ++ back, p x = true := by
  refine ⟨xs.takeWhile p, ((xs.dropWhile p).reverse.takeWhile p).reverse, ?_, ?_⟩
  · rw [← List.reverse_append, List.takeWhile_append_dropWhile, List.reverse_reverse,
      List.takeWhile_append_dropWhile]
  · intro x member
    rcases List.mem_append.mp member with front | back
    · exact List.all_eq_true.mp List.all_takeWhile x front
    · exact List.all_eq_true.mp List.all_takeWhile x (List.mem_reverse.mp back)

theorem exists_trimBlanks (tokens : List Token) :
    ∃ front back, tokens = front ++ (trimBlanks tokens ++ back) ∧
      ∀ token ∈ front ++ back, ∃ text, token = .blank text := by
  obtain ⟨front, back, whole, only⟩ := exists_append_of_dropWhile _ tokens
  refine ⟨front, back, whole, fun token member => ?_⟩
  have own := only token member
  cases token <;> cases own
  exact ⟨_, rfl⟩

theorem trimBlanks_subset {tokens : List Token} : trimBlanks tokens ⊆ tokens := by
  obtain ⟨front, back, whole, -⟩ := exists_trimBlanks tokens
  intro token member
  rw [whole]
  exact List.mem_append_right _ (List.mem_append_left _ member)

theorem marks_trimBlanks {tokens : List Token} (alone : ∀ token ∈ tokens, token.MarksAlone) :
    Text.marks ((trimBlanks tokens).flatMap Token.text) =
      Text.marks (tokens.flatMap Token.text) := by
  obtain ⟨front, back, whole, blank⟩ := exists_trimBlanks tokens
  have unmarked (blanks : List Token) (among : blanks ⊆ front ++ back) :
      Text.marks (blanks.flatMap Token.text) = [] := by
    refine Text.marks_eq_nil fun c member mark => ?_
    obtain ⟨token, inside, own⟩ := List.mem_flatMap.mp member
    obtain ⟨text, rfl⟩ := blank token (among inside)
    have inside : .blank text ∈ tokens := by
      rw [whole]
      rcases List.mem_append.mp (among inside) with first | last
      · exact List.mem_append_left _ first
      · exact List.mem_append_right _ (List.mem_append_right _ last)
    have none : text.marks = [] := (alone _ inside).resolve_right (by simp)
    have kept : c ∈ text.marks := List.mem_filter.mpr ⟨own, by simpa using mark⟩
    rw [none] at kept
    cases kept
  conv => rhs; rw [whole]
  rw [List.flatMap_append, List.flatMap_append, Text.marks_append, Text.marks_append,
    unmarked front (List.subset_append_left _ _), unmarked back (List.subset_append_right _ _),
    List.nil_append, List.append_nil]

/-- Whether lexemes come of tokens in some state of the reader, behind some parentheses and
commas. -/
def ReadBehind (marks : Text) (tokens : List Token) (lexemes : List Lexeme) : Prop :=
  ∃ depth run before rest, ofTokensFrom depth run before tokens = some rest ∧
    lexemes.flatMap mark = marks ++ rest.flatMap mark

section ReadBehind

variable {depth : Nat} {run next : Run} {before : Before} {token : Token} {tokens : List Token}
  {lexemes : List Lexeme}

theorem ReadBehind.of_single {lexeme : Lexeme}
    (read : ((ofTokensFrom depth .none before tokens).map (lexeme :: ·)).bind run.close? =
      some lexemes) : ReadBehind lexeme.mark tokens lexemes := by
  obtain ⟨whole, mapped, closed⟩ := Option.bind_eq_some_iff.mp read
  obtain ⟨rest, left, rfl⟩ := Option.map_eq_some_iff.mp mapped
  exact ⟨_, _, _, rest, left, by rw [flatMap_mark_of_close? closed, List.flatMap_cons]⟩

theorem ReadBehind.of_closed
    (read : (ofTokensFrom depth next before tokens).bind run.close? = some lexemes) :
    ReadBehind [] tokens lexemes := by
  obtain ⟨rest, left, closed⟩ := Option.bind_eq_some_iff.mp read
  exact ⟨_, _, _, rest, left, by rw [flatMap_mark_of_close? closed, List.nil_append]⟩

theorem ReadBehind.of_read (read : ofTokensFrom depth run before tokens = some lexemes) :
    ReadBehind [] tokens lexemes :=
  ⟨_, _, _, lexemes, read, (List.nil_append _).symm⟩

/-- A token has the same parentheses and commas as what it adds to the lexemes of the tokens behind
it. -/
theorem readBehind_of_cons (alone : token.MarksAlone)
    (read : ofTokensFrom depth run before (token :: tokens) = some lexemes) :
    ReadBehind (Text.marks token.text) tokens lexemes := by
  cases token with
  | blank text =>
    rw [alone.resolve_right (by simp)]
    simp only [ofTokensFrom] at read
    split at read
    · cases read
    · split at read
      · exact .of_closed read
      · exact .of_read read
  | number text =>
    rw [alone.resolve_right (by simp)]
    simp only [ofTokensFrom] at read
    split at read
    · exact .of_single read
    · cases read
  | name text =>
    rw [alone.resolve_right (by simp)]
    simp only [ofTokensFrom] at read
    exact .of_single read
  | operator text =>
    unfold ofTokensFrom at read
    split at read
    · cases ‹Token.operator _ = Token.blank _›
    · cases ‹Token.operator _ = Token.number _›
    · cases ‹Token.operator _ = Token.name _›
    · cases ‹Token.operator _ = _›
      split at read
      · cases read
      · exact .of_single read
    · cases ‹Token.operator _ = _›
      split at read
      · exact .of_read read
      · exact .of_closed read
    · split at read
      · rename_i lexeme known
        cases ‹Token.operator _ = _›
        rw [show Token.text (.operator text) = text from rfl, marks_of_single? known]
        exact .of_single read
      · -- an operator that may grow is no parenthesis and no comma
        rename_i unknown
        cases ‹Token.operator _ = _›
        have unmarked : Text.marks text = [] := alone.resolve_right fun alone => by
          simp only [List.mem_cons, Token.operator.injEq, List.not_mem_nil, or_false] at alone
          rcases alone with rfl | rfl | rfl <;> cases unknown
        rw [show Token.text (.operator text) = text from rfl, unmarked]
        split at read
        · exact .of_read read
        · exact .of_closed read

end ReadBehind

/-- The lexemes of tokens have the same parentheses and commas as the tokens. -/
theorem flatMap_mark_of_ofTokensFrom {depth : Nat} {run : Run} {before : Before}
    {tokens : List Token} {lexemes : List Lexeme}
    (alone : ∀ token ∈ tokens, token.MarksAlone)
    (read : ofTokensFrom depth run before tokens = some lexemes) :
    lexemes.flatMap mark = Text.marks (tokens.flatMap Token.text) := by
  induction tokens generalizing depth run before lexemes with
  | nil => exact flatMap_mark_of_close? read
  | cons token tokens ih =>
    obtain ⟨_, _, _, rest, left, same⟩ :=
      readBehind_of_cons (alone token List.mem_cons_self) read
    rw [same, List.flatMap_cons, Text.marks_append,
      ih (fun other member => alone other (List.mem_cons_of_mem _ member)) left]

end Lexeme

namespace Tree

def State.bottom (state : State) : Items :=
  state.outer.getLast?.getD state.inner

/-- Whether a text closes the parentheses that are open, and no comma stands before it outside of
all of them. -/
def State.Closes (state : State) (text : Text) : Prop :=
  Text.Balanced [','] state.outer.length text ∧ state.bottom.read = []

section Closes

variable {state next : State} {lexeme : Lexeme} {text : Text}

theorem State.Closes.of_inner {level : Level}
    (closes : State.Closes { state with inner := { state.inner with current := level } } text) :
    state.Closes text := by
  obtain ⟨balanced, bottom⟩ := closes
  refine ⟨balanced, ?_⟩
  rw [State.bottom] at bottom ⊢
  cases last : state.outer.getLast? <;> simpa [last] using bottom

theorem State.exists_of_close? (closed : state.close? = some next) :
    ∃ around, state.outer = around :: next.outer ∧ next.inner.read = around.read := by
  rw [State.close?] at closed
  split at closed
  · cases closed
  · rename_i around outer shape
    obtain ⟨⟨xs, comma⟩, _, closed⟩ := Option.bind_eq_some_iff.mp closed
    dsimp only at closed
    split at closed
    · cases closed
      exact ⟨around, shape, rfl⟩
    · obtain ⟨x, _, rfl⟩ := Option.map_eq_some_iff.mp closed
      exact ⟨around, shape, rfl⟩

theorem State.Closes.of_close? (closed : state.close? = some next) (closes : next.Closes text) :
    state.Closes (')' :: text) := by
  obtain ⟨balanced, bottom⟩ := closes
  obtain ⟨around, shape, same⟩ := State.exists_of_close? closed
  refine ⟨?_, ?_⟩
  · rw [shape]
    exact .closing balanced
  · rw [State.bottom, shape, List.getLast?_cons]
    rw [State.bottom] at bottom
    cases last : next.outer.getLast? with
    | none => simpa [last, same] using bottom
    | some items => simpa [last] using bottom

/-- A lexeme in front of what closes the parentheses that are open after it closes those that are
open before it. No comma stands outside of all before it if none does after it. -/
theorem closes_of_step? (step : state.step? lexeme = some next) (closes : next.Closes text) :
    state.Closes (lexeme.mark ++ text) := by
  cases lexeme with
  | number text | name text =>
    simp only [State.step?] at step
    split at step
    · cases step
    · cases step
      exact closes.of_inner
  | operator op =>
    obtain ⟨level, _, rfl⟩ := Option.map_eq_some_iff.mp step
    exact closes.of_inner
  | factorial =>
    simp only [State.step?] at step
    split at step
    · split at step
      · cases step
      · cases step
        exact closes.of_inner
    · cases step
  | openParen =>
    cases step
    obtain ⟨balanced, bottom⟩ := closes
    rw [State.bottom, List.getLast?_cons] at bottom
    exact ⟨.opening balanced, bottom⟩
  | closeParen => exact .of_close? step closes
  | comma =>
    obtain ⟨x, _, rfl⟩ := Option.map_eq_some_iff.mp step
    obtain ⟨balanced, bottom⟩ := closes
    rw [State.bottom] at bottom
    cases outer : state.outer with
    | nil =>
      rw [outer] at bottom
      cases bottom
    | cons around others =>
      rw [outer] at balanced bottom
      rw [State.Closes, State.bottom, outer]
      rw [List.getLast?_cons] at bottom ⊢
      have inner : others.length + 1 = 0 → ',' ∉ [','] := fun flat => absurd flat (by omega)
      exact ⟨.other (by decide) (by decide) (by decide) inner balanced, bottom⟩

/-- Lexemes close the parentheses that are open before them and all that they open, if reading them
ends outside of all with nothing read there. -/
theorem closes_of_run? {lexemes : List Lexeme} (run : state.run? lexemes = some next)
    (closed : next.outer = []) (single : next.inner.read = []) :
    state.Closes (lexemes.flatMap Lexeme.mark) := by
  induction lexemes generalizing state with
  | nil =>
    cases run
    rw [State.Closes, State.bottom, closed]
    exact ⟨.nil, single⟩
  | cons lexeme rest ih =>
    obtain ⟨middle, step, later⟩ := Option.bind_eq_some_iff.mp run
    exact closes_of_step? step (ih later)

end Closes

/-- The parentheses of what is read as a tree are closed. Commas outside of them make it a tuple. -/
theorem balanced_of_ofLexemes? {lexemes : List Lexeme} {tree : Tree}
    (read : ofLexemes? lexemes = some tree) :
    (∃ items, tree = .tuple items) ∨ Text.Balanced [','] 0 (lexemes.flatMap Lexeme.mark) := by
  obtain ⟨final, run, read⟩ := Option.bind_eq_some_iff.mp read
  split at read
  · rename_i closed
    obtain ⟨⟨xs, comma⟩, finished, read⟩ := Option.bind_eq_some_iff.mp read
    cases single : final.inner.read with
    | nil =>
      exact .inr (closes_of_run? run (List.isEmpty_iff.mp closed) single).1
    | cons x rest =>
      have comma : comma = true := by
        simp only [Items.finish?, single] at finished
        split at finished
        · cases finished
          rfl
        · obtain ⟨x, _, same⟩ := Option.map_eq_some_iff.mp finished
          cases same
          rfl
      subst comma
      left
      dsimp only at read
      split at read
      · cases read
      · unfold grouped? at read
        split at read
        · cases ‹true = false›
        · cases ‹true = false›
        · cases read
          exact ⟨_, rfl⟩
  · cases read

end Tree

namespace FormulaEngine

variable {text : Text} {count : Nat}

/-- What is read has tokens that make up a tree, which means what it is read as. -/
theorem exists_tree_of_standard_read {x? : Option Symbolic}
    (read : standard.read text count = .ok x?) :
    ∃ tree, Tree.ofTokens? (Token.cut text).1 = some tree ∧
      ∀ x, x? = some x → ∃ formula : Formula (namedSlots count (Token.cut text).1),
        Meaning.ofTree? Algebra.standard tree = some (.formula formula) ∧ x = formula.symbolic := by
  simp only [standard, readTree] at read
  split at read
  · cases read
  · rename_i formula meant
    obtain ⟨tree, built, meant⟩ := Option.bind_eq_some_iff.mp meant
    cases read
    refine ⟨tree, built, ?_⟩
    rintro _ ⟨⟩
    exact ⟨formula, meant, rfl⟩
  · rename_i meant
    obtain ⟨tree, built, -⟩ := Option.bind_eq_some_iff.mp meant
    cases read
    exact ⟨tree, built, nofun⟩

theorem standard_ignoresBlanks : standard.IgnoresBlanks := by
  intro text count _
  obtain ⟨front, back, rest, cut, -⟩ := Token.exists_cut_strip text
  have slots : namedSlots count (Token.cut text).1 = namedSlots count (Token.cut text.strip).1 := by
    rw [namedSlots, cut, Token.names_ofBlanks]
    rfl
  have tree : Tree.ofTokens? (Token.cut text).1 = Tree.ofTokens? (Token.cut text.strip).1 := by
    rw [Tree.ofTokens?, Lexeme.ofTokens?, cut, Lexeme.trimBlanks_ofBlanks]
    rfl
  simp only [standard, slots, tree]

theorem standard_keepsNamesApart : standard.KeepsNamesApart := by
  intro text count x? _ read
  obtain ⟨tree, built, -⟩ := exists_tree_of_standard_read read
  exact Tree.not_infix_of_ofTokens? built

theorem standard_closesParentheses : standard.ClosesParentheses := by
  intro text count x faultless read
  obtain ⟨tree, built, means⟩ := exists_tree_of_standard_read read
  obtain ⟨formula, meant, -⟩ := means x rfl
  obtain ⟨lexemes, cut, built⟩ := Option.bind_eq_some_iff.mp built
  rcases Tree.balanced_of_ofLexemes? built with ⟨items, rfl⟩ | balanced
  · rw [Meaning.ofTree?] at meant
    obtain ⟨_, _, other⟩ := Option.map_eq_some_iff.mp meant
    cases other
  · have alone : ∀ token ∈ (Token.cut text).1, token.MarksAlone := fun _ =>
      Token.marksAlone_of_mem_cut
    have known := Lexeme.flatMap_mark_of_ofTokensFrom
      (fun token member => alone token (Lexeme.trimBlanks_subset member))
      (Option.filter_eq_some_iff.mp cut).1
    have made := Token.flatMap_text_cut text
    rw [(tokenFault?_eq_none_iff.mp faultless).1, List.append_nil] at made
    rwa [known, Lexeme.marks_trimBlanks alone, made] at balanced

theorem standard_namesSymbols : standard.NamesSymbols := by
  intro text count x _ read name free
  obtain ⟨tree, -, means⟩ := exists_tree_of_standard_read read
  obtain ⟨formula, -, rfl⟩ := means x rfl
  obtain ⟨_, mentioned, rfl⟩ := List.mem_map.mp free
  obtain ⟨⟨index, named⟩, -, rfl⟩ := Formula.mem_freeSlots_iff.mp mentioned
  obtain ⟨word, among, found⟩ := List.mem_filterMap.mp named
  have same : slotName index = word := by simpa using List.find?_some found
  exact same ▸ among

theorem standard_computesFromSymbols : standard.ComputesFromSymbols := by
  intro text count x function _ read compiles values others agree
  obtain ⟨tree, -, means⟩ := exists_tree_of_standard_read read
  obtain ⟨formula, -, rfl⟩ := means x rfl
  simp only [Formula.symbolic] at compiles
  split at compiles
  · cases compiles
  · cases compiles
    exact Formula.compute_congr fun index free => agree _ (List.mem_map_of_mem free)

theorem standard_goesByNames : standard.GoesByNames :=
  ⟨standard_keepsNamesApart, standard_namesSymbols, standard_computesFromSymbols⟩

theorem standard_computesSlots : standard.ComputesSlots := by
  have cut : Token.cut (slotName 0) = ([.name (slotName 0)], []) := by decide +kernel
  have meant : (Tree.ofTokens? [.name (slotName 0)]).bind
      (Meaning.ofTree? (@Algebra.standard [0])) =
        some (.formula (.slot 0 (List.mem_singleton_self 0))) := by
    change Meaning.ofTree? Algebra.standard (.name (slotName 0)) = _
    rw [Meaning.ofTree?]
    rfl
  have slots : namedSlots 1 [.name (slotName 0)] = [0] := by decide +kernel
  refine ⟨Formula.symbolic (.slot 0 (List.mem_singleton_self 0)), _, ?_, rfl, rfl, rfl, rfl,
    fun values number given => ?_⟩
  · simp only [standard]
    rw [cut, slots, readTree, meant]
  · have free : (Formula.slot 0 (List.mem_singleton_self 0)).freeSlots = [0] := by decide
    rw [Formula.compute, free, List.any_cons, given]
    simp only [Option.any_some, Value.isText, List.any_nil, Bool.or_self,
      Bool.false_eq_true, if_false]
    rw [Code.ofFormula, Formula.depth, Code.ofFormulaWith, Code.run, given]
    rfl

end FormulaEngine
end SceneFormula
