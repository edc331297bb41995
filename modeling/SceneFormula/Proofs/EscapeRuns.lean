import Mathlib.Algebra.Group.Nat.Even
import Mathlib.Data.List.DropRight
import Mathlib.Data.Nat.Count
import Mathlib.Order.Bounds.Basic
import SceneFormula.Proofs.Iterations

set_option autoImplicit false

namespace SceneFormula

/-- The states that a loop over a text comes through, from a first one on. -/
inductive Loop.Reaches {σ ρ : Type} (loop : Loop σ ρ) (text : Text) (first : σ) : σ → Prop
  | here : Reaches loop text first first
  | again {state next : σ} {c : Char} (before : Reaches loop text first state)
    (there : text[loop.position state]? = some c) (step : loop.turn state c = .ok (.again next)) :
    Reaches loop text first next

namespace Literal

/-- How many backslashes a text ends in. -/
def escapeRun (text : Text) : Nat :=
  (text.rtakeWhile (· = escape)).length

/-- Whether a character stands at a position of a text with an even number of backslashes right
before it. -/
def FreeAt (c : Char) (text : Text) (i : Nat) : Prop :=
  text[i]? = some c ∧ Even (escapeRun (text.take i))

instance (c : Char) (text : Text) : DecidablePred (FreeAt c text) := fun _ =>
  inferInstanceAs (Decidable (_ ∧ _))

/-- How many backslashes of a body escape the character behind them. -/
def escapePairs (body : Text) : Nat :=
  Nat.count (FreeAt escape body) body.length

@[simp] theorem escapeRun_nil : escapeRun [] = 0 := rfl

@[simp] theorem escapeRun_append_escape (text : Text) :
    escapeRun (text ++ [escape]) = escapeRun text + 1 := by
  rw [escapeRun, List.rtakeWhile_concat_pos _ _ _ (by simp), List.length_append]
  rfl

theorem escapeRun_append_of_ne {c : Char} (unescaped : c ≠ escape) (text : Text) :
    escapeRun (text ++ [c]) = 0 := by
  rw [escapeRun, List.rtakeWhile_concat_neg _ _ _ (by simpa using unescaped)]
  rfl

/-- A front that ends in an even number of backslashes does not count for what follows. -/
theorem even_escapeRun_append {front : Text} (even : Even (escapeRun front)) (text : Text) :
    Even (escapeRun (front ++ text)) ↔ Even (escapeRun text) := by
  induction text using List.reverseRecOn with
  | nil => simpa using even
  | append_singleton text c ih =>
    rw [← List.append_assoc]
    by_cases escapes : c = escape
    · subst escapes
      simp only [escapeRun_append_escape, Nat.even_add_one, ih]
    · simp only [escapeRun_append_of_ne escapes]

theorem even_escapeRun_singleton {c : Char} (unescaped : c ≠ escape) : Even (escapeRun [c]) := by
  have alone := escapeRun_append_of_ne unescaped []
  rw [List.nil_append] at alone
  rw [alone]
  exact Even.zero

theorem even_escapeRun_pair (c : Char) : Even (escapeRun [escape, c]) := by
  by_cases escapes : c = escape
  · subst escapes
    decide
  · have last := escapeRun_append_of_ne escapes [escape]
    rw [List.singleton_append] at last
    rw [last]
    exact Even.zero

theorem freeAt_cons_zero {c d : Char} {rest : Text} : FreeAt c (d :: rest) 0 ↔ d = c := by
  simp [FreeAt]

theorem freeAt_append {c : Char} {front : Text} (even : Even (escapeRun front)) (rest : Text)
    (i : Nat) : FreeAt c (front ++ rest) (front.length + i) ↔ FreeAt c rest i := by
  rw [FreeAt, FreeAt, List.getElem?_append_right (Nat.le_add_right _ _), Nat.add_sub_cancel_left,
    List.take_length_add_append, even_escapeRun_append even]

theorem freeAt_cons_succ {c d : Char} (unescaped : d ≠ escape) (rest : Text) (i : Nat) :
    FreeAt c (d :: rest) (i + 1) ↔ FreeAt c rest i := by
  rw [Nat.add_comm]
  exact freeAt_append (even_escapeRun_singleton unescaped) rest i

theorem freeAt_pair_add_two {c d : Char} (rest : Text) (i : Nat) :
    FreeAt c (escape :: d :: rest) (i + 2) ↔ FreeAt c rest i := by
  rw [Nat.add_comm]
  exact freeAt_append (even_escapeRun_pair d) rest i

theorem not_freeAt_escaped (c : Char) (rest : Text) : ¬ FreeAt c (escape :: rest) 1 := by
  intro free
  have run : Even (escapeRun [escape]) := free.2
  exact absurd run (by decide)

/-- A free backslash is not the last character of a text that ends in an even number of them. -/
theorem lt_length_of_freeAt_escape {body : Text} {i : Nat} (even : Even (escapeRun body))
    (free : FreeAt escape body i) : i + 1 < body.length := by
  obtain ⟨here, before⟩ := free
  obtain ⟨inside, same⟩ := List.getElem?_eq_some_iff.mp here
  by_contra last
  have whole : body = body.take i ++ [escape] := by
    rw [← same, List.take_append_getElem inside, List.take_of_length_le (by omega)]
  rw [whole, escapeRun_append_escape, Nat.even_add_one] at even
  exact even before

theorem FreeAt.even_take_succ {c : Char} {text : Text} {i : Nat} (free : FreeAt c text i)
    (unescaped : c ≠ escape) : Even (escapeRun (text.take (i + 1))) := by
  have longer : text.take (i + 1) = text.take i ++ [c] := by
    rw [List.take_add_one, free.1, Option.toList_some]
  rw [longer, even_escapeRun_append free.2]
  exact even_escapeRun_singleton unescaped

theorem FreeAt.even_take_add_two {d : Char} {text : Text} {i : Nat} (free : FreeAt escape text i)
    (next : text[i + 1]? = some d) : Even (escapeRun (text.take (i + 2))) := by
  have longer : text.take (i + 2) = text.take i ++ [escape, d] := by
    rw [List.take_add_one, next, List.take_add_one, free.1, Option.toList_some, Option.toList_some,
      List.append_assoc, List.singleton_append]
  rw [longer, even_escapeRun_append free.2]
  exact even_escapeRun_pair d

theorem exists_freeAt_of_cons {c d : Char} {rest : Text} {i : Nat} (other : d ≠ c)
    (unescaped : d ≠ escape) (free : FreeAt c (d :: rest) i) :
    ∃ j, i = j + 1 ∧ FreeAt c rest j := by
  cases i with
  | zero => exact absurd (freeAt_cons_zero.mp free) other
  | succ j => exact ⟨j, rfl, (freeAt_cons_succ unescaped rest j).mp free⟩

theorem exists_freeAt_of_pair {c d : Char} {rest : Text} {i : Nat} (other : escape ≠ c)
    (free : FreeAt c (escape :: d :: rest) i) : ∃ j, i = j + 2 ∧ FreeAt c rest j := by
  obtain _ | _ | j := i
  · exact absurd (freeAt_cons_zero.mp free) other
  · exact absurd free (not_freeAt_escaped c (d :: rest))
  · exact ⟨j, rfl, (freeAt_pair_add_two rest j).mp free⟩

theorem Stands.isLeast_freeAt {body content : Text} (stands : Stands body content) (after : Text) :
    IsLeast {i | FreeAt quote (body ++ quote :: after) i} body.length := by
  induction stands with
  | nil => exact ⟨freeAt_cons_zero.mpr rfl, fun i _ => Nat.zero_le i⟩
  | plain unquoted unescaped _ ih =>
    refine ⟨(freeAt_cons_succ unescaped _ _).mpr ih.1, fun i free => ?_⟩
    obtain ⟨j, rfl, later⟩ := exists_freeAt_of_cons unquoted unescaped free
    exact Nat.succ_le_succ (ih.2 later)
  | escaped _ ih =>
    refine ⟨(freeAt_pair_add_two _ _).mpr ih.1, fun i free => ?_⟩
    obtain ⟨j, rfl, later⟩ := exists_freeAt_of_pair (by decide) free
    exact Nat.add_le_add_right (ih.2 later) 2

theorem Stands.not_freeAt_quote {body content : Text} (stands : Stands body content) (i : Nat) :
    ¬ FreeAt quote body i := by
  intro free
  have inside := (List.getElem?_eq_some_iff.mp free.1).1
  have closes : FreeAt quote (body ++ [quote]) i := by
    rw [FreeAt, List.getElem?_append_left inside, List.take_append_of_le_length inside.le]
    exact free
  exact absurd ((stands.isLeast_freeAt []).2 closes) inside.not_ge

/-- The closing quote has an even number of backslashes before it. -/
theorem Stands.even_escapeRun {body content : Text} (stands : Stands body content) :
    Even (escapeRun body) := by
  have even := (stands.isLeast_freeAt []).1.2
  rwa [List.take_left] at even

theorem not_freeAt_of_close? {text : Text} (unclosed : close? text = none) (i : Nat) :
    ¬ FreeAt quote text i := by
  intro free
  fun_induction close? text generalizing i with
  | case1 => cases free.1
  | case2 | case4 => cases unclosed
  | case3 c unquoted => exact unquoted (List.mem_singleton.mp (List.mem_of_getElem? free.1)).symm
  | case5 d rest _ ih =>
    obtain ⟨j, rfl, later⟩ := exists_freeAt_of_pair (by decide) free
    exact ih (Option.map_eq_none_iff.mp unclosed) j later
  | case6 c d rest unquoted unescaped ih =>
    obtain ⟨j, rfl, later⟩ := exists_freeAt_of_cons unquoted unescaped free
    exact ih (Option.map_eq_none_iff.mp unclosed) j later

/-- As many characters are lost from a body as backslashes escape. -/
theorem Stands.length_add_escapePairs {body content : Text} (stands : Stands body content) :
    content.length + escapePairs body = body.length := by
  induction stands with
  | nil => rfl
  | @plain c body content unquoted unescaped _ ih =>
    have pairs : escapePairs (c :: body) = escapePairs body := by
      rw [escapePairs, List.length_cons, Nat.count_succ']
      simp [freeAt_cons_zero, freeAt_cons_succ unescaped, escapePairs, unescaped]
    rw [pairs, List.length_cons, List.length_cons, ← ih]
    omega
  | @escaped c body content _ ih =>
    have pairs : escapePairs (escape :: c :: body) = escapePairs body + 1 := by
      rw [escapePairs, List.length_cons, List.length_cons, Nat.count_succ', Nat.count_succ']
      simp [freeAt_cons_zero, freeAt_pair_add_two, not_freeAt_escaped, escapePairs]
    rw [pairs, List.length_cons, List.length_cons, List.length_cons, ← ih]
    omega

end Literal

namespace Text

variable {text : Text} {start : Nat}

/-- Whether a position holds a quote that closes a literal which opens before it: between the
opening quote and the position, the backslashes right before the position are even in number. -/
def ClosesLiteral (text : Text) (start position : Nat) : Prop :=
  start < position ∧ text[position]? = some Literal.quote ∧
    Even (Literal.escapeRun (text.extract (start + 1) position))

/-- The quotes that close a literal are the free ones of what follows its opening quote. -/
theorem closesLiteral_iff {position : Nat} :
    text.ClosesLiteral start position ↔
      ∃ i, position = start + 1 + i ∧ Literal.FreeAt Literal.quote (text.drop (start + 1)) i := by
  have shifted (i : Nat) : text.ClosesLiteral start (start + 1 + i) ↔
      Literal.FreeAt Literal.quote (text.drop (start + 1)) i := by
    have behind : start < start + 1 + i := by omega
    rw [ClosesLiteral, Literal.FreeAt, List.getElem?_drop, List.extract_eq_take_drop,
      Nat.add_sub_cancel_left]
    exact and_iff_right behind
  constructor
  · intro closes
    obtain ⟨i, rfl⟩ := Nat.exists_eq_add_of_le (Nat.succ_le_of_lt closes.1)
    exact ⟨i, rfl, (shifted i).mp closes⟩
  · rintro ⟨i, rfl, free⟩
    exact (shifted i).mpr free

/-- A literal that is found to end has a body between its quotes, which stands for a text. -/
theorem exists_stands_of_literalEnd {next : Nat} (ended : text.literalEnd start = .ok next) :
    ∃ body after, text.drop (start + 1) = body ++ Literal.quote :: after ∧
      next = start + 1 + body.length + 1 ∧ Literal.Stands body (Literal.unescape body) := by
  rw [literalEnd] at ended
  split at ended
  · rename_i body after closed
    cases ended
    exact ⟨body, after, Literal.eq_append_of_close? closed, by omega,
      Literal.stands_of_close? closed⟩
  · cases ended

theorem isLeast_of_literalEnd {next : Nat} (ended : text.literalEnd start = .ok next) :
    ∃ closing, next = closing + 1 ∧ IsLeast {i | text.ClosesLiteral start i} closing := by
  obtain ⟨body, after, tail, rfl, stands⟩ := exists_stands_of_literalEnd ended
  have least := stands.isLeast_freeAt after
  rw [← tail] at least
  refine ⟨start + 1 + body.length, rfl, closesLiteral_iff.mpr ⟨_, rfl, least.1⟩, ?_⟩
  intro position closes
  obtain ⟨i, rfl, free⟩ := closesLiteral_iff.mp closes
  exact Nat.add_le_add_left (least.2 free) (start + 1)

theorem not_closesLiteral_of_literalEnd {fault : NestingFault}
    (failed : text.literalEnd start = .error fault) :
    fault = .unterminated start ∧ ∀ position, ¬ text.ClosesLiteral start position := by
  rw [literalEnd] at failed
  split at failed
  · cases failed
  · rename_i unclosed
    cases failed
    refine ⟨rfl, fun position closes => ?_⟩
    obtain ⟨i, -, free⟩ := closesLiteral_iff.mp closes
    exact Literal.not_freeAt_of_close? unclosed i free

/-- The end of a literal is told by its first closing quote, or there is none. -/
theorem literalEnd_iff (text : Text) (start : Nat) :
    (∀ next, text.literalEnd start = .ok next ↔
      ∃ closing, next = closing + 1 ∧ IsLeast {i | text.ClosesLiteral start i} closing) ∧
    ∀ fault, text.literalEnd start = .error fault ↔
      fault = .unterminated start ∧ ∀ i, ¬ text.ClosesLiteral start i := by
  refine outcome_iff (fun next => isLeast_of_literalEnd)
    (fun fault => not_closesLiteral_of_literalEnd) ?_ ?_ ?_
  · rintro _ fault ⟨closing, rfl, least⟩ ⟨-, never⟩
    exact never closing least.1
  · rintro _ _ ⟨closing, rfl, least⟩ ⟨other, rfl, first⟩
    rw [least.unique first]
  · rintro _ _ ⟨rfl, -⟩ ⟨rfl, -⟩
    rfl

theorem literalLoop_turn_of_ne {i : Nat} {c : Char} (unquoted : c ≠ Literal.quote)
    (unescaped : c ≠ Literal.escape) :
    (literalLoop start).turn i c = .ok (.again (i + 1)) := by
  simp only [literalLoop, if_neg unescaped, if_neg unquoted]
  rfl

section Unescape

variable {body written : Text} {i : Nat}

theorem unescapeLoop_turn_of_ne {c : Char} (unescaped : c ≠ Literal.escape) :
    (unescapeLoop body).turn (i, written) c = .ok (.again (i + 1, written ++ [c])) := by
  simp only [unescapeLoop, unescaped, false_and, if_false]
  rfl

theorem unescapeLoop_turn_escape {d : Char} (next : body[i + 1]? = some d) :
    (unescapeLoop body).turn (i, written) Literal.escape =
      .ok (.again (i + 2, written ++ [d])) := by
  obtain ⟨inside, -⟩ := List.getElem?_eq_some_iff.mp next
  simp only [unescapeLoop, inside, charAt, next, and_self, if_true]
  rfl

/-- The loop that resolves escapes looks at free characters. -/
theorem even_of_reaches_unescapeLoop (even : Even (Literal.escapeRun body)) {state : Nat × Text}
    (reached : (unescapeLoop body).Reaches body (0, []) state) :
    Even (Literal.escapeRun (body.take state.1)) := by
  induction reached with
  | here => exact Even.zero
  | @again state next c _ there step before =>
    have free : Literal.FreeAt c body state.1 := ⟨there, before⟩
    by_cases escapes : c = Literal.escape
    · subst escapes
      have inside := Literal.lt_length_of_freeAt_escape even free
      have after := List.getElem?_eq_getElem inside
      rw [unescapeLoop_turn_escape after] at step
      cases step
      exact free.even_take_add_two after
    · rw [unescapeLoop_turn_of_ne escapes] at step
      cases step
      exact free.even_take_succ escapes

end Unescape

section Together

variable {body content after : Text} (tail : text.drop (start + 1) = body ++ Literal.quote :: after)
  (stands : Literal.Stands body content)
include tail stands

/-- Where the search for the closing quote looks, the resolution of escapes looks too. -/
theorem exists_reaches_unescapeLoop {position : Nat}
    (reached : (literalLoop start).Reaches text (start + 1) position) :
    ∃ i written, position = start + 1 + i ∧ i ≤ body.length ∧
      (unescapeLoop body).Reaches body (0, []) (i, written) := by
  induction reached with
  | here => exact ⟨0, [], rfl, Nat.zero_le _, .here⟩
  | @again position next c _ there step before =>
    obtain ⟨i, written, rfl, short, before⟩ := before
    -- The search is over at a quote, so it is not at the one behind the body.
    have unquoted : c ≠ Literal.quote := by
      rintro rfl
      cases step
    have there : (body ++ Literal.quote :: after)[i]? = some c := by
      rw [← tail, List.getElem?_drop]
      exact there
    have inside : i < body.length := by
      refine lt_of_le_of_ne short fun last => unquoted ?_
      subst last
      simpa using there.symm
    rw [List.getElem?_append_left inside] at there
    by_cases escapes : c = Literal.escape
    · subst escapes
      have even := even_of_reaches_unescapeLoop stands.even_escapeRun before
      have further := Literal.lt_length_of_freeAt_escape stands.even_escapeRun ⟨there, even⟩
      cases step
      exact ⟨i + 2, _, rfl, further,
        before.again there (unescapeLoop_turn_escape (List.getElem?_eq_getElem further))⟩
    · rw [literalLoop_turn_of_ne unquoted escapes] at step
      cases step
      exact ⟨i + 1, _, rfl, inside, before.again there (unescapeLoop_turn_of_ne escapes)⟩

/-- Where the resolution of escapes looks, the search for the closing quote has looked too. -/
theorem reaches_literalLoop {state : Nat × Text}
    (reached : (unescapeLoop body).Reaches body (0, []) state) :
    (literalLoop start).Reaches text (start + 1) (start + 1 + state.1) := by
  induction reached with
  | here => exact .here
  | @again state next c before there step reached =>
    have free : Literal.FreeAt c body state.1 :=
      ⟨there, even_of_reaches_unescapeLoop stands.even_escapeRun before⟩
    have inside := (List.getElem?_eq_some_iff.mp free.1).1
    have here : text[start + 1 + state.1]? = some c := by
      rw [← List.getElem?_drop, tail, List.getElem?_append_left inside]
      exact there
    by_cases escapes : c = Literal.escape
    · subst escapes
      have further := Literal.lt_length_of_freeAt_escape stands.even_escapeRun free
      rw [unescapeLoop_turn_escape (List.getElem?_eq_getElem further)] at step
      cases step
      exact reached.again here rfl
    · have unquoted : c ≠ Literal.quote := by
        rintro rfl
        exact stands.not_freeAt_quote _ free
      rw [unescapeLoop_turn_of_ne escapes] at step
      cases step
      exact reached.again here (literalLoop_turn_of_ne unquoted escapes)

end Together

/-- Whether the search for the end of a literal that opens at a position, and the resolution of the
escapes in its body, agree on where escapes are, so that the text which the literal stands for can
be quoted again. -/
structure Resolves (text : Text) (start : Nat) (body : Text) : Prop where
  together : ∀ i, i ≤ body.length →
    ((literalLoop start).Reaches text (start + 1) (start + 1 + i) ↔
      ∃ written, (unescapeLoop body).Reaches body (0, []) (i, written))
  paired : ∀ i written, (unescapeLoop body).Reaches body (0, []) (i, written) →
    body[i]? = some Literal.escape → i + 1 < body.length
  ends : (unescapeLoop body).within? body (body.length + 1) (0, []) =
    some (.ok (Literal.unescape body))
  length : (Literal.unescape body).length + Literal.escapePairs body = body.length
  complete : let again := Literal.ofText (Literal.unescape body)
    again.literalEnd 0 = .ok again.length
  requoted : Literal.value (Literal.ofText (Literal.unescape body)) = Literal.unescape body

theorem literalEnd_ofText (content : Text) :
    literalEnd (Literal.ofText content) 0 = .ok (Literal.ofText content).length := by
  have closed := (Literal.stands_escaped content).close?_append []
  have tail : (Literal.ofText content).drop (0 + 1) = Literal.escaped content ++ [Literal.quote] :=
    rfl
  have size : (Literal.ofText content).length = 0 + (Literal.escaped content).length + 2 := by
    simp [Literal.ofText]
  rw [literalEnd, tail, closed, size]

theorem value_ofText (content : Text) : Literal.value (Literal.ofText content) = content := by
  rw [Literal.value, Literal.ofText, List.tail_cons, List.dropLast_concat,
    Literal.unescape_escaped]

theorem within?_unescapeLoop (body : Text) :
    (unescapeLoop body).within? body (body.length + 1) (0, []) =
      some (.ok (Literal.unescape body)) := by
  have enough : body.length - (unescapeLoop body).position (0, []) < body.length + 1 := by
    simp [unescapeLoop]
  rw [(unescapeLoop_scans body).ends (0, []) _ enough]
  simp only [unescapedFrom_eq, List.drop_zero]
  rfl

theorem within?_literalLoop (text : Text) (start : Nat) :
    (literalLoop start).within? text (text.length + 1) (start + 1) =
      some ((text.literalEnd start).mapError .ofNesting) := by
  have enough : text.length - (literalLoop start).position (start + 1) < text.length + 1 := by omega
  rw [(literalLoop_scans text start).ends (start + 1) _ enough, ← literalEndAt_eq]
  rfl

theorem resolves_of_drop {body content after : Text}
    (tail : text.drop (start + 1) = body ++ Literal.quote :: after)
    (stands : Literal.Stands body content) : text.Resolves start body where
  together i short := by
    constructor
    · intro reached
      obtain ⟨j, written, same, -, reached⟩ := exists_reaches_unescapeLoop tail stands reached
      obtain rfl : i = j := by omega
      exact ⟨written, reached⟩
    · rintro ⟨written, reached⟩
      exact reaches_literalLoop tail stands reached
  paired i written reached here :=
    Literal.lt_length_of_freeAt_escape stands.even_escapeRun
      ⟨here, even_of_reaches_unescapeLoop stands.even_escapeRun reached⟩
  ends := within?_unescapeLoop body
  length := by
    rw [stands.unescape_eq]
    exact stands.length_add_escapePairs
  complete := literalEnd_ofText _
  requoted := value_ofText _

/-- A literal ends at the first quote behind the opening one that has an even number of backslashes
right before it, and does not end if there is none. Its escapes are resolved where they were passed
over: none of them is left without the character that it escapes, the text gets shorter by one
character for each, and quoted again it reads as the same text. -/
theorem closes_at_even_run (opens : text[start]? = some Literal.quote) :
    (∀ next, text.literalEnd start = .ok next ↔
      ∃ closing, next = closing + 1 ∧ IsLeast {i | text.ClosesLiteral start i} closing) ∧
    (∀ fault, text.literalEnd start = .error fault ↔
      fault = .unterminated start ∧ ∀ i, ¬ text.ClosesLiteral start i) ∧
    (∀ next, text.literalEnd start = .ok next → ∃ body,
      text.extract start next = Literal.quote :: (body ++ [Literal.quote]) ∧
        Literal.value (text.extract start next) = Literal.unescape body ∧
        text.Resolves start body) ∧
    (literalLoop start).within? text (text.length + 1) (start + 1) =
      some ((text.literalEnd start).mapError .ofNesting) := by
  obtain ⟨ends, fails⟩ := literalEnd_iff text start
  refine ⟨ends, fails, fun next ended => ?_, within?_literalLoop text start⟩
  obtain ⟨body, after, tail, rfl, stands⟩ := exists_stands_of_literalEnd ended
  have whole : text.drop start = Literal.quote :: (body ++ [Literal.quote]) ++ after := by
    rw [drop_of_getElem? opens, tail]
    simp
  have literal : text.extract start (start + 1 + body.length + 1) =
      Literal.quote :: (body ++ [Literal.quote]) := by
    have size : start + 1 + body.length + 1 =
        start + (Literal.quote :: (body ++ [Literal.quote])).length := by
      simp only [List.length_cons, List.length_append, List.length_nil]
      omega
    rw [size, extract_add_of_drop le_rfl whole]
    simp
  refine ⟨body, literal, ?_, resolves_of_drop tail stands⟩
  rw [literal, Literal.value, List.tail_cons, List.dropLast_concat]

/-- Three backslashes before a quote that does not close, two before the one that does. -/
theorem closes_at_even_run_second :
    let text := Text.lit "x\"\\\\\\\"\\\\\"y"
    text[1]? = some Literal.quote ∧ text.literalEnd 1 = .ok 9 ∧
      IsLeast {i | text.ClosesLiteral 1 i} 8 ∧
      Literal.value (text.extract 1 9) = Text.lit "\\\"\\" ∧
      text.Resolves 1 (Text.lit "\\\\\\\"\\\\") := by
  intro text
  have opens : text[1]? = some Literal.quote := rfl
  have ended : text.literalEnd 1 = .ok 9 := rfl
  obtain ⟨closes, -, resolves, -⟩ := closes_at_even_run opens
  obtain ⟨closing, next, least⟩ := (closes 9).mp ended
  obtain ⟨body, literal, -, agrees⟩ := resolves 9 ended
  obtain rfl : closing = 8 := by omega
  obtain rfl : body = Text.lit "\\\\\\\"\\\\" :=
    (List.append_cancel_right (List.cons.inj literal).2).symm
  exact ⟨opens, ended, least, rfl, agrees⟩

end Text
end SceneFormula
