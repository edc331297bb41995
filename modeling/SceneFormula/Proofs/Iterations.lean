import SceneFormula.Proofs.Descent
import SceneFormula.Proofs.OperatorCodes

set_option autoImplicit false

namespace SceneFormula

/-- What a turn of a loop comes to: the state that the next turn starts in, or a result. -/
inductive Turn (σ ρ : Type) where
  | again (state : σ)
  | done (result : ρ)

def Turn.finish {σ ρ : Type} (read : σ → Except Mishap ρ) : Turn σ ρ → Except Mishap ρ
  | again state => read state
  | done result => .ok result

def Turn.LeadsBehind {σ ρ : Type} (position : σ → Nat) (i : Nat) (turn : Except Mishap (Turn σ ρ)) :
    Prop :=
  ∀ next, turn = .ok (.again next) → i < position next

namespace Turn.LeadsBehind

variable {σ ρ : Type} {position : σ → Nat} {i : Nat}

theorem again {next : σ} (behind : i < position next) :
    LeadsBehind position i (.ok (.again next) : Except Mishap (Turn σ ρ)) := by
  rintro _ ⟨⟩
  exact behind

theorem done (result : ρ) : LeadsBehind position i (.ok (.done result)) := by
  rintro _ ⟨⟩

theorem error (mishap : Mishap) :
    LeadsBehind position i (.error mishap : Except Mishap (Turn σ ρ)) := by
  rintro _ ⟨⟩

theorem bind {α : Type} {first : Except Mishap α} {turn : α → Except Mishap (Turn σ ρ)}
    (leads : ∀ value, first = .ok value → LeadsBehind position i (turn value)) :
    LeadsBehind position i (first >>= turn) := by
  intro next step
  obtain ⟨value, found, step⟩ := Mishap.exists_of_bind step
  exact leads value found next step

end Turn.LeadsBehind

/-- A loop over the characters of a text. -/
structure Loop (σ ρ : Type) where
  position : σ → Nat
  turn : σ → Char → Except Mishap (Turn σ ρ)
  finish : σ → Except Mishap ρ

namespace Loop

variable {σ ρ : Type} {loop : Loop σ ρ} {text : Text} {read : σ → Except Mishap ρ}

/-- What a loop comes to within a number of turns, if these are enough. -/
def within? (loop : Loop σ ρ) (text : Text) : Nat → σ → Option (Except Mishap ρ)
  | 0, _ => none
  | turns + 1, state =>
    if loop.position state < text.length then
      match text.charAt (loop.position state) >>= loop.turn state with
      | .error mishap => some (.error mishap)
      | .ok (.done result) => some (.ok result)
      | .ok (.again next) => loop.within? text turns next
    else some (loop.finish state)

/-- Whether each turn at a character of a text is the last one or leads to a later position. -/
def Advances (loop : Loop σ ρ) (text : Text) : Prop :=
  ∀ state c rest, text.drop (loop.position state) = c :: rest →
    Turn.LeadsBehind loop.position (loop.position state) (loop.turn state c)

/-- Whether a reading of a text is a turn of a loop and then the reading again. -/
structure Unrolls (loop : Loop σ ρ) (text : Text) (read : σ → Except Mishap ρ) : Prop where
  inside : ∀ state c rest, text.drop (loop.position state) = c :: rest →
    read state = loop.turn state c >>= Turn.finish read
  ended : ∀ state, text.drop (loop.position state) = [] → read state = loop.finish state

/-- Whether a loop advances in each turn, and comes to what is read. -/
structure Scans (loop : Loop σ ρ) (text : Text) (read : σ → Except Mishap ρ) : Prop where
  advances : loop.Advances text
  ends : ∀ state turns, text.length - loop.position state < turns →
    loop.within? text turns state = some (read state)

theorem Unrolls.scans (unrolls : loop.Unrolls text read) (advances : loop.Advances text) :
    loop.Scans text read := by
  refine ⟨advances, fun state turns enough => ?_⟩
  -- With each turn fewer characters are left, and one turn fewer.
  induction turns generalizing state with
  | zero => cases enough
  | succ turns ih =>
    rw [within?]
    cases tail : text.drop (loop.position state) with
    | nil =>
      have beyond := List.drop_eq_nil_iff.mp tail
      rw [if_neg beyond.not_gt, unrolls.ended state tail]
    | cons c rest =>
      have inside := Text.lt_length_of_drop tail
      rw [if_pos inside, Text.charAt_of_drop tail, Mishap.ok_bind,
        unrolls.inside state c rest tail]
      cases step : loop.turn state c with
      | error mishap => rfl
      | ok turned =>
        cases turned with
        | done result => rfl
        | again next =>
          have further := advances state c rest tail next step
          exact ih next (by omega)

end Loop

namespace Text

/-- The search for the end of a literal that opens at a position. -/
def literalLoop (start : Nat) : Loop Nat Nat where
  position := id
  turn i c :=
    if c = Literal.escape then return .again (i + 2)
    else if c = Literal.quote then return .done (i + 1)
    else return .again (i + 1)
  finish _ := .error (.ofNesting (.unterminated start))

theorem literalLoop_scans (text : Text) (start : Nat) :
    (literalLoop start).Scans text (literalEndFrom text start) := by
  refine Loop.Unrolls.scans ⟨fun i c rest (tail : text.drop i = c :: rest) => ?_,
    fun i => literalEndFrom_of_drop_nil⟩ fun i c rest _ => ?_
  · rw [literalEndFrom_of_drop_cons tail]
    simp only [literalLoop]
    split
    · rfl
    · split <;> rfl
  · simp only [literalLoop]
    split
    · exact .again (Nat.lt_add_of_pos_right Nat.zero_lt_two)
    · split
      · exact .done _
      · exact .again (Nat.lt_succ_self i)

def unescapeLoop (body : Text) : Loop (Nat × Text) Text where
  position := Prod.fst
  turn := fun (i, written) c =>
    if c = Literal.escape ∧ i + 1 < body.length then do
      let d ← charAt body (i + 1)
      return .again (i + 2, written ++ [d])
    else return .again (i + 1, written ++ [c])
  finish := fun (_, written) => return written

theorem unescapeLoop_scans (body : Text) :
    (unescapeLoop body).Scans body fun (i, written) =>
      (unescapedFrom body i).map (written ++ ·) := by
  refine Loop.Unrolls.scans ⟨?_, ?_⟩ ?_
  · rintro ⟨i, written⟩ c rest (tail : body.drop i = c :: rest)
    dsimp only
    rw [unescapedFrom, dif_pos (lt_length_of_drop tail), charAt_of_drop tail, Mishap.ok_bind]
    simp only [unescapeLoop]
    split
    · cases charAt body (i + 1) with
      | error mishap => rfl
      | ok d => cases later : unescapedFrom body (i + 2) <;> simp [Turn.finish, Except.map, later]
    · cases later : unescapedFrom body (i + 1) <;> simp [Turn.finish, Except.map, later]
  · rintro ⟨i, written⟩ (tail : body.drop i = [])
    dsimp only
    rw [unescapedFrom, dif_neg (List.drop_eq_nil_iff.mp tail).not_gt]
    exact congrArg Except.ok (List.append_nil written)
  · rintro ⟨i, written⟩ c rest -
    simp only [unescapeLoop]
    split
    · exact .bind fun d _ => .again (Nat.lt_add_of_pos_right Nat.zero_lt_two)
    · exact .again (Nat.lt_succ_self i)

/-- The emptying of all literals; one that has no end takes up the rest of the text. -/
def blankingLoop (text : Text) : Loop (Nat × Text) Text where
  position := Prod.fst
  turn := fun (i, written) c =>
    if c = Literal.quote then
      match literalEndAt text i with
      | .ok next => return .again (next, written ++ [Literal.quote, Literal.quote])
      | .error (.fault _) => return .again (text.length, written ++ [Literal.quote, Literal.quote])
      | .error mishap => .error mishap
    else return .again (i + 1, written ++ [c])
  finish := fun (_, written) => return written

theorem blankingLoop_scans (text : Text) :
    (blankingLoop text).Scans text fun (i, written) => blankedFrom text i written := by
  refine Loop.Unrolls.scans ⟨?_, ?_⟩ ?_
  · rintro ⟨i, written⟩ c rest (tail : text.drop i = c :: rest)
    dsimp only
    rw [blankedFrom, dif_pos (lt_length_of_drop tail), charAt_of_drop tail, Mishap.ok_bind]
    simp only [blankingLoop]
    split
    -- Only that a literal is open is caught, here as in the reading.
    · split
      · rename_i ended
        rw [ended]
        rfl
      · rename_i ended
        rw [ended]
        rfl
      · rename_i mishap uncaught ended
        rw [ended]
        cases mishap with
        | fault fault => exact absurd rfl (uncaught fault)
        | outOfRange | nameless | tooDeep | breakdown => rfl
    · rfl
  · rintro ⟨i, written⟩ (tail : text.drop i = [])
    exact blankedFrom_of_drop_nil tail
  · rintro ⟨i, written⟩ c rest (tail : text.drop i = c :: rest)
    simp only [blankingLoop]
    split
    · split
      · exact .again (lt_of_literalEndAt ‹_›)
      -- The end of the text is behind the quote that no other one closes.
      · exact .again (lt_length_of_drop tail)
      · exact .error _
    · exact .again (Nat.lt_succ_self i)

def closingLoop (text : Text) (opening : Nat) : Loop (Nat × Int) Nat where
  position := Prod.fst
  turn := fun (i, depth) c =>
    if c = Literal.quote then do
      let next ← literalEndAt text i
      return .again (next, depth)
    else if c = '(' then return .again (i + 1, depth + 1)
    else if c = ')' then
      if depth - 1 = 0 then return .done i else return .again (i + 1, depth - 1)
    else return .again (i + 1, depth)
  finish _ := .error (.ofNesting (.unbalanced opening))

theorem closingLoop_scans (text : Text) (opening : Nat) :
    (closingLoop text opening).Scans text fun (i, depth) => closingAt text opening depth i := by
  refine Loop.Unrolls.scans ⟨?_, fun _ => closingAt_of_drop_nil⟩ ?_
  · rintro ⟨i, depth⟩ c rest (tail : text.drop i = c :: rest)
    simp only [closingLoop]
    split
    · rename_i quoted
      subst quoted
      rw [closingAt_of_drop_quote tail]
      cases literalEndAt text i <;> rfl
    · rename_i unquoted
      have bottom : depth = 1 ↔ depth - 1 = 0 := by omega
      simp only [closingAt_of_drop_cons unquoted tail, bottom]
      split
      · rfl
      · split
        · split <;> rfl
        · rfl
  · rintro ⟨i, depth⟩ c rest -
    have next : i < i + 1 := Nat.lt_succ_self i
    simp only [closingLoop]
    split
    · exact .bind fun past ended => .again (lt_of_literalEndAt ended)
    · split
      · exact .again next
      · split
        · split
          · exact .done i
          · exact .again next
        · exact .again next

/-- The search for the separators outside of literals and parentheses, with the parts before the
last one and the position behind it. -/
def splitLoop (text : Text) (separator : Char) :
    Loop (Nat × Nat × Int × List Text) (List Text) where
  position := Prod.fst
  turn := fun (i, last, depth, parts) c =>
    if c = Literal.quote then do
      let next ← literalEndAt text i
      return .again (next, last, depth, parts)
    else if c = '(' then return .again (i + 1, last, depth + 1, parts)
    else if c = ')' then return .again (i + 1, last, depth - 1, parts)
    else if c = separator ∧ depth = 0 then
      return .again (i + 1, i + 1, depth, parts ++ [strip (text.extract last i)])
    else return .again (i + 1, last, depth, parts)
  finish := fun (_, last, _, parts) => return parts ++ [strip (text.drop last)]

theorem splitLoop_scans (text : Text) (separator : Char) :
    (splitLoop text separator).Scans text fun (i, last, depth, parts) =>
      (splitFrom text separator depth last i).map (parts ++ ·) := by
  refine Loop.Unrolls.scans ⟨?_, ?_⟩ ?_
  · rintro ⟨i, last, depth, parts⟩ c rest (tail : text.drop i = c :: rest)
    simp only [splitLoop]
    split
    · rename_i quoted
      subst quoted
      rw [splitFrom_of_drop_quote tail]
      cases literalEndAt text i <;> rfl
    · rename_i unquoted
      rw [splitFrom_of_drop_cons unquoted tail]
      split
      · rfl
      · split
        · rfl
        · split
          · cases later : splitFrom text separator depth (i + 1) (i + 1) <;>
              simp [Turn.finish, Except.map, later]
          · rfl
  · rintro ⟨i, last, depth, parts⟩ (tail : text.drop i = [])
    dsimp only
    rw [splitFrom, dif_neg (List.drop_eq_nil_iff.mp tail).not_gt]
    rfl
  · rintro ⟨i, last, depth, parts⟩ c rest -
    have next : i < i + 1 := Nat.lt_succ_self i
    simp only [splitLoop]
    split
    · exact .bind fun past ended => .again (lt_of_literalEndAt ended)
    · split
      · exact .again next
      · split
        · exact .again next
        · split <;> exact .again next

def blankLoop : Loop Nat Nat where
  position := id
  turn i c := if isBlank c then return .again (i + 1) else return .done i
  finish i := return i

theorem blankLoop_scans (text : Text) : blankLoop.Scans text (blankEnd text) := by
  refine Loop.Unrolls.scans ⟨fun i c rest (tail : text.drop i = c :: rest) => ?_,
    fun i (tail : text.drop i = []) => ?_⟩ fun i c rest _ => ?_
  · rw [blankEnd, dif_pos (lt_length_of_drop tail), charAt_of_drop tail, Mishap.ok_bind]
    simp only [blankLoop]
    split <;> rfl
  · rw [blankEnd, dif_neg (List.drop_eq_nil_iff.mp tail).not_gt]
    rfl
  · simp only [blankLoop]
    split
    · exact .again (Nat.lt_succ_self i)
    · exact .done i

/-- The reading of a formula, with the text and what is built of the calls up to a position. -/
def formulaLoop {α : Type} (isBuiltin : Name → Bool) (build : Call → Except Mishap α)
    (text : Text) : Loop (Nat × Text × List α) (Text × List α) where
  position := Prod.fst
  turn := fun (i, rewritten, built) c =>
    if c = Literal.quote then .error (.fault .literalInFormula)
    else do
      if !(← startsNameAt text i) then return .again (i + 1, rewritten ++ [c], built)
      else
        match ← callAt text i with
        | none =>
          let name ← nameAt text i
          if slotPrefix.isPrefixOf name.text then .error (.fault (.reservedName name))
          else return .again (i + name.text.length, rewritten ++ name.text, built)
        | some (cut, next) =>
          if isBuiltin cut.name then
            return .again (i + cut.name.text.length, rewritten ++ cut.name.text, built)
          else
            let value ← build cut
            return .again (next, rewritten ++ slotName built.length, built ++ [value])
  finish := fun (_, rewritten, built) => return (rewritten, built)

theorem formulaLoop_scans {α : Type} (isBuiltin : Name → Bool) (build : Call → Except Mishap α)
    (text : Text) :
    (formulaLoop isBuiltin build text).Scans text fun (i, rewritten, built) =>
      formulaFrom isBuiltin build text i rewritten built := by
  refine Loop.Unrolls.scans ⟨?_, ?_⟩ ?_
  · rintro ⟨i, rewritten, built⟩ c rest (tail : text.drop i = c :: rest)
    dsimp only
    rw [formulaFrom_of_drop_cons tail]
    simp only [formulaLoop, startsNameAt_eq tail, Mishap.ok_bind, Bool.not_eq_true']
    split
    · rfl
    · split
      · rfl
      · cases callAt text i with
        | error mishap => rfl
        | ok found =>
          obtain _ | ⟨cut, next⟩ := found
          · cases nameAt text i with
            | error mishap => rfl
            | ok name =>
              simp only [Mishap.ok_bind]
              split <;> rfl
          · simp only [Mishap.ok_bind]
            split
            · rfl
            · cases build cut <;> rfl
  · rintro ⟨i, rewritten, built⟩ (tail : text.drop i = [])
    dsimp only
    rw [formulaFrom, dif_neg (List.drop_eq_nil_iff.mp tail).not_gt]
    rfl
  · rintro ⟨i, rewritten, built⟩ c rest -
    have longer {name : Name} {rest : Text} (named : Name.front? rest = some name) :
        i < i + name.text.length :=
      Nat.lt_add_of_pos_right (List.length_pos_iff.mpr (Name.text_ne_nil_of_front? named))
    simp only [formulaLoop]
    split
    · exact .error _
    · refine .bind fun starts _ => ?_
      split
      · exact .again (Nat.lt_succ_self i)
      · refine .bind fun found called => ?_
        obtain _ | ⟨cut, next⟩ := found
        · refine .bind fun name named => ?_
          split
          · exact .error _
          · exact .again (longer (front?_of_nameAt named))
        · dsimp only
          split
          · exact .again (longer (Call.front?_name (front?_of_callAt called).1))
          · exact .bind fun value _ => .again (bounds_of_callAt called).1

/-- Whether every loop over a text advances through it, and comes to what is read by positions. -/
structure LoopsAdvance (text : Text) : Prop where
  literal : ∀ start, (literalLoop start).Scans text (literalEndFrom text start)
  unescape : (unescapeLoop text).Scans text fun (i, written) =>
    (unescapedFrom text i).map (written ++ ·)
  blanking : (blankingLoop text).Scans text fun (i, written) => blankedFrom text i written
  closing : ∀ opening, (closingLoop text opening).Scans text fun (i, depth) =>
    closingAt text opening depth i
  split : ∀ separator, (splitLoop text separator).Scans text fun (i, last, depth, parts) =>
    (splitFrom text separator depth last i).map (parts ++ ·)
  blank : blankLoop.Scans text (blankEnd text)
  formula : ∀ {α : Type} (isBuiltin : Name → Bool) (build : Call → Except Mishap α),
    (formulaLoop isBuiltin build text).Scans text fun (i, rewritten, built) =>
      formulaFrom isBuiltin build text i rewritten built

theorem loopsAdvance (text : Text) : text.LoopsAdvance where
  literal := literalLoop_scans text
  unescape := unescapeLoop_scans text
  blanking := blankingLoop_scans text
  closing := closingLoop_scans text
  split := splitLoop_scans text
  blank := blankLoop_scans text
  formula isBuiltin build := formulaLoop_scans isBuiltin build text

end Text
end SceneFormula
