import Mathlib.Data.List.Basic
import SceneFormula.Proofs.Drafting

set_option autoImplicit false

namespace SceneFormula

/-- How a reading by positions ends without a result. -/
inductive Mishap where
  | fault (fault : SyntaxFault)
  | outOfRange
  | nameless
  | tooDeep
  | breakdown (name : Text)

namespace Mishap

def ofStop : Stop SyntaxFault → Mishap
  | .fault cause => .fault cause
  | .breakdown name => .breakdown name

def ofCall (fault : CallFault) : Mishap := .fault (.call fault)

/-- The mishap that the nesting of a text cannot be followed. -/
def ofNesting (fault : NestingFault) : Mishap := .ofCall (.nesting fault)

@[simp] theorem ok_bind {α β : Type} (value : α) (next : α → Except Mishap β) :
    Except.ok value >>= next = next value := rfl

@[simp] theorem error_bind {α β : Type} (mishap : Mishap) (next : α → Except Mishap β) :
    Except.error mishap >>= next = .error mishap := rfl

theorem exists_of_bind {α β : Type} {reading : Except Mishap α} {next : α → Except Mishap β}
    {result : β} (done : reading >>= next = .ok result) :
    ∃ value, reading = .ok value ∧ next value = .ok result := by
  cases reading with
  | ok value => exact ⟨value, rfl, done⟩
  | error mishap => cases done

end Mishap

/-- Where no two outcomes have in common what holds of them, this tells which one comes out. -/
theorem outcome_iff {ε α : Type} {outcome : Except ε α} {result : α → Prop} {cause : ε → Prop}
    (of_ok : ∀ value, outcome = .ok value → result value)
    (of_error : ∀ fault, outcome = .error fault → cause fault)
    (apart : ∀ value fault, result value → ¬ cause fault)
    (one : ∀ value other, result value → result other → value = other)
    (sole : ∀ fault other, cause fault → cause other → fault = other) :
    (∀ value, outcome = .ok value ↔ result value) ∧
      ∀ fault, outcome = .error fault ↔ cause fault := by
  cases outcome with
  | ok found =>
    have holds := of_ok found rfl
    constructor
    · exact fun value => ⟨of_ok value, fun ends => congrArg _ (one found value holds ends)⟩
    · exact fun fault => ⟨of_error fault, fun fails => absurd fails (apart found fault holds)⟩
  | error found =>
    have holds := of_error found rfl
    constructor
    · exact fun value => ⟨of_ok value, fun ends => absurd holds (apart value found ends)⟩
    · exact fun fault => ⟨of_error fault, fun fails => congrArg _ (sole found fault holds fails)⟩

theorem takeWhile_isBlank_opening {blanks : Text} (blank : blanks.isAllBlank = true)
    (inside : Text) : (blanks ++ '(' :: inside).takeWhile isBlank = blanks :=
  takeWhile_append_of_ends (fun c => Text.isBlank_of_mem blank) (by rintro c ⟨⟩; decide)

/-- A call whose parenthesis is not closed is at fault for it. -/
theorem Call.front?_of_unclosed {position opening : Nat} {name : Name} {blanks inside : Text}
    {fault : NestingFault}
    (named : Name.front? (name.text ++ (blanks ++ '(' :: inside)) = some name)
    (blank : blanks.isAllBlank = true)
    (there : position + name.text.length + blanks.length = opening)
    (unclosed : Text.closingFrom opening 0 opening (Text.pieces ('(' :: inside)) = .error fault) :
    front? position (name.text ++ (blanks ++ '(' :: inside)) = .error (.nesting fault) := by
  rw [Nat.add_assoc] at there
  rw [front?, named]
  simp only [List.drop_left, takeWhile_isBlank_opening blank, there, unclosed]

namespace Text

variable {text : Text} {i : Nat}

theorem lt_length_of_drop {c : Char} {rest : Text} (tail : text.drop i = c :: rest) :
    i < text.length := by
  by_contra beyond
  rw [List.drop_eq_nil_of_le (by omega)] at tail
  cases tail

theorem drop_of_getElem? {c : Char} (there : text[i]? = some c) :
    text.drop i = c :: text.drop (i + 1) := by
  obtain ⟨inside, same⟩ := List.getElem?_eq_some_iff.mp there
  rw [List.drop_eq_getElem_cons inside, same]

theorem drop_add_of_drop {front rest : Text} (tail : text.drop i = front ++ rest) :
    text.drop (i + front.length) = rest := by
  rw [← List.drop_drop, tail, List.drop_left]

theorem drop_succ_of_drop {c : Char} {rest : Text} (tail : text.drop i = c :: rest) :
    text.drop (i + 1) = rest := by
  have whole : text.drop i = [c] ++ rest := tail
  exact drop_add_of_drop whole

theorem take_add_of_drop {front rest : Text} (tail : text.drop i = front ++ rest) :
    text.take (i + front.length) = text.take i ++ front := by
  rw [List.take_add, tail, List.take_left]

/-- The character before the rest of a text behind a front is the last one of the front. -/
theorem getLast?_take_of_drop {front rest : Text} (tail : text.drop i = front ++ rest)
    (filled : front ≠ []) : (text.take (i + front.length)).getLast? = front.getLast? := by
  rw [take_add_of_drop tail, List.getLast?_append_of_ne_nil _ filled]

theorem extract_add_of_drop {last : Nat} {front rest : Text} (before : last ≤ i)
    (tail : text.drop i = front ++ rest) :
    text.extract last (i + front.length) = text.extract last i ++ front := by
  have width : i + front.length - last = (i - last) + front.length := by omega
  have here : last + (i - last) = i := by omega
  rw [List.extract_eq_take_drop, List.extract_eq_take_drop, width, List.take_add, List.drop_drop,
    here, tail, List.take_left]

/-- The character at a position, where one has to be. -/
def charAt (text : Text) (i : Nat) : Except Mishap Char :=
  match text[i]? with
  | some c => .ok c
  | none => .error .outOfRange

theorem charAt_of_drop {c : Char} {rest : Text} (tail : text.drop i = c :: rest) :
    charAt text i = .ok c := by
  have here : text[i]? = some c := by rw [← List.head?_drop, tail, List.head?_cons]
  rw [charAt, here]

/-- The position just past a literal that opens at `start`, looked for from a position inside. -/
def literalEndFrom (text : Text) (start i : Nat) : Except Mishap Nat :=
  if _ : i < text.length then do
    let c ← charAt text i
    if c = Literal.escape then literalEndFrom text start (i + 2)
    else if c = Literal.quote then return i + 1
    else literalEndFrom text start (i + 1)
  else .error (.ofNesting (.unterminated start))
termination_by text.length - i

/-- The position just past the literal that opens at a position. -/
def literalEndAt (text : Text) (start : Nat) : Except Mishap Nat :=
  literalEndFrom text start (start + 1)

theorem literalEndFrom_of_drop_nil {start : Nat} (tail : text.drop i = []) :
    literalEndFrom text start i = .error (.ofNesting (.unterminated start)) := by
  have beyond := List.drop_eq_nil_iff.mp tail
  rw [literalEndFrom, dif_neg (by omega)]

theorem literalEndFrom_of_drop_cons {start : Nat} {c : Char} {rest : Text}
    (tail : text.drop i = c :: rest) :
    literalEndFrom text start i =
      if c = Literal.escape then literalEndFrom text start (i + 2)
      else if c = Literal.quote then .ok (i + 1)
      else literalEndFrom text start (i + 1) := by
  rw [literalEndFrom, dif_pos (lt_length_of_drop tail), charAt_of_drop tail]
  rfl

theorem literalEndFrom_eq (text : Text) (start i : Nat) :
    literalEndFrom text start i =
      match Literal.close? (text.drop i) with
      | some (body, _) => .ok (i + body.length + 1)
      | none => .error (.ofNesting (.unterminated start)) := by
  generalize tail : text.drop i = rest
  fun_induction Literal.close? rest generalizing i with
  | case1 => exact literalEndFrom_of_drop_nil tail
  | case2 =>
    rw [literalEndFrom_of_drop_cons tail, if_neg (by decide), if_pos rfl]
    rfl
  | case3 c unquoted =>
    have ends := drop_succ_of_drop tail
    have past : text.drop (i + 2) = [] := by rw [← List.drop_drop (i := 1), ends, List.drop_nil]
    rw [literalEndFrom_of_drop_cons tail, literalEndFrom_of_drop_nil ends,
      literalEndFrom_of_drop_nil past, if_neg unquoted, ite_self]
  | case4 d rest =>
    rw [literalEndFrom_of_drop_cons tail, if_neg (by decide), if_pos rfl]
    rfl
  | case5 d rest unquoted ih =>
    rw [literalEndFrom_of_drop_cons tail, if_pos rfl,
      ih (i + 2) (drop_succ_of_drop (drop_succ_of_drop tail))]
    cases Literal.close? rest with
    | none => rfl
    | some closed =>
      simp only [Option.map_some, List.length_cons, Except.ok.injEq]
      omega
  | case6 c d rest unquoted unescaped ih =>
    rw [literalEndFrom_of_drop_cons tail, if_neg unescaped, if_neg unquoted,
      ih (i + 1) (drop_succ_of_drop tail)]
    cases Literal.close? (d :: rest) with
    | none => rfl
    | some closed =>
      simp only [Option.map_some, List.length_cons, Except.ok.injEq]
      omega

theorem literalEndAt_eq (text : Text) (start : Nat) :
    literalEndAt text start = (literalEnd text start).mapError .ofNesting := by
  rw [literalEndAt, literalEndFrom_eq, literalEnd]
  cases Literal.close? (text.drop (start + 1)) with
  | none => rfl
  | some closed =>
    have position : start + 1 + closed.1.length + 1 = start + closed.1.length + 2 := by omega
    simp only [position]
    rfl

/-- Past a literal the text goes on with what follows its closing quote. -/
theorem drop_of_close? {rest body after : Text} (tail : text.drop i = Literal.quote :: rest)
    (closed : Literal.close? rest = some (body, after)) :
    text.drop (i + (body.length + 2)) = after := by
  rw [Literal.eq_append_of_close? closed] at tail
  have whole : text.drop i = Literal.quote :: (body ++ [Literal.quote]) ++ after := by simp [tail]
  simpa using drop_add_of_drop whole

theorem lt_of_literalEndAt {start next : Nat} (ended : literalEndAt text start = .ok next) :
    start < next := by
  rw [literalEndAt, literalEndFrom_eq] at ended
  split at ended
  · cases ended
    omega
  · cases ended

/-- The body of a literal from a position on, with its escapes resolved. -/
def unescapedFrom (body : Text) (i : Nat) : Except Mishap Text :=
  if _ : i < body.length then do
    let c ← charAt body i
    if c = Literal.escape ∧ i + 1 < body.length then
      let d ← charAt body (i + 1)
      return d :: (← unescapedFrom body (i + 2))
    else return c :: (← unescapedFrom body (i + 1))
  else return []
termination_by body.length - i

theorem unescapedFrom_eq (body : Text) (i : Nat) :
    unescapedFrom body i = .ok (Literal.unescape (body.drop i)) := by
  generalize tail : body.drop i = rest
  fun_induction Literal.unescape rest generalizing i with
  | case1 =>
    rw [unescapedFrom, dif_neg (List.drop_eq_nil_iff.mp tail).not_gt]
    rfl
  | case2 c =>
    have past := drop_succ_of_drop tail
    have last : ¬ (c = Literal.escape ∧ i + 1 < body.length) :=
      fun both => (List.drop_eq_nil_iff.mp past).not_gt both.2
    rw [unescapedFrom, dif_pos (lt_length_of_drop tail), charAt_of_drop tail, Mishap.ok_bind,
      if_neg last, unescapedFrom, dif_neg (List.drop_eq_nil_iff.mp past).not_gt]
    rfl
  | case3 d rest ih =>
    have next := drop_succ_of_drop tail
    rw [unescapedFrom, dif_pos (lt_length_of_drop tail), charAt_of_drop tail, Mishap.ok_bind,
      if_pos ⟨rfl, lt_length_of_drop next⟩, charAt_of_drop next, Mishap.ok_bind,
      ih (i + 2) (drop_succ_of_drop next)]
    rfl
  | case4 c d rest unescaped ih =>
    rw [unescapedFrom, dif_pos (lt_length_of_drop tail), charAt_of_drop tail, Mishap.ok_bind,
      if_neg fun both => unescaped both.1, ih (i + 1) (drop_succ_of_drop tail)]
    rfl

/-- The position of the closing parenthesis that ends the depth at zero, looked for from a
position inside `depth` parentheses. -/
def closingAt (text : Text) (opening : Nat) (depth : Int) (i : Nat) : Except Mishap Nat :=
  if _ : i < text.length then do
    let c ← charAt text i
    if c = Literal.quote then
      match _ : literalEndAt text i with
      | .error mishap => .error mishap
      | .ok next => closingAt text opening depth next
    else if c = '(' then closingAt text opening (depth + 1) (i + 1)
    else if c = ')' then
      if depth - 1 = 0 then return i else closingAt text opening (depth - 1) (i + 1)
    else closingAt text opening depth (i + 1)
  else .error (.ofNesting (.unbalanced opening))
termination_by text.length - i
decreasing_by
  · have := lt_of_literalEndAt ‹_›
    omega
  all_goals omega

theorem closingAt_of_drop_nil {opening : Nat} {depth : Int} (tail : text.drop i = []) :
    closingAt text opening depth i = .error (.ofNesting (.unbalanced opening)) := by
  have beyond := List.drop_eq_nil_iff.mp tail
  rw [closingAt, dif_neg (by omega)]

theorem closingAt_of_drop_quote {opening : Nat} {depth : Int} {rest : Text}
    (tail : text.drop i = Literal.quote :: rest) :
    closingAt text opening depth i = literalEndAt text i >>= closingAt text opening depth := by
  rw [closingAt, dif_pos (lt_length_of_drop tail), charAt_of_drop tail, Mishap.ok_bind, if_pos rfl]
  split <;> rename_i ended <;> rw [ended] <;> rfl

theorem closingAt_of_drop_cons {opening : Nat} {depth : Int} {c : Char} {rest : Text}
    (unquoted : c ≠ Literal.quote) (tail : text.drop i = c :: rest) :
    closingAt text opening depth i =
      if c = '(' then closingAt text opening (depth + 1) (i + 1)
      else if c = ')' then
        if depth = 1 then .ok i else closingAt text opening (depth - 1) (i + 1)
      else closingAt text opening depth (i + 1) := by
  have bottom : depth - 1 = 0 ↔ depth = 1 := by omega
  rw [closingAt, dif_pos (lt_length_of_drop tail), charAt_of_drop tail, Mishap.ok_bind,
    if_neg unquoted]
  simp only [bottom]
  rfl

theorem closingAt_eq (text : Text) (opening : Nat) (depth : Int) (i : Nat) :
    closingAt text opening depth i =
      (closingFrom opening depth i (pieces (text.drop i))).mapError .ofNesting := by
  generalize tail : text.drop i = rest
  fun_induction pieces rest generalizing depth i with
  | case1 => exact closingAt_of_drop_nil tail
  | case2 rest body after closed ih =>
    rw [closingAt_of_drop_quote tail, literalEndAt_eq, literalEnd, drop_succ_of_drop tail, closed,
      closingFrom_literal]
    exact ih depth _ (drop_of_close? tail closed)
  | case3 rest unclosed =>
    rw [closingAt_of_drop_quote tail, literalEndAt_eq, literalEnd, drop_succ_of_drop tail, unclosed]
    rfl
  | case4 c rest unquoted ih =>
    have later := drop_succ_of_drop tail
    rw [closingAt_of_drop_cons unquoted tail]
    split
    · rename_i opens
      rw [opens, closingFrom_opening]
      exact ih _ _ later
    · rename_i unopened
      split
      · rename_i closes
        rw [closes, closingFrom_closing]
        split
        · rfl
        · exact ih _ _ later
      · rename_i unclosed
        rw [closingFrom_other _ _ _ _ unopened unclosed]
        exact ih _ _ later

/-- The parts of a text between the separators outside its literals and parentheses, looked for from
a position inside `depth` parentheses. The first part starts at `last`. -/
def splitFrom (text : Text) (separator : Char) (depth : Int) (last i : Nat) :
    Except Mishap (List Text) :=
  if _ : i < text.length then do
    let c ← charAt text i
    if c = Literal.quote then
      match _ : literalEndAt text i with
      | .error mishap => .error mishap
      | .ok next => splitFrom text separator depth last next
    else if c = '(' then splitFrom text separator (depth + 1) last (i + 1)
    else if c = ')' then splitFrom text separator (depth - 1) last (i + 1)
    else if c = separator ∧ depth = 0 then
      return strip (text.extract last i) :: (← splitFrom text separator depth (i + 1) (i + 1))
    else splitFrom text separator depth last (i + 1)
  else return [strip (text.drop last)]
termination_by text.length - i
decreasing_by
  · have := lt_of_literalEndAt ‹_›
    omega
  all_goals omega

def splitAt (text : Text) (separator : Char) : Except Mishap (List Text) :=
  splitFrom text separator 0 0 0

section Split

variable {separator : Char} {depth : Int} {last : Nat} {rest : Text}

theorem splitFrom_of_drop_nil (tail : text.drop i = []) :
    splitFrom text separator depth last i = .ok [strip (text.extract last i)] := by
  have beyond := List.drop_eq_nil_iff.mp tail
  have all : (text.drop last).take (i - last) = text.drop last :=
    List.take_of_length_le (by rw [List.length_drop]; omega)
  rw [splitFrom, dif_neg (by omega), List.extract_eq_take_drop, all]
  rfl

theorem splitFrom_of_drop_quote (tail : text.drop i = Literal.quote :: rest) :
    splitFrom text separator depth last i =
      literalEndAt text i >>= splitFrom text separator depth last := by
  rw [splitFrom, dif_pos (lt_length_of_drop tail), charAt_of_drop tail, Mishap.ok_bind, if_pos rfl]
  split <;> rename_i ended <;> rw [ended] <;> rfl

theorem splitFrom_of_drop_cons {c : Char} (unquoted : c ≠ Literal.quote)
    (tail : text.drop i = c :: rest) :
    splitFrom text separator depth last i =
      if c = '(' then splitFrom text separator (depth + 1) last (i + 1)
      else if c = ')' then splitFrom text separator (depth - 1) last (i + 1)
      else if c = separator ∧ depth = 0 then
        (splitFrom text separator depth (i + 1) (i + 1)).map (strip (text.extract last i) :: ·)
      else splitFrom text separator depth last (i + 1) := by
  rw [splitFrom, dif_pos (lt_length_of_drop tail), charAt_of_drop tail, Mishap.ok_bind,
    if_neg unquoted]
  rfl

end Split

/-- The parts that pieces from a position make, inside `depth` parentheses. The first part goes on
with what was read before. -/
def partsFrom (separator : Char) (front : Text) (depth : Int) (position : Nat)
    (pieces : List Piece) : Except NestingFault (List Text) :=
  match unclosedFrom? position pieces with
  | some position => .error (.unterminated position)
  | none =>
    .ok (((runs separator depth pieces).map fun run => run.flatMap Piece.text).modifyHead
      (front ++ ·) |>.map strip)

section Parts

variable {separator : Char} {front : Text} {depth : Int} {position : Nat} {rest : List Piece}

theorem partsFrom_start (separator : Char) (text : Text) :
    partsFrom separator [] 0 0 text.pieces = split separator text := by
  rw [partsFrom, split]
  cases unclosedFrom? 0 text.pieces with
  | some position => rfl
  | none => cases runs separator 0 text.pieces <;> simp

theorem partsFrom_of_kept {piece : Piece} (closed : ∀ body, piece ≠ .unclosed body)
    (kept : ¬ (piece = .outside separator ∧ piece.turn = 0 ∧ depth = 0)) :
    partsFrom separator front depth position (piece :: rest) =
      partsFrom separator (front ++ piece.text) (depth + piece.turn) (position + piece.length)
        rest := by
  have moved : unclosedFrom? position (piece :: rest) =
      unclosedFrom? (position + piece.length) rest := by
    cases piece with
    | unclosed body => exact absurd rfl (closed body)
    | outside | literal => rfl
  have runs_cons : runs separator depth (piece :: rest) =
      (runs separator (depth + piece.turn) rest).modifyHead (piece :: ·) := by
    rw [runs, if_neg kept]
  rw [partsFrom, partsFrom, moved, runs_cons]
  cases runs separator (depth + piece.turn) rest <;> simp

theorem partsFrom_of_separator (flat : (Piece.outside separator).turn = 0) :
    partsFrom separator front 0 position (.outside separator :: rest) =
      (partsFrom separator [] 0 (position + 1) rest).map (strip front :: ·) := by
  have moved : unclosedFrom? position (.outside separator :: rest) =
      unclosedFrom? (position + 1) rest := rfl
  rw [partsFrom, partsFrom, moved, runs, if_pos ⟨rfl, flat, rfl⟩]
  cases unclosedFrom? (position + 1) rest with
  | some position => rfl
  | none => cases runs separator 0 rest <;> simp [Except.map]

end Parts

theorem splitFrom_eq {text : Text} {separator : Char} {depth : Int} {last i : Nat}
    (before : last ≤ i) :
    splitFrom text separator depth last i =
      (partsFrom separator (text.extract last i) depth i (pieces (text.drop i))).mapError
        .ofNesting := by
  generalize tail : text.drop i = rest
  -- what lies between `last` and `i` is the part that is still open
  fun_induction pieces rest generalizing depth last i with
  | case1 =>
    rw [splitFrom_of_drop_nil tail]
    simp [partsFrom, runs, unclosedFrom?, Except.mapError]
  | case2 rest body after closed ih =>
    have whole : text.drop i = (Piece.literal body).text ++ after := by
      rw [tail, Literal.eq_append_of_close? closed]
      simp [Piece.text]
    have size : (Piece.literal body).text.length = body.length + 2 := by simp [Piece.text]
    rw [splitFrom_of_drop_quote tail, literalEndAt_eq, literalEnd, drop_succ_of_drop tail, closed,
      partsFrom_of_kept (by simp) (by simp), ← extract_add_of_drop before whole,
      Piece.length, size]
    have flat : depth + (Piece.literal body).turn = depth := Int.add_zero depth
    rw [flat]
    have beyond : last ≤ i + (body.length + 2) := by omega
    exact ih beyond (drop_of_close? tail closed)
  | case3 rest unclosed =>
    rw [splitFrom_of_drop_quote tail, literalEndAt_eq, literalEnd, drop_succ_of_drop tail, unclosed]
    rfl
  | case4 c rest unquoted ih =>
    have later := drop_succ_of_drop tail
    have whole : text.drop i = [c] ++ rest := tail
    have grown : text.extract last (i + 1) = text.extract last i ++ [c] :=
      extract_add_of_drop before whole
    have after : last ≤ i + 1 := Nat.le_succ_of_le before
    rw [splitFrom_of_drop_cons unquoted tail]
    split
    · rename_i opens
      subst opens
      rw [partsFrom_of_kept (by simp) (by simp [Piece.turn]), ih after later, grown]
      rfl
    · rename_i unopened
      split
      · rename_i closes
        subst closes
        rw [partsFrom_of_kept (by simp) (by simp [Piece.turn]), ih after later, grown]
        rfl
      · rename_i unclosed
        have flat : (Piece.outside c).turn = 0 := by simp [Piece.turn, unopened, unclosed]
        split
        · rename_i separates
          obtain ⟨rfl, rfl⟩ := separates
          have fresh : text.extract (i + 1) (i + 1) = [] := by simp
          rw [partsFrom_of_separator flat, ih le_rfl later, fresh]
          cases partsFrom c [] 0 (i + 1) (pieces rest) <;> rfl
        · rename_i kept
          have kept : ¬ (Piece.outside c = .outside separator ∧ (Piece.outside c).turn = 0 ∧
              depth = 0) := fun both => kept ⟨Piece.outside.inj both.1, both.2.2⟩
          rw [partsFrom_of_kept (by simp) kept, flat, Int.add_zero, ih after later, grown]
          rfl

theorem splitAt_eq (text : Text) (separator : Char) :
    splitAt text separator = (split separator text).mapError .ofNesting := by
  have nothing : text.extract 0 0 = [] := by simp
  rw [splitAt, splitFrom_eq le_rfl, nothing, List.drop_zero, partsFrom_start]

theorem split_of_splitAt {separator : Char} {parts : List Text}
    (done : splitAt text separator = .ok parts) : split separator text = .ok parts := by
  rw [splitAt_eq] at done
  cases cut : split separator text with
  | error fault =>
    rw [cut] at done
    cases done
  | ok found =>
    rw [cut] at done
    cases done
    rfl

/-- Whether a name starts at a position, where a character has to be. -/
def startsNameAt (text : Text) (i : Nat) : Except Mishap Bool := do
  let c ← charAt text i
  if !isNameStart c then return false
  else if i = 0 then return true
  else
    let previous ← charAt text (i - 1)
    return !Name.blocks previous

/-- The name at a position, where one has to be. -/
def nameAt (text : Text) (i : Nat) : Except Mishap Name :=
  match Name.front? (text.drop i) with
  | some name => .ok name
  | none => .error .nameless

/-- The first position from one on without a blank. -/
def blankEnd (text : Text) (i : Nat) : Except Mishap Nat :=
  if _ : i < text.length then do
    let c ← charAt text i
    if isBlank c then blankEnd text (i + 1) else return i
  else return i
termination_by text.length - i

/-- The arguments between the parentheses of a call. -/
def argumentsIn (name : Name) (inner : Text) : Except Mishap (List Text) := do
  let arguments ← if inner.isAllBlank then pure [] else splitAt inner ','
  if arguments.contains [] then .error (.ofCall (.emptyArgument name)) else return arguments

/-- The call at a position, and the position just past it. -/
def callAt (text : Text) (i : Nat) : Except Mishap (Option (Call × Nat)) :=
  match Name.front? (text.drop i) with
  | none => return none
  | some name => do
    let opening ← blankEnd text (i + name.text.length)
    if opening < text.length then
      let c ← charAt text opening
      if c = '(' then
        let closing ← closingAt text opening 0 opening
        let arguments ← argumentsIn name (text.extract (opening + 1) closing)
        return some (⟨name, arguments, text.extract i (closing + 1)⟩, closing + 1)
      else return none
    else return none

theorem startsNameAt_eq {c : Char} {rest : Text} (tail : text.drop i = c :: rest) :
    startsNameAt text i = .ok (Name.startsAfter (text.take i).getLast? (c :: rest)) := by
  rw [startsNameAt, charAt_of_drop tail, Mishap.ok_bind, Name.startsAfter_cons]
  cases start : isNameStart c with
  | false => rfl
  | true =>
    cases i with
    | zero => rfl
    | succ i =>
      have inside := lt_length_of_drop tail
      have before : text.drop i = [text[i]] ++ c :: rest := by
        rw [List.drop_eq_getElem_cons (by omega), tail, List.singleton_append]
      have last : (text.take (i + 1)).getLast? = some text[i] :=
        getLast?_take_of_drop before (List.cons_ne_nil _ _)
      rw [if_neg (by simp), if_neg (by omega), Nat.add_sub_cancel, charAt_of_drop before, last]
      rfl

theorem blankEnd_eq (text : Text) (i : Nat) :
    blankEnd text i = .ok (i + ((text.drop i).takeWhile isBlank).length) := by
  generalize tail : text.drop i = rest
  induction rest generalizing i with
  | nil =>
    have beyond := List.drop_eq_nil_iff.mp tail
    rw [blankEnd, dif_neg (by omega)]
    rfl
  | cons c rest ih =>
    rw [blankEnd, dif_pos (lt_length_of_drop tail), charAt_of_drop tail, Mishap.ok_bind]
    split
    · rename_i blank
      rw [ih _ (drop_succ_of_drop tail), List.takeWhile_cons_of_pos blank, List.length_cons,
        Nat.add_assoc, Nat.add_comm 1]
    · rename_i visible
      rw [List.takeWhile_cons_of_neg visible]
      rfl

theorem argumentsIn_eq (name : Name) (inner : Text) :
    argumentsIn name inner = (Call.argumentsOf name inner).mapError .ofCall := by
  rw [argumentsIn, Call.argumentsOf]
  split
  · rfl
  · rw [splitAt_eq]
    cases split ',' inner with
    | error fault => rfl
    | ok arguments =>
      simp only [Except.mapError, Mishap.ok_bind, List.contains_iff_mem]
      split <;> rfl

/-- Where a name is followed by blanks and a parenthesis, the call is read on from there. -/
theorem callAt_of_opening {name : Name} {blanks inside : Text} {opening : Nat}
    (tail : text.drop i = name.text ++ (blanks ++ '(' :: inside))
    (named : Name.front? (text.drop i) = some name) (blank : blanks.isAllBlank = true)
    (there : i + name.text.length + blanks.length = opening) :
    callAt text i = (do
      let closing ← closingAt text opening 0 opening
      let arguments ← argumentsIn name (text.extract (opening + 1) closing)
      return some (⟨name, arguments, text.extract i (closing + 1)⟩, closing + 1)) := by
  have later := drop_add_of_drop tail
  have opened := drop_add_of_drop later
  rw [there] at opened
  rw [callAt, named]
  simp only [blankEnd_eq, later, takeWhile_isBlank_opening blank, there, Mishap.ok_bind,
    if_pos (lt_length_of_drop opened), charAt_of_drop opened, if_true]

/-- A name with blanks and balanced parentheses behind it is read as a call of its arguments. -/
theorem callAt_of_parentheses {name : Name} {blanks inner after : Text}
    (tail : text.drop i = name.text ++ (blanks ++ '(' :: (inner ++ ')' :: after)))
    (named : Name.front? (text.drop i) = some name) (blank : blanks.isAllBlank = true)
    (balanced : inner.Balanced [] 0) :
    callAt text i = (argumentsIn name inner).map fun arguments =>
      let source := name.text ++ (blanks ++ '(' :: (inner ++ [')']))
      some (⟨name, arguments, source⟩, i + source.length) := by
  generalize there : i + name.text.length + blanks.length = opening
  have opened : text.drop opening = '(' :: (inner ++ ')' :: after) :=
    there ▸ drop_add_of_drop (drop_add_of_drop tail)
  have closed : closingAt text opening 0 opening = .ok (opening + 1 + inner.length) := by
    rw [closingAt_eq, opened, pieces_cons (by decide), closingFrom_opening]
    exact congrArg _ (balanced.closingFrom_eq opening (opening + 1) after)
  have within : text.extract (opening + 1) (opening + 1 + inner.length) = inner := by
    rw [extract_add_of_drop le_rfl (drop_succ_of_drop opened)]
    simp
  generalize whole : name.text ++ (blanks ++ '(' :: (inner ++ [')'])) = source
  have past : opening + 1 + inner.length + 1 = i + source.length := by
    rw [← whole, ← there]
    simp only [List.length_append, List.length_cons, List.length_nil]
    omega
  have shape : text.drop i = source ++ after := by simp [tail, ← whole]
  have verbatim : text.extract i (i + source.length) = source := by
    rw [extract_add_of_drop le_rfl shape]
    simp
  rw [callAt_of_opening tail named blank there, closed, Mishap.ok_bind, within, past,
    verbatim]
  rfl

/-- Without a parenthesis behind a name and blanks, no call is read. -/
theorem callAt_of_unopened {name : Name} {rest : Text} (tail : text.drop i = name.text ++ rest)
    (named : Name.front? (text.drop i) = some name)
    (unopened : (rest.dropWhile isBlank).head? ≠ some '(') : callAt text i = .ok none := by
  have later := drop_add_of_drop tail
  have past : text.drop (i + name.text.length + (rest.takeWhile isBlank).length) =
      rest.dropWhile isBlank := by
    rw [← List.drop_drop, later, drop_length_takeWhile]
  rw [callAt, named]
  simp only [blankEnd_eq, later, Mishap.ok_bind]
  cases next : rest.dropWhile isBlank with
  | nil =>
    rw [next] at past
    rw [if_neg (List.drop_eq_nil_iff.mp past).not_gt]
    rfl
  | cons c inside =>
    rw [next] at past unopened
    have other : c ≠ '(' := fun same => unopened (congrArg some same)
    rw [if_pos (lt_length_of_drop past), charAt_of_drop past, Mishap.ok_bind, if_neg other]
    rfl

theorem callAt_eq (text : Text) (i : Nat) :
    callAt text i =
      ((Call.front? i (text.drop i)).mapError .ofCall).map
        (Option.map fun cut => (cut, i + cut.source.length)) := by
  cases named : Name.front? (text.drop i) with
  | none =>
    rw [callAt, Call.front?, named]
    rfl
  | some name =>
    have whole := Name.text_append_drop_of_front? named
    generalize behind : (text.drop i).drop name.text.length = rest at whole
    by_cases opens : (rest.dropWhile isBlank).head? = some '('
    · obtain ⟨inside, opened⟩ := List.head?_eq_some_iff.mp opens
      have blank : isAllBlank (rest.takeWhile isBlank) = true := List.all_takeWhile
      have split := List.takeWhile_append_dropWhile (p := isBlank) (l := rest)
      generalize rest.takeWhile isBlank = blanks at blank split
      rw [← split, opened] at whole
      generalize there : i + name.text.length + blanks.length = opening
      cases closes : closingFrom opening 0 opening (pieces ('(' :: inside)) with
      | error fault =>
        have failed : Call.front? i (text.drop i) = .error (.nesting fault) := by
          rw [← whole] at named ⊢
          exact Call.front?_of_unclosed named blank there closes
        have later : text.drop opening = '(' :: inside :=
          there ▸ drop_add_of_drop (drop_add_of_drop whole.symm)
        rw [callAt_of_opening whole.symm named blank there, closingAt_eq, later, closes, failed]
        rfl
      | ok closing =>
        rw [pieces_cons (by decide), closingFrom_opening] at closes
        have closes : closingFrom opening ((0 : Nat) + 1) (opening + 1) (pieces inside) =
            .ok closing := closes
        obtain ⟨inner, after, rfl, -, balanced⟩ := exists_balanced_of_closingFrom closes
        rw [callAt_of_parentheses whole.symm named blank balanced, argumentsIn_eq, ← whole,
          Call.front?_append i (whole ▸ named) blank balanced]
        cases Call.argumentsOf name inner <;> rfl
    · have missing : Call.front? i (text.drop i) = .ok none := by
        rw [Call.front?_eq_ok_none_iff, named]
        rintro _ ⟨⟩
        rwa [behind]
      rw [callAt_of_unopened whole.symm named opens, missing]
      rfl

theorem callAt_of_found {found : Option Call} (called : Call.front? i (text.drop i) = .ok found) :
    callAt text i = .ok (found.map fun cut => (cut, i + cut.source.length)) := by
  rw [callAt_eq, called]
  rfl

theorem callAt_of_fault {fault : CallFault} (called : Call.front? i (text.drop i) = .error fault) :
    callAt text i = .error (.ofCall fault) := by
  rw [callAt_eq, called]
  rfl

end Text
end SceneFormula
