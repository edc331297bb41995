import SceneFormula.Formula.Lexeme

set_option autoImplicit false

namespace SceneFormula

/-- A formula as it is written. -/
inductive Tree where
  | number (text : Text)
  | name (text : Text)
  | positive (operand : Tree)
  | negative (operand : Tree)
  | binary (op : BinaryOperator) (left right : Tree)
  | factorial (operand : Tree)
  | call (function : Tree) (arguments : List Tree)
  | tuple (items : List Tree)
  | spread (operand : Tree)

namespace Tree

/-- How tightly an operator binds; a sign binds tighter than a product, looser than a power. -/
def binding : BinaryOperator → Nat
  | .plus | .minus => 1
  | .times | .divide | .floorDivide | .remainder => 2
  | .power => 4

def signBinding : Nat := 3

/-- An operator whose right operand is not read yet. -/
inductive Pending where
  | positive
  | negative
  | binary (op : BinaryOperator) (left : Tree)

def Pending.binding : Pending → Nat
  | positive | negative => signBinding
  | binary op _ => Tree.binding op

def Pending.complete (x : Tree) : Pending → Tree
  | positive => .positive x
  | negative => .negative x
  | binary op left => .binary op left x

/-- The pending operators, innermost first, that are left after those that bind at least as
tightly as `limit` took the operand, and the operand they became. -/
def reduce (limit : Nat) (x : Tree) : List Pending → Tree × List Pending
  | [] => (x, [])
  | p :: rest => if limit ≤ p.binding then reduce limit (p.complete x) rest else (x, p :: rest)

/-- What an operand ends in: a name, which may be the function of a call; something that an
exclamation mark may follow, such as a number, a group, or the call of a name; or neither. -/
inductive Ending where
  | name
  | closed
  | other
deriving DecidableEq

/-- An expression that is being read: operators that wait for an operand, and the operand read
after them. -/
structure Level where
  pending : List Pending
  operand : Option Tree
  ending : Ending
  spread : Bool

def Level.empty : Level := ⟨[], none, .other, false⟩

def Level.finish? (level : Level) : Option Tree :=
  level.operand.map fun x =>
    let whole := (reduce 0 x level.pending).1
    if level.spread then .spread whole else whole

def Level.isEmpty (level : Level) : Bool :=
  level.pending.isEmpty && level.operand.isNone && !level.spread

/-- The expression and the items, in reverse, that stand before it between the same parentheses. -/
structure Items where
  read : List Tree
  current : Level

def Items.empty : Items := ⟨[], .empty⟩

def Items.finish? (items : Items) : Option (List Tree × Bool) :=
  if items.current.isEmpty then some (items.read.reverse, !items.read.isEmpty)
  else items.current.finish?.map fun x => ((x :: items.read).reverse, !items.read.isEmpty)

/-- The state of reading: the items between the innermost parentheses, and those around them, each
up to the parenthesis that opens the next. -/
structure State where
  inner : Items
  outer : List Items

def State.start : State := ⟨.empty, []⟩

def grouped? : List Tree → Bool → Option Tree
  | [.spread _], false => none
  | [x], false => some x
  | xs, _ => some (.tuple xs)

def State.close? (state : State) : Option State :=
  match state.outer with
  | [] => none
  | around :: outer =>
    state.inner.finish?.bind fun (xs, comma) =>
      let level := around.current
      match level.operand with
      | some f =>
        let ending : Ending := if level.ending = .name then .closed else .other
        some ⟨{ around with current := { level with operand := some (.call f xs), ending } }, outer⟩
      | none =>
        (grouped? xs comma).map fun x =>
          ⟨{ around with current := { level with operand := some x, ending := .closed } }, outer⟩

/-- Read an operator into an expression. `inside` says that it stands in parentheses, where a star
may spread an item. -/
def Level.operator? (inside : Bool) (op : BinaryOperator) (level : Level) : Option Level :=
  match level.operand with
  | some x =>
    let (left, pending) := match op with
      | .power => (x, level.pending)
      | op => reduce (binding op) x level.pending
    some { level with pending := .binary op left :: pending, operand := none }
  | none =>
    match op with
    | .plus => some { level with pending := .positive :: level.pending }
    | .minus => some { level with pending := .negative :: level.pending }
    | .times => if inside && level.isEmpty then some { level with spread := true } else none
    | _ => none

def State.step? (state : State) (lexeme : Lexeme) : Option State :=
  let level := state.inner.current
  let with' (level : Level) : State := { state with inner := { state.inner with current := level } }
  match lexeme with
  | .number text =>
    if level.operand.isSome then none
    else some (with' { level with operand := some (.number text), ending := .closed })
  | .name text =>
    if level.operand.isSome then none
    else some (with' { level with operand := some (.name text), ending := .name })
  | .operator op => (level.operator? (!state.outer.isEmpty) op).map with'
  | .factorial =>
    match level.operand with
    | some x =>
      if level.ending = .other then none
      else some (with' { level with operand := some (.factorial x), ending := .other })
    | none => none
  | .openParen => some ⟨.empty, state.inner :: state.outer⟩
  | .closeParen => state.close?
  | .comma => level.finish?.map fun x =>
      { state with inner := ⟨x :: state.inner.read, .empty⟩ }

def State.run? : State → List Lexeme → Option State
  | state, [] => some state
  | state, lexeme :: rest => (state.step? lexeme).bind fun next => next.run? rest

def ofLexemes? (lexemes : List Lexeme) : Option Tree :=
  (State.start.run? lexemes).bind fun state =>
    if state.outer.isEmpty then
      state.inner.finish?.bind fun (xs, comma) =>
        if xs.isEmpty then none else grouped? xs comma
    else none

def ofTokens? (tokens : List Token) : Option Tree :=
  (Lexeme.ofTokens? tokens).bind ofLexemes?

end Tree
end SceneFormula
