import SceneFormula.Formula.Token

set_option autoImplicit false

namespace SceneFormula

inductive BinaryOperator where
  | plus
  | minus
  | times
  | divide
  | floorDivide
  | remainder
  | power
deriving DecidableEq

inductive Lexeme where
  | number (text : Text)
  | name (text : Text)
  | operator (op : BinaryOperator)
  | factorial
  | openParen
  | closeParen
  | comma
deriving DecidableEq

namespace Lexeme

def isPlainBlank (c : Char) : Bool := c = ' ' || c = '\t' || c.toNat = 12

def isLineBreak (c : Char) : Bool := c = '\n' || c = '\r'

/-- Whether a number is written in plain digits, and as a whole number without zeros in front. -/
def isWellWritten (text : Text) : Bool :=
  let plain := text.all fun c => c.toNat < 128
  let whole := text.all Char.isDigit
  plain && (!whole || text.head? != some '0' || text.all (· = '0'))

def starCount : Text → Nat
  | ['*'] => 1
  | ['*', '*'] => 2
  | ['^'] => 2
  | _ => 0

/-- The operators that do not join with their neighbours. -/
def single? : Text → Option Lexeme
  | ['+'] => some (operator .plus)
  | ['-'] => some (operator .minus)
  | ['%'] => some (operator .remainder)
  | ['('] => some openParen
  | [')'] => some closeParen
  | [','] => some comma
  | _ => none

/-- Stars or slashes that stand next to each other. -/
inductive Run where
  | none
  | stars (count : Nat)
  | slashes (count : Nat)

def Run.close? (run : Run) (rest : List Lexeme) : Option (List Lexeme) :=
  match run with
  | none => some rest
  | stars 1 => some (operator .times :: rest)
  | stars 2 => some (operator .power :: rest)
  | slashes 1 => some (operator .divide :: rest)
  | slashes 2 => some (operator .floorDivide :: rest)
  | _ => Option.none

/-- What an exclamation mark may follow. -/
inductive Before where
  | operand
  | name
  | nameAndBlank
  | other

def nestingLimit : Nat := 200

/-- How deep the levels of the lexemes go, read from the last one. A number is a level of its own,
and so is a factorial, whose operand comes after it in this order. `around` holds the depths around
the groups that are open. -/
def nestingFrom (depth marks : Nat) (around : List Nat) : List Lexeme → Nat
  | [] => 0
  | lexeme :: rest =>
    match lexeme with
    | factorial => nestingFrom depth (marks + 1) around rest
    | closeParen =>
      max (depth + marks + 1) (nestingFrom (depth + marks + 1) 0 (depth :: around) rest)
    | openParen => nestingFrom (around.headD 0) 0 (around.drop 1) rest
    | number _ => max (depth + marks + 1) (nestingFrom depth 0 around rest)
    | name _ => max (depth + marks) (nestingFrom depth 0 around rest)
    | operator _ | comma => nestingFrom depth 0 around rest

def nesting (lexemes : List Lexeme) : Nat :=
  nestingFrom 0 0 [] lexemes.reverse

/-- The lexemes of a list of tokens inside `depth` open parentheses, after a run of stars or
slashes. -/
def ofTokensFrom (depth : Nat) (run : Run) (before : Before) :
    List Token → Option (List Lexeme)
  | [] => run.close? []
  | token :: tokens =>
    match token with
    | .blank text =>
      let broken := text.any isLineBreak
      if !(text.all fun c => isPlainBlank c || isLineBreak c) || (broken && depth = 0) then none
      else
        let before := match before, text with
          | .name, [_] => .nameAndBlank
          | _, _ => .other
        if broken then (ofTokensFrom depth .none before tokens).bind run.close?
        else ofTokensFrom depth run before tokens
    | .number text =>
      if isWellWritten text then
        ((ofTokensFrom depth .none .operand tokens).map (number text :: ·)).bind run.close?
      else none
    | .name text =>
      ((ofTokensFrom depth .none .name tokens).map (name text :: ·)).bind run.close?
    | .operator ['!'] =>
      match before with
      | .other => none
      | _ => ((ofTokensFrom depth .none .other tokens).map (factorial :: ·)).bind run.close?
    | .operator ['/'] =>
      match run with
      | .slashes n => ofTokensFrom depth (.slashes (n + 1)) .other tokens
      | run => (ofTokensFrom depth (.slashes 1) .other tokens).bind run.close?
    | .operator text =>
      match single? text with
      | some lexeme =>
        let depth := match lexeme with
          | openParen => depth + 1
          | closeParen => depth - 1
          | _ => depth
        let before := match lexeme with
          | closeParen => .operand
          | _ => .other
        ((ofTokensFrom depth .none before tokens).map (lexeme :: ·)).bind run.close?
      | none =>
        match run with
        | .stars n => ofTokensFrom depth (.stars (n + starCount text)) .other tokens
        | run => (ofTokensFrom depth (.stars (starCount text)) .other tokens).bind run.close?

def trimBlanks (tokens : List Token) : List Token :=
  let isBlankToken (t : Token) : Bool := match t with
    | .blank _ => true
    | _ => false
  ((tokens.dropWhile isBlankToken).reverse.dropWhile isBlankToken).reverse

def ofTokens? (tokens : List Token) : Option (List Lexeme) :=
  (ofTokensFrom 0 .none .other (trimBlanks tokens)).filter fun lexemes =>
    nesting lexemes ≤ nestingLimit

end Lexeme
end SceneFormula
