import SceneFormula.Event
import SceneFormula.Decimal.Reading

set_option autoImplicit false

namespace SceneFormula

inductive LogFormat where
  | console
  | json
deriving DecidableEq

/-- The settings of the program. -/
structure Settings where
  backend : Text
  autoAssign : Bool
  firstId : Int
  /-- The seed of random numbers; without one they differ from run to run. -/
  seed? : Option Int
  logLevel : Level
  logFormat : LogFormat
  one_le_firstId : 1 ≤ firstId

/-- A value that a setting is given. -/
inductive SettingValue where
  | text (t : Text)
  | integer (n : Int)
  | fraction
  | flag (b : Bool)
  | nothing
  | other

inductive SettingProblem where
  | notAnInteger
  | integerKind
  | integerFraction
  | notAFlag
  | flagKind
  | notAChoice
  | tooSmall
  | textKind
deriving DecidableEq

namespace SettingProblem

def word : SettingProblem → Text
  | notAnInteger => Text.lit "int_parsing"
  | integerKind => Text.lit "int_type"
  | integerFraction => Text.lit "int_from_float"
  | notAFlag => Text.lit "bool_parsing"
  | flagKind => Text.lit "bool_type"
  | notAChoice => Text.lit "literal_error"
  | tooSmall => Text.lit "greater_than_equal"
  | textKind => Text.lit "string_type"

end SettingProblem

/-- A setting with a value that it cannot have. -/
structure SettingFault where
  setting : Text
  problem : SettingProblem

namespace SettingFault

def word (fault : SettingFault) : Text :=
  fault.setting ++ ':' :: fault.problem.word

end SettingFault

namespace SettingValue

/-- A text without the zeros at its front, if it starts with a digit or a minus sign. A last zero
stays, as does one before a point. -/
def dropZeros? : Text → Option Text
  | [] => none
  | c :: rest =>
    if c = '0' then
      match rest.dropWhile fun d => d = '0' || d = '_' with
      | [] => some [(c :: rest).getLast (List.cons_ne_nil c rest)]
      | d :: more =>
        if d.isDigit then some (d :: more)
        else if d = '.' then some ('0' :: d :: more)
        else none
    else if c.isDigit || c = '-' then some (c :: rest)
    else none

def dropFraction (text : Text) : Text :=
  match text.dropWhile (· ≠ '.') with
  | _ :: decimals =>
    if decimals.all (· = '0') then text.takeWhile (· ≠ '.') else text
  | [] => text

/-- Whether underscores stand only between other characters. -/
def hasLooseUnderscore : Text → Bool
  | [] => false
  | ['_'] => true
  | '_' :: '_' :: _ => true
  | _ :: rest => hasLooseUnderscore rest

/-- Digits with an optional minus sign. -/
def readDigits? (text : Text) : Option Int :=
  let (negative, digits) := match text with
    | '-' :: digits => (true, digits)
    | digits => (false, digits)
  if digits.isEmpty || !digits.all Char.isDigit then none
  else
    let value : Int := Decimal.digitsValue digits
    some (if negative then -value else value)

/-- The integer that a text stands for: blanks around it, a sign, zeros at its front, a fraction
of zeros and underscores between digits are allowed. -/
def readInteger? (text : Text) : Option Int :=
  let inner :=
    ((text.dropWhile Decimal.isNumberBlank).reverse.dropWhile Decimal.isNumberBlank).reverse
  let unsigned := match inner with
    | '+' :: rest => if rest.head? = some '-' then [] else rest
    | rest => rest
  (dropZeros? unsigned).bind fun digits =>
    let whole := dropFraction digits
    if whole.head? = some '_' || hasLooseUnderscore whole then none
    else readDigits? (whole.filter (· ≠ '_'))

def toInteger : SettingValue → Except SettingProblem Int
  | text t => match readInteger? t with
    | some n => .ok n
    | none => .error .notAnInteger
  | integer n => .ok n
  | fraction => .error .integerFraction
  | flag b => .ok (if b then 1 else 0)
  | nothing | other => .error .integerKind

/-- A value as an integer, or none where there is none. -/
def toOptionalInteger : SettingValue → Except SettingProblem (Option Int)
  | nothing => .ok none
  | value => value.toInteger.map some

def toFlag : SettingValue → Except SettingProblem Bool
  | text t =>
    let word := String.ofList (t.map Char.toLower)
    if word ∈ ["1", "on", "t", "true", "y", "yes"] then .ok true
    else if word ∈ ["0", "off", "f", "false", "n", "no"] then .ok false
    else .error .notAFlag
  | integer n => if n = 1 then .ok true else if n = 0 then .ok false else .error .notAFlag
  | flag b => .ok b
  | fraction | nothing | other => .error .flagKind

def toText : SettingValue → Except SettingProblem Text
  | text t => .ok t
  | integer _ | fraction | flag _ | nothing | other => .error .textKind

/-- A value as one of several choices. -/
def toChoice {α : Type} (named? : Text → Option α) : SettingValue → Except SettingProblem α
  | text t => match named? t with
    | some choice => .ok choice
    | none => .error .notAChoice
  | integer _ | fraction | flag _ | nothing | other => .error .notAChoice

end SettingValue

namespace LogFormat

def named? (t : Text) : Option LogFormat :=
  if t = Text.lit "console" then some console
  else if t = Text.lit "json" then some json
  else none

def word : LogFormat → Text
  | console => Text.lit "console"
  | json => Text.lit "json"

end LogFormat

namespace Settings

def environmentPrefix : Text := Text.lit "gamexpr_"

/-- The value given for a setting: the environment's names may be in capitals. -/
def value? (environment : List (Text × Text)) (given : List (Text × SettingValue))
    (setting : Text) : Option SettingValue :=
  match given.reverse.find? fun entry => entry.1 = setting with
  | some entry => some entry.2
  | none =>
    (environment.reverse.find? fun entry =>
      entry.1.map Char.toLower = environmentPrefix ++ setting).map fun entry => .text entry.2

def field {α : Type} (environment : List (Text × Text)) (given : List (Text × SettingValue))
    (setting : String) (default : α) (read : SettingValue → Except SettingProblem α) :
    α × List SettingFault :=
  let setting := Text.lit setting
  match value? environment given setting with
  | none => (default, [])
  | some value =>
    match read value with
    | .ok x => (x, [])
    | .error problem => (default, [⟨setting, problem⟩])

def positive (value : SettingValue) : Except SettingProblem { n : Int // 1 ≤ n } :=
  match value.toInteger with
  | .error problem => .error problem
  | .ok n => if h : 1 ≤ n then .ok ⟨n, h⟩ else .error .tooSmall

/-- The settings, or the faults of all values that cannot be had, by the settings' names. -/
def read (environment : List (Text × Text)) (given : List (Text × SettingValue)) :
    Except (List SettingFault) Settings :=
  let (autoAssign, first) :=
    field environment given "auto_assign_object_ids" true SettingValue.toFlag
  let (firstId, second) :=
    field environment given "first_object_id" ⟨1, Int.le_refl 1⟩ positive
  let (logLevel, third) :=
    field environment given "log_level" Level.info (SettingValue.toChoice Level.named?)
  let (logFormat, fourth) :=
    field environment given "log_renderer" LogFormat.console
      (SettingValue.toChoice LogFormat.named?)
  let (backend, fifth) :=
    field environment given "math_modules" (Text.lit "math") SettingValue.toText
  let (seed?, sixth) :=
    field environment given "random_seed" none SettingValue.toOptionalInteger
  let faults := first ++ second ++ third ++ fourth ++ fifth ++ sixth
  if faults.isEmpty then
    .ok ⟨backend, autoAssign, firstId.1, seed?, logLevel, logFormat, firstId.2⟩
  else .error faults

end Settings
end SceneFormula
