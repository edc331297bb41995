import SceneFormula.Text.Quoted

set_option autoImplicit false

namespace SceneFormula

/-- The options that the command line knows. -/
inductive OptionName where
  | help
  | setVariable
  | object
deriving DecidableEq

/-- What the command line asks for. -/
structure Options where
  expressions : List Text
  vars : List Text
  objects : List Text

inductive OptionStop where
  | help
  | misuse (message : Text)

/-- What an argument is, seen by itself. -/
inductive ArgumentRole where
  | plain
  | separator
  | option (name : OptionName) (spelling : Text) (value? : Option Text)
  | unknown

namespace OptionName

def spellings : List (Text × OptionName) :=
  [(Text.lit "-h", help), (Text.lit "--help", help), (Text.lit "--var", setVariable),
    (Text.lit "--object", object)]

def shown : OptionName → Text
  | help => Text.lit "-h/--help"
  | setVariable => Text.lit "--var"
  | object => Text.lit "--object"

def spelled? (spelling : Text) : Option OptionName :=
  (spellings.find? fun entry => entry.1 = spelling).map (·.2)

end OptionName

namespace Options

def cutValue? (text : Text) : Option (Text × Text) :=
  match text.dropWhile (· ≠ '=') with
  | _ :: value => some (text.takeWhile (· ≠ '='), value)
  | [] => none

def isNegativeNumber (text : Text) : Bool :=
  match text with
  | '-' :: rest =>
    match rest.dropWhile Char.isDigit with
    | [] => !rest.isEmpty
    | '.' :: fraction => !fraction.isEmpty && fraction.all Char.isDigit
    | _ => false
  | _ => false

def completions (text : Text) : List (Text × OptionName × Option Text) :=
  match text with
  | '-' :: '-' :: _ =>
    let (front, value?) := match cutValue? text with
      | some (front, value) => (front, some value)
      | none => (text, none)
    (OptionName.spellings.filter fun entry => front.isPrefixOf entry.1).map fun entry =>
      (entry.1, entry.2, value?)
  | '-' :: c :: rest =>
    (OptionName.spellings.filter fun entry => entry.1 = ['-', c]).map fun entry =>
      (entry.1, entry.2, some rest)
  | _ => []

def roleOf (argument : Text) : Except OptionStop ArgumentRole :=
  match argument with
  | '-' :: _ :: _ =>
    match OptionName.spelled? argument with
    | some name => .ok (.option name argument none)
    | none =>
      match (cutValue? argument).bind fun (front, value) =>
          (OptionName.spelled? front).map fun name => (name, front, value) with
      | some (name, front, value) => .ok (.option name front (some value))
      | none =>
        match completions argument with
        | [(spelling, name, value?)] => .ok (.option name spelling value?)
        | [] =>
          if isNegativeNumber argument || ' ' ∈ argument then .ok .plain else .ok .unknown
        | several =>
          .error (.misuse (Text.lit "ambiguous option: " ++ argument ++ Text.lit " could match " ++
            List.intercalate (Text.lit ", ") (several.map (·.1))))
  | _ => .ok .plain

def roles : List Text → Except OptionStop (List (Text × ArgumentRole))
  | [] => .ok []
  | argument :: rest =>
    if argument = ['-', '-'] then
      .ok ((argument, .separator) :: rest.map fun other => (other, .plain))
    else
      match roleOf argument with
      | .error stop => .error stop
      | .ok role => (roles rest).map ((argument, role) :: ·)

/-- What has been read of the arguments, and which of them have no place. -/
structure Reading where
  expressions? : Option (List Text)
  vars : List Text
  objects : List Text
  extra : List Text

def misuse (name : OptionName) (message : Text) : OptionStop :=
  .misuse (Text.lit "argument " ++ name.shown ++ Text.lit ": " ++ message)

def helpWith (spelling value : Text) : OptionStop :=
  let rest := if spelling = Text.lit "-h" then value.dropWhile (· = 'h') else value
  if rest.isEmpty && !value.isEmpty then .help
  else misuse .help (Text.lit "ignored explicit argument " ++ Text.quoted rest)

/-- Plain arguments after one another: the first such sequence is the expressions. -/
def Reading.addPlain (reading : Reading) (arguments : List Text) : Reading :=
  if arguments.isEmpty then reading
  else
    match reading.expressions? with
    | none => { reading with expressions? := some arguments }
    | some _ => { reading with extra := reading.extra ++ arguments }

def Reading.addOption (reading : Reading) (name : OptionName) (value : Text) : Reading :=
  match name with
  | .help => reading
  | .setVariable => { reading with vars := reading.vars ++ [value] }
  | .object => { reading with objects := reading.objects ++ [value] }

/-- Arguments from the last option on: the separator is none of the expressions. -/
def Reading.finish (reading : Reading) (arguments : List (Text × ArgumentRole)) : Reading :=
  let isSeparator (argument : Text × ArgumentRole) : Bool := match argument.2 with
    | .separator => true
    | _ => false
  let values := (arguments.filter fun argument => !isSeparator argument).map (·.1)
  if reading.expressions?.isNone && !values.isEmpty then
    { reading with expressions? := some values }
  else { reading with extra := reading.extra ++ arguments.map (·.1) }

/-- Read arguments; the plain ones since the last option are kept apart. -/
def readFrom (reading : Reading) (waiting : List Text) :
    List (Text × ArgumentRole) → Except OptionStop Reading
  | [] => .ok (reading.finish (waiting.map fun argument => (argument, .plain)))
  | (argument, .plain) :: rest => readFrom reading (waiting ++ [argument]) rest
  | (argument, .separator) :: rest =>
    .ok (reading.finish
      (waiting.map (fun argument => (argument, .plain)) ++ (argument, .separator) :: rest))
  | (argument, .unknown) :: rest =>
    let reading := reading.addPlain waiting
    readFrom { reading with extra := reading.extra ++ [argument] } [] rest
  | (_, .option name spelling value?) :: rest =>
    let reading := reading.addPlain waiting
    match name, value?, rest with
    | .help, none, _ => .error .help
    | .help, some value, _ => .error (helpWith spelling value)
    | name, some value, rest => readFrom (reading.addOption name value) [] rest
    | name, none, (value, .plain) :: rest => readFrom (reading.addOption name value) [] rest
    | name, none, _ => .error (misuse name (Text.lit "expected one argument"))

def ofArguments (arguments : List Text) : Except OptionStop Options :=
  match roles arguments with
  | .error stop => .error stop
  | .ok marked =>
    match readFrom ⟨none, [], [], []⟩ [] marked with
    | .error stop => .error stop
    | .ok reading =>
      match reading.expressions? with
      | none =>
        .error (.misuse (Text.lit "the following arguments are required: expressions"))
      | some expressions =>
        if reading.extra.isEmpty then .ok ⟨expressions, reading.vars, reading.objects⟩
        else
          .error (.misuse (Text.lit "unrecognized arguments: " ++
            List.intercalate [' '] reading.extra))

end Options
end SceneFormula
