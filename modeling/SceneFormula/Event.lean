import SceneFormula.Decimal.Layout

set_option autoImplicit false

namespace SceneFormula

/-- How much an event matters. -/
inductive Level where
  | debug
  | info
  | warning
  | error
deriving DecidableEq

namespace Level

def all : List Level := [debug, info, warning, error]

def word : Level → Text
  | debug => Text.lit "debug"
  | info => Text.lit "info"
  | warning => Text.lit "warning"
  | error => Text.lit "error"

def named? (text : Text) : Option Level :=
  all.find? fun level => level.word = text

/-- Levels in order of how much they matter. -/
def rank : Level → Nat
  | debug => 0
  | info => 1
  | warning => 2
  | error => 3

end Level

/-- Something that happened in a scene. -/
inductive Event where
  | functionRegistered (name returns : Text) (arity : Nat) (isMember : Bool)
  | functionUnregistered (name : Text)
  | functionNotFound (name : Text)
  | libraryRegistered (numbers texts version : Nat)
  | identifierAssigned (name : Text) (oid : Int)
  | objectCreated (scene name : Text) (oid : Int)
  | formulaCompiled (source : Text) (slotCount : Nat)
  | formulaPrepared (expression : Text) (bindings : Nat)
  | textPrepared (expression : Text)
  | preparationFailed (expression formulaFault textFault : Text)
  | batchPrepared (total failed : Nat)

/-- The value of an event's field. -/
inductive Field where
  | text (t : Text)
  | number (n : Int)
  | flag (b : Bool)

namespace Event

def level : Event → Level
  | libraryRegistered .. | batchPrepared .. => .info
  | functionNotFound .. | preparationFailed .. => .warning
  | _ => .debug

def name : Event → Text
  | functionRegistered .. => Text.lit "function_registered"
  | functionUnregistered .. => Text.lit "function_unregistered"
  | functionNotFound .. => Text.lit "function_unregister_failed"
  | libraryRegistered .. => Text.lit "builtins_registered"
  | identifierAssigned .. => Text.lit "object_identifier_assigned"
  | objectCreated .. => Text.lit "object_created"
  | formulaCompiled .. => Text.lit "math_expression_compiled"
  | formulaPrepared .. | textPrepared .. => Text.lit "expression_preprocessed"
  | preparationFailed .. => Text.lit "expression_preprocess_failed"
  | batchPrepared .. => Text.lit "expressions_preprocessed"

def fields : Event → List (String × Field)
  | functionRegistered name returns arity isMember =>
    [("function_name", .text name), ("returns", .text returns), ("arity", .number arity),
      ("object_function", .flag isMember)]
  | functionUnregistered name => [("function_name", .text name)]
  | functionNotFound name =>
    [("function_name", .text name), ("reason", .text (Text.lit "not_found"))]
  | libraryRegistered numbers texts version =>
    [("number_functions", .number numbers), ("text_functions", .number texts),
      ("registry_version", .number version)]
  | identifierAssigned name oid => [("object_name", .text name), ("oid", .number oid)]
  | objectCreated scene name oid =>
    [("scene", .text scene), ("object_name", .text name), ("oid", .number oid)]
  | formulaCompiled source slotCount =>
    [("source", .text source), ("slot_count", .number slotCount)]
  | formulaPrepared expression bindings =>
    [("expression", .text expression), ("kind", .text (Text.lit "math")),
      ("parameter_count", .number bindings)]
  | textPrepared expression =>
    [("expression", .text expression), ("kind", .text (Text.lit "text"))]
  | preparationFailed expression formulaFault textFault =>
    [("expression", .text expression), ("math_error", .text formulaFault),
      ("text_error", .text textFault)]
  | batchPrepared total failed => [("total", .number total), ("failed", .number failed)]

end Event
end SceneFormula
