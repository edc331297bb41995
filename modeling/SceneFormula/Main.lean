import SceneFormula.CommandLine.LogLine
import SceneFormula.CommandLine.Transcript
import SceneFormula.Formula.Standard

set_option autoImplicit false

namespace SceneFormula

/-- The environment variables of all settings. -/
def settingVariables : List String :=
  ["GAMEXPR_AUTO_ASSIGN_OBJECT_IDS", "GAMEXPR_FIRST_OBJECT_ID", "GAMEXPR_LOG_LEVEL",
    "GAMEXPR_LOG_RENDERER", "GAMEXPR_MATH_MODULES", "GAMEXPR_RANDOM_SEED"]

/-- The message about what ends a run before its time. -/
def RunStop.message : RunStop → Text
  | settings faults => List.intercalate ['\n'] (faults.map SettingFault.word)
  | placement => Text.lit "the place of an object is no number"
  | breakdown name => name
  | evaluation fault => fault.message?.getD (Text.lit "the value cannot be computed")

end SceneFormula

open SceneFormula in
def main (arguments : List String) : IO UInt32 := do
  let found ← settingVariables.filterMapM fun name => do
    return (← IO.getEnv name).map fun value => (name.toList, value.toList)
  let entropy ← IO.rand 0 (Nat.pow 2 62)
  let transcript :=
    Transcript.ofArguments FormulaEngine.ofModules (arguments.map String.toList) found entropy
  for output in transcript.outputs do
    match output with
    | .result line => IO.println (String.ofList line)
    | .complaint line => IO.eprintln (String.ofList line)
    | .log event => IO.eprintln (String.ofList (event.line transcript.format))
  match transcript.ending with
  | .code n => return UInt32.ofNat n
  | .stopped cause =>
    IO.eprintln (String.ofList cause.message)
    return 1
