import SceneFormula.Settings
import SceneFormula.Text.Quoted

set_option autoImplicit false

namespace SceneFormula

namespace LogLine

/-- A character inside the quotes of a data format that knows plain characters only. -/
def jsonChar (c : Char) : Text :=
  if c = '"' ∨ c = '\\' then ['\\', c]
  else if c = '\n' then ['\\', 'n']
  else if c = '\r' then ['\\', 'r']
  else if c = '\t' then ['\\', 't']
  else if c.toNat = 8 then ['\\', 'b']
  else if c.toNat = 12 then ['\\', 'f']
  else if 32 ≤ c.toNat && c.toNat < 127 then [c]
  else if c.toNat < 0x10000 then '\\' :: 'u' :: hexDigits 4 c.toNat
  else
    let offset := c.toNat - 0x10000
    '\\' :: 'u' :: hexDigits 4 (0xd800 + offset / 1024) ++
      '\\' :: 'u' :: hexDigits 4 (0xdc00 + offset % 1024)

def jsonText (t : Text) : Text :=
  '"' :: (t.flatMap jsonChar ++ ['"'])

def jsonField : Field → Text
  | .text t => jsonText t
  | .number n => intText n
  | .flag b => Text.lit (if b then "true" else "false")

def json (event : Event) : Text :=
  let fields := event.fields ++ [("event", .text event.name), ("level", .text event.level.word)]
  let items := fields.map fun (key, value) =>
    jsonText (Text.lit key) ++ ':' :: ' ' :: jsonField value
  '\x7b' :: (List.intercalate [',', ' '] items ++ ['\x7d'])

def plainField : Field → Text
  | .text t => t.quoted
  | .number n => intText n
  | .flag b => Text.lit (if b then "True" else "False")

/-- An event for a reader: its level, its name and its fields. -/
def plain (event : Event) : Text :=
  let items := event.fields.map fun (key, value) => Text.lit key ++ '=' :: plainField value
  '[' :: event.level.word ++ ']' :: ' ' :: event.name ++ items.flatMap (' ' :: ·)

end LogLine

/-- An event as a line of the log. -/
def Event.line (format : LogFormat) (event : Event) : Text :=
  match format with
  | .json => LogLine.json event
  | .console => LogLine.plain event

end SceneFormula
