import PhaseScript.Datum.Text
import PhaseScript.Text.Encoding
import PhaseScript.Json.Writer
/-
The JSON-safe form of a datum: a JSON value with finite numbers only. What JSON has no form for becomes text.
-/
set_option autoImplicit false

namespace PhaseScript.Datum

mutual

/-- The JSON-safe form. -/
def jsonSafe : Datum → Json
  | .none => .null
  | .bool b => .bool b
  | .int n => .int n
  | .float x => if x.isFinite then .float x else .null
  | .text t => .string t
  | .date d => .string d.isoText
  | .moment m => .string (m.isoText "T")
  | .clock t => .string t.isoText
  | .duration d => .float d.totalSeconds
  | .decimal d =>
    if !d.isFinite then .null
    else match d.integer? with
      | some n => .int n
      | Option.none => .float d.toBinary64
  | .uuid n => .string (uuidText n)
  | .bytes b => .string (Utf8.decodeLossy b)
  | .list items | .tuple items => .array (jsonSafeAll items)
  | .week year number weekday => .array [.int year, .int number, .int weekday]
  | .set _ items =>
    .array (((textsAndForms items).mergeSort fun a b => Text.le a.1 b.1).map (·.2))
  | .dict entries => .object (jsonSafeEntries entries [])
  | d => .string (plain d)

def jsonSafeAll : List Datum → List Json
  | [] => []
  | item :: items => jsonSafe item :: jsonSafeAll items

/-- The plain texts of data beside their forms. -/
def textsAndForms : List Datum → List (Text × Json)
  | [] => []
  | item :: items => (plain item, jsonSafe item) :: textsAndForms items

/-- Members are named by the plain texts of the keys; the last of several with one text counts. -/
def jsonSafeEntries : List (Datum × Datum) → List (Text × Json) → List (Text × Json)
  | [], members => members
  | (key, value) :: entries, members =>
    jsonSafeEntries entries (Json.put (plain key) (jsonSafe value) members)

end

/-- The compact JSON-safe text of a datum, or why there is none. -/
def dumps (d : Datum) : Except Json.WriteFault Text :=
  if d.hasHugeInt then .error .tooManyDigits else Json.write .spaced true d.jsonSafe

/-- The JSON-safe text of a datum for another service, in which the infinities have words. -/
def wireText (d : Datum) : Except Json.WriteFault Text :=
  if d.hasHugeInt then .error .tooManyDigits else Json.write .spaced false d.jsonSafe

end PhaseScript.Datum
