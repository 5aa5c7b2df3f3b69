import LastGood.Json
import LastGood.Log

/-!
# Lines of a log

A record is written on one line, either as JSON or in words. In JSON the message is the
first of the fields; in words the fields follow the message, each as its name, an equals
sign and its value. No line says when the record was made.
-/

namespace LastGood

/-- The value of a field in JSON. -/
def FieldValue.toJson : FieldValue → Json
  | .text value => Json.ofString value
  | .nat value => Json.ofNat value
  | .bool value => .bool () value

/-- The value of a field in words. -/
def FieldValue.words : FieldValue → String
  | .text value => value
  | .nat value => toString value
  | .bool value => if value then "true" else "false"

namespace LogRecord

/-- A record as a JSON value. -/
def toJson (record : LogRecord) : Json :=
  Json.object [("level", Json.ofString record.level.name),
    ("fields", Json.object (("message", Json.ofString record.message) ::
      record.fields.map fun (name, value) => (name, value.toJson))),
    ("target", Json.ofString record.target)]

/-- A record on one line of JSON. -/
def jsonLine (record : LogRecord) : String := Json.compact record.toJson

/-- A record on one line in words. The levels are set flush right. -/
def wordLine (record : LogRecord) : String :=
  let level := record.level.name
  String.ofList (List.replicate (5 - level.length) ' ') ++ level ++ " " ++ record.target ++ ": " ++
    record.message ++
    String.join (record.fields.map fun (name, value) => " " ++ name ++ "=" ++ value.words)

end LogRecord

end LastGood
