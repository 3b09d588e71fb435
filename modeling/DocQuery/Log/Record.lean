/-
**Log records and their lines.**

* `LogRecord`: a message with what is known about its origin;
* `LogRecord.redacted`: the record without secrets in its message;
* `LogRecord.line`: the line that is written for a record, as text or as a JSON object.
-/

import DocQuery.Json.Printer
import DocQuery.Log.Level
import DocQuery.Log.Redaction
import DocQuery.Log.Template
import DocQuery.Time.Clock

namespace DocQuery

/-- How lines are written. -/
inductive LogFormat where
  | text
  | json
deriving DecidableEq, Repr

/-- A message with what is known about its origin. -/
structure LogRecord where
  /-- When the record was made, in seconds since the beginning of 1970. -/
  created : Binary64
  level : Level
  logger : String
  /-- The message, which is a template for the arguments if there are any. -/
  message : Json
  arguments : List Json := []
  /-- What the message is about. -/
  context : Option Json := none
  /-- The activity that the record belongs to, if it is not empty. -/
  activity : Json := .null

/-- Why no line can be written. -/
inductive LineError where
  | template (cause : TemplateError)
  | clock (cause : ClockError)
deriving DecidableEq, Repr

namespace LogRecord

/-- A message without secrets. Only texts can hold any. -/
def redactMessage : Json → Json
  | .string text => .string (redactText text)
  | message => message

/-- The record without secrets in its message. -/
def redacted (record : LogRecord) : LogRecord :=
  { record with message := redactMessage record.message }

/-- The message with its arguments. -/
def filledMessage (record : LogRecord) : Except LineError String :=
  (fillTemplate record.message.plain record.arguments).mapError .template

/-- The fields of a line that is a JSON object. -/
def fields (record : LogRecord) (instant : Instant) (message : String) : Fields :=
  [("timestamp", .string instant.isoText), ("level", .string record.level.name),
    ("module", .string record.logger), ("message", .string message)] ++
    (if record.activity.isEmptyLike then [] else [("activity_id", record.activity)]) ++
    (record.context.map fun context => ("context", context)).toList

/-- A line that is not a JSON object, with the text of the time. -/
def plainLine (record : LogRecord) (time message : String) : String :=
  time ++ " [" ++ record.level.name ++ "] " ++ record.logger ++ ": " ++ message

/-- The line for a record. -/
def line (record : LogRecord) : LogFormat → Except LineError String
  | .json => do
    let instant ← (clockInstant record.created).mapError .clock
    return (Json.object (record.fields instant (← record.filledMessage))).spaced
  | .text => do
    let message ← record.filledMessage
    return record.plainLine (← (clockText record.created).mapError .clock) message

end LogRecord

end DocQuery
