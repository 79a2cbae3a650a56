/-
Module: JumptotechLabs.Observability.Logger
Layer: Observability (the log)
Purpose: The structured logger: which fields a line carries, in which order they are set, how an error is
  serialised, and what is handed to the sink when a line cannot be serialised or is too long.
Main exports: LogLevel, RequestContext, LoggerOptions, Logger, LogCall, allowedFields, serialiseError,
  lineEntries, build, emit
-/
import JumptotechLabs.Observability.Redact

namespace JumptotechLabs.Observability

open JumptotechLabs.Core

inductive LogLevel where
  | debug
  | info
  | warn
  | error
deriving DecidableEq

/-- `LEVEL_RANK`. -/
def LogLevel.rank : LogLevel → Nat
  | .debug => 10
  | .info => 20
  | .warn => 30
  | .error => 40

def LogLevel.text : LogLevel → String
  | .debug => "debug"
  | .info => "info"
  | .warn => "warn"
  | .error => "error"

/-- The ambient context. -/
structure RequestContext where
  requestId : Utf16
  userId : Option Utf16 := none
  sessionId : Option Utf16 := none
  attemptId : Option Utf16 := none
  labId : Option Utf16 := none
  track : Option Utf16 := none
  provider : Option Utf16 := none
  route : Option Utf16 := none
  method : Option Utf16 := none
deriving DecidableEq

/-- The facts of the context that are there, a text that is not empty, under their field names. -/
def RequestContext.facts (context : RequestContext) : List (String × Utf16) :=
  [("requestId", some context.requestId), ("userId", context.userId),
    ("sessionId", context.sessionId), ("attemptId", context.attemptId), ("labId", context.labId),
    ("track", context.track), ("provider", context.provider), ("route", context.route),
    ("method", context.method)].filterMap fun (name, fact) =>
      fact.bind fun text => if text = [] then none else some (name, text)

/-- `ALLOWED_FIELDS`. -/
def allowedFields : List String :=
  ["requestId", "userId", "sessionId", "attemptId", "labId", "track", "provider", "implementation",
    "sandboxKind", "sandboxRef", "step", "op", "scope", "endpoint", "requirementType", "denyReason",
    "operation", "migrationVersion", "outcome", "reason", "result", "code", "status", "count",
    "durationMs", "route", "method", "securityEvent", "authorizationResult", "action", "accessState",
    "accessPolicy", "planId", "eventRef", "err", "service", "version", "commit", "port", "store",
    "authMode", "labsLoaded", "durable"]

/-- `ALLOWED.has(key)`. -/
def isAllowed (key : Utf16) : Bool := allowedFields.any fun name => units name == key

/-- Where a line goes is left to the caller; the clock is asked for each line. -/
structure LoggerOptions where
  service : Utf16
  level : LogLevel := .info
  maxLineBytes : Nat := 8192

/-- A logger, with the fields that are bound to it. -/
structure Logger where
  options : LoggerOptions
  bound : List (Utf16 × LogValue)

def createLogger (options : LoggerOptions) : Logger := ⟨options, []⟩

/-- `child(extra)`: an extra field takes the place of a bound one. -/
def Logger.child (logger : Logger) (extra : List (Utf16 × LogValue)) : Logger :=
  { logger with bound := Keyed.putAll Prod.fst (logger.bound ++ extra) }

/-- One call of a logger, with what is around it: the clock's text and the ambient context. -/
structure LogCall where
  level : LogLevel
  event : Utf16
  fields : List (Utf16 × LogValue) := []
  msg : Option Utf16 := none
  ts : Utf16
  context : Option RequestContext := none

section Texts

variable (numbers : NumberText)

mutual

/-- `String(value)`, and nothing where it throws. -/
def LogValue.toText : LogValue → Option Utf16
  | .undefined => some (units "undefined")
  | .null => some (units "null")
  | .boolean value => some (units (if value then "true" else "false"))
  | .number value => some (units (numbers.format value))
  | .string text => some text
  | .error value => value.coerced
  | .array items => (itemTexts items).map fun texts => [unitOf ','].intercalate texts
  | .object coerced _ => coerced
  | .symbol description => some (units "Symbol(" ++ description ++ units ")")
  | .other text => some text

/-- The texts an array joins: nothing for `null` and `undefined`. A symbol among them throws. -/
def LogValue.itemTexts : List LogValue → Option (List Utf16)
  | [] => some []
  | .undefined :: rest => (itemTexts rest).map ([] :: ·)
  | .null :: rest => (itemTexts rest).map ([] :: ·)
  | .symbol _ :: _ => none
  | item :: rest => item.toText.bind fun text => (itemTexts rest).map (text :: ·)

end

variable (literalSecrets : List Utf16)

/-- `serialiseError`, and nothing where the coercion to a text throws. -/
def serialiseError : LogValue → Option Document
  | .error error =>
      let code := match error.code with
        | .none => none
        | .text code => some code
        | .number code => some (units (numbers.format code))
      some (errorObject error.name.document (redactString literalSecrets error.message) code)
  | .string text =>
      some (errorObject (.string (units "Error")) (redactString literalSecrets text) none)
  | value =>
      (value.toText numbers).map fun text =>
        errorObject (.string (units "Error")) (redactString literalSecrets text) none

/-- One field as the line carries it. -/
def fieldDocument (key : Utf16) (value : LogValue) : Option Document :=
  if key = units "err" then serialiseError numbers literalSecrets value
  else some (redactValue literalSecrets 0 value)

/-- Is the field copied to the line? -/
def isCopied (key : Utf16) (value : LogValue) : Bool :=
  isAllowed key && match value with
    | .undefined => false
    | _ => true

/-- What the fields of a source set on the line. -/
def fieldEntries : List (Utf16 × LogValue) → Option (List (Utf16 × Document))
  | [] => some []
  | (key, value) :: rest =>
      if isCopied key value then
        (fieldDocument numbers literalSecrets key value).bind fun document =>
          (fieldEntries rest).map ((key, document) :: ·)
      else fieldEntries rest

/-- What every line starts with. -/
def ownEntries (service : Utf16) (call : LogCall) : List (Utf16 × Document) :=
  [(units "ts", .string call.ts), (units "level", .string (units call.level.text)),
    (units "service", .string service), (units "event", .string call.event)]

/-- What is set on the line, in order: the message, the ambient context, the bound fields, and the
    fields of the call. -/
def lineEntries (logger : Logger) (call : LogCall) : Option (List (Utf16 × Document)) :=
  let msg := match call.msg with
    | none => []
    | some msg => [(units "msg", Document.string (redactString literalSecrets msg))]
  let context := match call.context with
    | none => []
    | some context => context.facts.map fun fact => (units fact.1, Document.string fact.2)
  (fieldEntries numbers literalSecrets logger.bound).bind fun bound =>
    (fieldEntries numbers literalSecrets call.fields).map fun fields =>
      ownEntries logger.options.service call ++ msg ++ context ++ bound ++ fields

/-- What stands for the fields of a line that cannot be serialised. -/
def droppedNote : Utf16 := units "[unserialisable fields dropped]"

/-- The line without its fields. -/
def droppedLine (service : Utf16) (call : LogCall) : Document :=
  .object (ownEntries service call ++ [(units "msg", .string droppedNote)])

/-- The line that says no more than that it was cut. -/
def bareLine (service : Utf16) (call : LogCall) : Document :=
  .object (ownEntries service call ++ [(units "truncated", .boolean true)])

/-- A text over 512 units, cut. -/
def cutText (text : Utf16) : Utf16 :=
  if 512 < text.length then text.take 512 ++ units "…[truncated]" else text

def cutValue : Document → Document
  | .string text => .string (cutText text)
  | value => value

/-- The line with its long texts cut. -/
def trimmedLine (entries : List (Utf16 × Document)) : Document :=
  .object (Keyed.put Prod.fst (units "truncated", .boolean true)
    ((Document.assigned entries).map fun entry => (entry.1, cutValue entry.2)))

/-- The text the line is given up for where it cannot be serialised. -/
def serialisedLine (service : Utf16) (call : LogCall) (entries : List (Utf16 × Document)) : Utf16 :=
  ((Document.assign entries).stringify numbers).getD ((droppedLine service call).write numbers)

/-- `build` from what is set on the line. -/
def buildFrom (options : LoggerOptions) (call : LogCall) (entries : List (Utf16 × Document)) :
    Utf16 :=
  let serialised := serialisedLine numbers options.service call entries
  if serialised.byteLength ≤ options.maxLineBytes then serialised
  else
    match (trimmedLine entries).stringify numbers with
    | some out =>
        if out.byteLength ≤ options.maxLineBytes then out
        else (bareLine options.service call).write numbers
    | none => (bareLine options.service call).write numbers

/-- `build`, and nothing where it throws. -/
def build (logger : Logger) (call : LogCall) : Option Utf16 :=
  (lineEntries numbers literalSecrets logger call).map (buildFrom numbers logger.options call)

/-- What is handed to the sink. -/
def emit (logger : Logger) (call : LogCall) : Option Utf16 :=
  if call.level.rank < logger.options.level.rank then none
  else build numbers literalSecrets logger call

end Texts

end JumptotechLabs.Observability
