import SpanGauge.Log
import SpanGauge.Text.Quoted
import SpanGauge.Text.Blank
import SpanGauge.Text.Case

/-! Names of log levels and formats. -/
namespace SpanGauge.Log

inductive Format where
  | text
  | json
  deriving DecidableEq, Repr

inductive Fault where
  | unknownLevel (name : Bytes)
  | unknownFormat (name : Bytes)
  deriving DecidableEq, Repr

def Fault.message : Fault → Bytes
  | .unknownLevel name =>
    Bytes.of "unknown log level " ++ Text.quoted name ++
      Bytes.of " (supported: debug, info, warn, error)"
  | .unknownFormat name =>
    Bytes.of "unknown log format " ++ Text.quoted name ++ Bytes.of " (supported: text, json)"

def folded (s : Bytes) : Bytes := Text.lower (Text.trim s)

def Level.parse (name : Bytes) : Except Fault Level :=
  let s := folded name
  if s == Bytes.of "debug" then .ok debug
  else if s.isEmpty || s == Bytes.of "info" then .ok info
  else if s == Bytes.of "warn" || s == Bytes.of "warning" then .ok warn
  else if s == Bytes.of "error" then .ok error
  else .error (.unknownLevel name)

def Format.parse (name : Bytes) : Except Fault Format :=
  let s := folded name
  if s.isEmpty || s == Bytes.of "text" then .ok .text
  else if s == Bytes.of "json" then .ok .json
  else .error (.unknownFormat name)

def Level.offset (name : String) (d : Int) : Bytes :=
  if d = 0 then Bytes.of name
  else Bytes.of name ++ (if 0 < d then [byte '+'] else []) ++ decimal d

/-- The name of a level: the next named level below it and the distance from it. -/
def Level.label (l : Level) : Bytes :=
  if l < info then offset "DEBUG" (l - debug)
  else if l < warn then offset "INFO" (l - info)
  else if l < error then offset "WARN" (l - warn)
  else offset "ERROR" (l - error)

end SpanGauge.Log
