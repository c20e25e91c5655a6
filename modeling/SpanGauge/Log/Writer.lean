import SpanGauge.Log.Level
import SpanGauge.Json

/-! Log lines: key and value pairs, or one JSON object a line. -/
namespace SpanGauge.Log
open Text

def needsQuotes (s : Bytes) : Bool :=
  s.isEmpty || (runes s).any fun r =>
    let n := r.char.toNat
    if n < 128 then n ≤ 32 || r.char == '=' || r.char == '"'
    else r.char == replacement || !isPrintable r.char

def field (s : Bytes) : Bytes := if needsQuotes s then quoted s else s

def Value.line : Value → Bytes
  | .text s => field s
  | .int n => decimal n
  | .bool b => Bytes.of (if b then "true" else "false")
  | .list items => field (byte '[' :: Bytes.join [byte ' '] items ++ [byte ']'])

def Value.json : Value → Json
  | .text s => .text s
  | .int n => Json.int n
  | .bool b => .bool b
  | .list items => .list (items.map .text)

def Entry.fields (e : Entry) : List (Bytes × Value) :=
  (Bytes.of "level", .text (Level.label e.level)) :: (Bytes.of "msg", .text e.message) :: e.attrs

def Entry.render (f : Format) (e : Entry) : Bytes :=
  match f with
  | .text =>
    Bytes.join [byte ' '] (e.fields.map fun kv => field kv.1 ++ [byte '='] ++ kv.2.line) ++
      [byte '\n']
  | .json => (Json.object (e.fields.map fun kv => (kv.1, kv.2.json))).compact Json.bare ++ [byte '\n']

structure Logger where
  level : Level
  format : Format
  attrs : List (Bytes × Value) := []
  deriving DecidableEq, Repr

namespace Logger

def ofNames (level format : Bytes) : Except Fault Logger :=
  match Level.parse level with
  | .error f => .error f
  | .ok l =>
    match Format.parse format with
    | .error f => .error f
    | .ok m => .ok ⟨l, m, []⟩

def forRun (l : Logger) (id : Bytes) : Logger :=
  { l with attrs := l.attrs ++ [(Bytes.of "run_id", .text id)] }

def write (l : Logger) (entries : List Entry) : Bytes :=
  (entries.filter fun e => l.level ≤ e.level).flatMap fun e =>
    { e with attrs := l.attrs ++ e.attrs }.render l.format

end Logger

end SpanGauge.Log
