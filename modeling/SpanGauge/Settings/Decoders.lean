import SpanGauge.Settings.Load
import SpanGauge.Json.Data
import SpanGauge.Yaml.Reader
import SpanGauge.Toml.Reader
import SpanGauge.Dotenv.Reader

/-! What reads the formats of files with settings. -/
namespace SpanGauge.Settings.Decoders

/-- All formats, where variables may bring in those of an environment. -/
def standard (e : Environment) : Decoders :=
  ⟨Yaml.entries?, Json.entries?, Toml.entries?, Dotenv.entries? e⟩

def jsonOnly : Decoders := ⟨fun _ => none, Json.entries?, fun _ => none, fun _ => none⟩

end SpanGauge.Settings.Decoders
