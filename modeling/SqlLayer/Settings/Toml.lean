import SqlLayer.Settings.Serial
import SqlLayer.Toml.Reading
import SqlLayer.Toml.Writing

/-!
# Settings in TOML

* `Settings.ofToml?` — the settings of a document;
* `Settings.toToml?` — the document of settings;
* `Settings.survivesToml` — whether reading gives back what was written.
-/

namespace SqlLayer.Settings

/-- The settings of a document. -/
def ofToml? (text : String) : Option Settings := (Toml.read? text).bind deserialize?

/-- The document of settings. -/
def toToml? (s : Settings) : Option String := Toml.write? s.serialize

/-- Whether the document of settings gives the settings back. -/
def survivesToml (s : Settings) : Bool :=
  match s.toToml?.bind ofToml? with
  | some read => read.same s
  | none => false

end SqlLayer.Settings
