import RefAtlas.Data.Json.Reader
import RefAtlas.Data.Toml.Reader
import RefAtlas.Layout.Data
import RefAtlas.Reference.Data

/-! # Settings files and files of sizes

* `Settings`: what a settings file may say. It has two sections and no other names beside them.
* `Settings.ofText`: reads a settings file, which is written in TOML.
* `sizesOfText`: reads a file of measured sizes, which is written in JSON.
-/

namespace RefAtlas.Command
open RefAtlas.Data RefAtlas.Layout RefAtlas.Number RefAtlas.Reference
set_option autoImplicit false

variable {α : Type} [Scalar α]

structure Settings (α : Type) where
  extraction : ExtractionConfig
  layout : LayoutConfig α

namespace Settings

def standard : Settings α := ⟨.standard, .standard⟩

def sectionNames : List String := ["extractor", "layout"]

/-- Reads settings. Names that are no sections are refused. -/
def decode (dialect : Dialect) (v : Value) : Except DecodeFault (Settings α) := do
  match v.fields.find? fun f => !sectionNames.contains f.1 with
  | some f => .error (.unknownName f.1)
  | none =>
    let fields ← v.asFields dialect sectionNames
    let extraction ← optional fields "extractor" .standard (ExtractionConfig.decode dialect)
    let layout ← optional fields "layout" .standard (LayoutConfig.decode dialect)
    return { extraction, layout }

def ofText (text : String) : Option (Settings α) :=
  (Toml.read? text).bind fun v => (decode .settings v).toOption

end Settings

/-- Reads a file of sizes. The last size of a repeated id counts. -/
def sizesOfText (text : String) : Option (Dictionary (Size α)) :=
  (Json.read? text).bind fun v => (Dictionary.decode (Size.decode .json) v).toOption

end RefAtlas.Command
