import RefAtlas.Data.Decode
import RefAtlas.Reference.Config
import RefAtlas.Reference.NameSet

/-! # Settings of extraction and sets of names as data

* `ExtractionConfig.toValue`, `ExtractionConfig.decode`: a field that is not given has its standard
  value.
* `NameSet.toValue`, `NameSet.decode`: a set is the list of its members.
-/

namespace RefAtlas.Reference
open RefAtlas.Data
set_option autoImplicit false

def Rule.choices : List (String × Rule) := Rule.all.map fun r => (r.name, r)

def Rule.toValue (rule : Rule) : Value := .text rule.name

def Rule.decode (dialect : Dialect) (v : Value) : Except DecodeFault Rule :=
  v.asChoice dialect choices

namespace ExtractionConfig

def fieldNames : List String := ["rules", "expand_aliases", "max_file_size_bytes", "extensions"]

def toValue (config : ExtractionConfig) : Value :=
  .record [
    ("rules", .list (config.rules.map Rule.toValue)),
    ("expand_aliases", .bool config.expandAliases),
    ("max_file_size_bytes", .ofNat config.maxFileSize),
    ("extensions", .ofTexts config.extensions)]

def decode (dialect : Dialect) (v : Value) : Except DecodeFault ExtractionConfig := do
  let fields ← v.asFields dialect fieldNames
  let rules ← optional fields "rules" standard.rules (Value.asList (Rule.decode dialect))
  let expandAliases ← optional fields "expand_aliases" standard.expandAliases Value.asBool
  let maxFileSize ← optional fields "max_file_size_bytes" standard.maxFileSize Value.asNatural
  let extensions ← optional fields "extensions" standard.extensions (Value.asList Value.asText)
  return { rules, expandAliases, maxFileSize, extensions }

end ExtractionConfig

namespace NameSet

def toValue (s : NameSet) : Value := .ofTexts s.names

def decode (v : Value) : Except DecodeFault NameSet := (v.asList Value.asText).map ofList

end NameSet

end RefAtlas.Reference
