import RefAtlas.Reference.Rule
import RefAtlas.Text.Quoted

/-! # Settings of extraction and scanning

* `ExtractionConfig`: which rules apply, whether short names are expanded, and which files count
  as units.
* `ExtractionConfig.validate`: the settings that make sense; `ConfigFault` lists what can be wrong
  with the others.
-/

namespace RefAtlas.Reference
set_option autoImplicit false

structure ExtractionConfig where
  rules : List Rule
  /-- Whether short names are expanded through the directives of their unit. -/
  expandAliases : Bool
  maxFileSize : Nat
  extensions : List String
deriving DecidableEq

namespace ExtractionConfig

def standard : ExtractionConfig := ⟨Rule.all, true, 1048576, ["cs"]⟩

instance : Inhabited ExtractionConfig := ⟨standard⟩

def fieldsOnly : ExtractionConfig := { standard with rules := [.fields], expandAliases := false }

def isEnabled (config : ExtractionConfig) (rule : Rule) : Bool := config.rules.contains rule

end ExtractionConfig

inductive ConfigFault where
  | zeroFileSize
  | emptyExtension
  | dottedExtension (extension : String)
deriving DecidableEq

def ConfigFault.message : ConfigFault → String
  | zeroFileSize => "max_file_size_bytes must be > 0"
  | emptyExtension => "extensions must not contain empty entries"
  | dottedExtension ext =>
    "extension " ++ Text.quoted ext ++ " must be given without the leading dot"

def ExtractionConfig.validate (config : ExtractionConfig) : Except ConfigFault Unit :=
  if config.maxFileSize == 0 then .error .zeroFileSize
  else if config.extensions.any fun ext => (Text.trim ext.toList).isEmpty then
    .error .emptyExtension
  else match config.extensions.find? fun ext => ext.toList.head? == some '.' with
    | some ext => .error (.dottedExtension ext)
    | none => .ok ()

end RefAtlas.Reference
