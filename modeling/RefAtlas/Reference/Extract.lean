import RefAtlas.Reference.AliasTable
import RefAtlas.Reference.Config
import RefAtlas.Reference.NameSet

/-! # The references of a text

* `directives`: the alias table of a text.
* `applyRule`: the names that one rule finds, together with the longer names that they stand for, go
  into the slot of the rule.
* `classify`: all enabled rules, one after the other.
* `extract`: all of these in one set.
-/

namespace RefAtlas.Reference
set_option autoImplicit false

structure Classified where
  fields : NameSet
  methods : NameSet
  inheritance : NameSet
  instantiations : NameSet
  attributes : NameSet

namespace Classified

def ofRules (names : Rule → NameSet) : Classified where
  fields := names .fields
  methods := names .methods
  inheritance := names .inheritance
  instantiations := names .instantiations
  attributes := names .attributes

def slot (c : Classified) : Rule → NameSet
  | .fields => c.fields
  | .methods => c.methods
  | .inheritance => c.inheritance
  | .instantiations => c.instantiations
  | .attributes => c.attributes

theorem slot_ofRules (names : Rule → NameSet) (rule : Rule) :
    (ofRules names).slot rule = names rule := by cases rule <;> rfl

def empty : Classified := ofRules fun _ => .empty

def record (c : Classified) (rule : Rule) (names : List String) : Classified :=
  match rule with
  | .fields => { c with fields := c.fields.insertAll names }
  | .methods => { c with methods := c.methods.insertAll names }
  | .inheritance => { c with inheritance := c.inheritance.insertAll names }
  | .instantiations => { c with instantiations := c.instantiations.insertAll names }
  | .attributes => { c with attributes := c.attributes.insertAll names }

def references (c : Classified) : NameSet :=
  Rule.all.foldl (fun all rule => all.union (c.slot rule)) .empty

end Classified

def withoutByteOrderMark (cs : List Char) : List Char :=
  match cs with
  | '\ufeff' :: rest => rest
  | cs => cs

/-- Records one directive: an alias if it has one, else an import. -/
def recordDirective (t : AliasTable) (place : Cursor) : AliasTable :=
  match place.piece? 1, place.piece? 2 with
  | some short, some path => t.addAlias (String.ofList short) (String.ofList path)
  | none, some path => t.addImport (String.ofList path)
  | _, none => t

def directives (cs : List Char) : AliasTable :=
  (directivePattern.findAll cs).foldl recordDirective .empty

/-- A name in front of the longer name that it stands for, if that may be a reference. -/
def withExpansion (aliases : AliasTable) (name : String) : List String :=
  match aliases.expand name with
  | some long => if isFiltered long then [name] else [long, name]
  | none => [name]

/-- Puts the names that a rule finds in a text into its slot, unless it is disabled. -/
def applyRule (config : ExtractionConfig) (aliases : AliasTable) (cs : List Char)
    (found : Classified) (rule : Rule) : Classified :=
  if config.isEnabled rule then
    found.record rule ((rule.namesIn cs).flatMap (withExpansion aliases))
  else found

/-- The names that the enabled rules find in a text. -/
def classify (config : ExtractionConfig) (text : List Char) : Classified :=
  let cs := withoutByteOrderMark text
  let aliases := if config.expandAliases then directives cs else .empty
  Rule.all.foldl (applyRule config aliases cs) .empty

def extract (config : ExtractionConfig) (text : List Char) : NameSet :=
  (classify config text).references

end RefAtlas.Reference
