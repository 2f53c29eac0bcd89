import RefAtlas.Command.Options
import RefAtlas.Layout.Plan
import RefAtlas.Number.Reader
import RefAtlas.Text.Natural

/-! # What a command line asks for

* `Request`: the three commands with their options.
* `Invocation`: a command with the options that stand in front of it or behind it alike.
* `Invocation.parse`: reads the arguments of a command line.
-/

namespace RefAtlas.Command
open RefAtlas.Layout RefAtlas.Number
set_option autoImplicit false

/-! ## Options -/

structure GlobalOptions where
  verbose : Bool
  quiet : Bool
  config : Option String
  pretty : Bool
deriving DecidableEq

structure SourceOptions where
  path : Option String
  extensions : List String
  jobs : Option Nat
deriving DecidableEq

structure LayoutOptions (α : Type) where
  source : SourceOptions
  mode : Option Mode
  sizes : Option String
  connectedOnly : Bool
  seed : Option Nat
  padding : Option α

structure BatchOptions where
  nodes : Option Nat
  batchSize : Option Nat
deriving DecidableEq

inductive Request (α : Type) where
  | graph (path : String) (options : SourceOptions)
  | layout (path : String) (options : LayoutOptions α)
  | batch (options : BatchOptions)

structure Invocation (α : Type) where
  options : GlobalOptions
  request : Request α

/-! ## Reading one option -/

/-- Gives an option its value, which may be given once. -/
def once {β : Type} (old new : Option β) : Option (Option β) :=
  match old, new with
  | none, some new => some (some new)
  | _, _ => none

def setFlag (old : Bool) : Option Bool := if old then none else some true

def naturalOf (text : String) : Option Nat := Text.readNatural? text.toList

def pathOf (text : String) : Option String := if text.isEmpty then none else some text

def modeOf (text : String) : Option Mode := (Mode.ofText text).toOption

def lengthOf {α : Type} [Scalar α] (text : String) : Option α :=
  (Numeral.parse? text).map Scalar.ofNumeral

/-! ## Grammars -/

/-- The options of every command, and those of one command. -/
structure Level (τ : Type) where
  shared : GlobalOptions
  own : τ

namespace GlobalOptions

def none : GlobalOptions := ⟨false, false, Option.none, false⟩

def merge (outer inner : GlobalOptions) : GlobalOptions where
  verbose := outer.verbose || inner.verbose
  quiet := outer.quiet || inner.quiet
  config := inner.config <|> outer.config
  pretty := outer.pretty || inner.pretty

def grammar : List (CommandOption GlobalOptions) := [
  ⟨"verbose", some 'v', .flag fun o => (setFlag o.verbose).map fun b => { o with verbose := b }⟩,
  ⟨"quiet", some 'q', .flag fun o => (setFlag o.quiet).map fun b => { o with quiet := b }⟩,
  ⟨"config", Option.none,
    .value fun o s => (once o.config (pathOf s)).map fun c => { o with config := c }⟩,
  ⟨"pretty", Option.none, .flag fun o => (setFlag o.pretty).map fun b => { o with pretty := b }⟩,
  ⟨"help", some 'h', .stop .help⟩]

end GlobalOptions

def CommandOption.within {σ τ : Type} (part : σ → τ) (replace : σ → τ → σ) (o : CommandOption τ) :
    CommandOption σ where
  name := o.name
  letter := o.letter
  action :=
    match o.action with
    | .flag set => .flag fun s => (set (part s)).map (replace s)
    | .value set => .value fun s text => (set (part s) text).map (replace s)
    | .stop stop => .stop stop

def commandGrammar {τ : Type} (options : List (CommandOption τ)) (operand : τ → String → Option τ) :
    Grammar (Level τ) where
  options :=
    GlobalOptions.grammar.map (.within Level.shared fun l o => { l with shared := o }) ++
      options.map (.within Level.own fun l o => { l with own := o })
  operand := fun l text => (operand l.own text).map fun o => { l with own := o }
  commands := []

def noOperand {τ : Type} (_ : τ) (_ : String) : Option τ := none

namespace SourceOptions

def none : SourceOptions := ⟨Option.none, [], Option.none⟩

def grammar : List (CommandOption SourceOptions) := [
  ⟨"extension", some 'e', .value fun o s => some { o with extensions := o.extensions ++ [s] }⟩,
  ⟨"jobs", Option.none,
    .value fun o s => (once o.jobs (naturalOf s)).map fun n => { o with jobs := n }⟩]

def operand (o : SourceOptions) (text : String) : Option SourceOptions :=
  (once o.path (pathOf text)).map fun path => { o with path := path }

end SourceOptions

namespace LayoutOptions
variable {α : Type}

def none : LayoutOptions α :=
  ⟨.none, Option.none, Option.none, false, Option.none, Option.none⟩

def grammar [Scalar α] : List (CommandOption (LayoutOptions α)) :=
  SourceOptions.grammar.map (.within LayoutOptions.source fun l o => { l with source := o }) ++ [
  ⟨"mode", Option.none,
    .value fun o s => (once o.mode (modeOf s)).map fun m => { o with mode := m }⟩,
  ⟨"sizes", Option.none,
    .value fun o s => (once o.sizes (pathOf s)).map fun p => { o with sizes := p }⟩,
  ⟨"connected-only", Option.none,
    .flag fun o => (setFlag o.connectedOnly).map fun b => { o with connectedOnly := b }⟩,
  ⟨"seed", Option.none,
    .value fun o s => (once o.seed (naturalOf s)).map fun n => { o with seed := n }⟩,
  ⟨"padding", Option.none,
    .value fun o s => (once o.padding (lengthOf s)).map fun x => { o with padding := x }⟩]

def operand (o : LayoutOptions α) (text : String) : Option (LayoutOptions α) :=
  (o.source.operand text).map fun source => { o with source := source }

end LayoutOptions

namespace BatchOptions

def none : BatchOptions := ⟨Option.none, Option.none⟩

def grammar : List (CommandOption BatchOptions) := [
  ⟨"nodes", Option.none,
    .value fun o s => (once o.nodes (naturalOf s)).map fun n => { o with nodes := n }⟩,
  ⟨"batch-size", Option.none,
    .value fun o s => (once o.batchSize (naturalOf s)).map fun n => { o with batchSize := n }⟩]

end BatchOptions

/-! ## Command lines -/

def commandNames : List String := ["graph", "layout", "batch"]

def topGrammar : Grammar GlobalOptions where
  options := ⟨"version", some 'V', .stop .version⟩ :: GlobalOptions.grammar
  operand := noOperand
  commands := "help" :: commandNames

def helpStop (arguments : List String) : Stop :=
  match arguments with
  | [] => .help
  | [name] => if topGrammar.commands.contains name then .help else .misused
  | _ => .misused

variable {α : Type}

/-- Reads the arguments behind the name of a command; `make` refuses options that are not complete. -/
def readCommand {τ : Type} (shared : GlobalOptions) (grammar : Grammar (Level τ)) (start : τ)
    (make : τ → Option (Request α)) (arguments : List String) : Except Stop (Invocation α) :=
  match grammar.read ⟨.none, start⟩ arguments with
  | .error stop => .error stop
  | .ok (level, _) =>
    match make level.own with
    | some request => .ok ⟨shared.merge level.shared, request⟩
    | none => .error .misused

def Invocation.parse [Scalar α] (arguments : List String) : Except Stop (Invocation α) :=
  match topGrammar.read .none arguments with
  | .error stop => .error stop
  | .ok (_, none) => .error .misused
  | .ok (shared, some (name, rest)) =>
    match name with
    | "graph" =>
      readCommand shared (commandGrammar SourceOptions.grammar SourceOptions.operand) .none
        (fun o => o.path.map fun path => .graph path o) rest
    | "layout" =>
      readCommand shared (commandGrammar LayoutOptions.grammar LayoutOptions.operand) .none
        (fun o => o.source.path.map fun path => .layout path o) rest
    | "batch" =>
      readCommand shared (commandGrammar BatchOptions.grammar noOperand) .none
        (fun o => some (.batch o)) rest
    | _ => .error (helpStop rest)

end RefAtlas.Command
