/-! # Arguments of a command line

A `Grammar σ` says which options and operands a command takes and how each of them changes what has
been read, a value of type `σ`; an option that is not allowed to change it makes the arguments
misused.

* `Grammar.read`: reads arguments, up to the name of a subcommand if there are any.
* An option stands as `--name value`, `--name=value`, `-n value`, `-nvalue` or `-n=value`; several
  short flags may share one hyphen. A separate value does not start with a hyphen, a single hyphen
  excepted. Behind `--` there are only operands.
-/

namespace RefAtlas.Command
set_option autoImplicit false

inductive Stop where
  | misused
  | help
  | version
deriving DecidableEq, Repr

inductive Action (σ : Type) where
  | flag (set : σ → Option σ)
  | value (set : σ → String → Option σ)
  | stop (stop : Stop)

structure CommandOption (σ : Type) where
  name : String
  letter : Option Char
  action : Action σ

structure Grammar (σ : Type) where
  options : List (CommandOption σ)
  operand : σ → String → Option σ
  commands : List String

structure Reading (σ : Type) where
  result : σ
  waiting : Option (σ → String → Option σ)
  operandsOnly : Bool

variable {σ : Type}

/-- A result that may be missing because the arguments are misused. -/
def accept (result : Option σ) : Except Stop (Reading σ) :=
  match result with
  | some result => .ok ⟨result, none, false⟩
  | none => .error .misused

namespace Grammar

def takeLong (g : Grammar σ) (result : σ) (body : List Char) : Except Stop (Reading σ) :=
  let (name, rest) := body.span (· != '=')
  match g.options.find? fun o => o.name == String.ofList name with
  | none => .error .misused
  | some option =>
    match option.action, rest with
    | .flag set, [] => accept (set result)
    | .flag _, _ :: _ => .error .misused
    | .value set, [] => .ok ⟨result, some set, false⟩
    | .value set, _ :: value => accept (set result (String.ofList value))
    | .stop stop, [] => .error stop
    | .stop _, _ :: _ => .error .misused

def takeLetters (g : Grammar σ) (result : σ) : List Char → Except Stop (Reading σ)
  | [] => .ok ⟨result, none, false⟩
  | c :: rest =>
    match g.options.find? fun o => o.letter == some c with
    | none => .error .misused
    | some option =>
      match option.action with
      | .stop stop => .error stop
      | .flag set =>
        match set result with
        | some result => takeLetters g result rest
        | none => .error .misused
      | .value set =>
        match rest with
        | [] => .ok ⟨result, some set, false⟩
        | '=' :: value => accept (set result (String.ofList value))
        | value => accept (set result (String.ofList value))

/-- Takes one argument. An option that waits for its value takes no argument that looks like an
option. -/
def take (g : Grammar σ) (r : Reading σ) (argument : String) : Except Stop (Reading σ) :=
  if r.operandsOnly then
    (accept (g.operand r.result argument)).map fun r => { r with operandsOnly := true }
  else
    match argument.toList, r.waiting with
    | ['-'], some set => accept (set r.result argument)
    | ['-'], none => accept (g.operand r.result argument)
    | '-' :: _, some _ => .error .misused
    | ['-', '-'], none => .ok { r with operandsOnly := true }
    | '-' :: '-' :: body, none => g.takeLong r.result body
    | '-' :: letters, none => g.takeLetters r.result letters
    | _, some set => accept (set r.result argument)
    | _, none => accept (g.operand r.result argument)

/-- Reads the rest of the arguments. The answer holds the name of the subcommand and the arguments
behind it, if there is one. -/
def readFrom (g : Grammar σ) (r : Reading σ) :
    List String → Except Stop (σ × Option (String × List String))
  | [] => if r.waiting.isSome then .error .misused else .ok (r.result, none)
  | argument :: rest =>
    if !r.operandsOnly && r.waiting.isNone && g.commands.contains argument then
      .ok (r.result, some (argument, rest))
    else
      match g.take r argument with
      | .ok r => readFrom g r rest
      | .error stop => .error stop

def read (g : Grammar σ) (start : σ) (arguments : List String) :
    Except Stop (σ × Option (String × List String)) :=
  g.readFrom ⟨start, none, false⟩ arguments

end Grammar

end RefAtlas.Command
