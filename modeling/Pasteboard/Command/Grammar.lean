import Pasteboard.Text.Letter
import Pasteboard.Text.Numeral
/-!
Command lines: their grammar, and reading arguments by it.

A command has options, positional arguments and commands below it. An option is a flag or takes one
value, after an equals sign or as the next argument; it may be given once. Two hyphens alone make
all that follows positional. A value is read only when the next argument has been looked at, so of
two faults the one that shows in the shape of the line goes before the one in a value.
-/

namespace Pasteboard.Command

open Pasteboard.Text

/-! ### Grammars -/

/-- What a value may be. -/
inductive ValueKind
  | text
  /-- A text that is not empty. -/
  | place
  | number (range : Numeral.Range)
  deriving DecidableEq, Repr

/-- A value that was read. -/
inductive Value
  | text (s : String)
  | number (n : Int)
  deriving DecidableEq, Repr

/-- An option: a flag, or with a value of some kind. -/
structure OptionRule where
  name : String
  value : Option ValueKind := none
  deriving DecidableEq, Repr

/-- A positional argument. -/
structure PositionRule where
  name : String
  kind : ValueKind := .text
  required : Bool := true
  deriving DecidableEq, Repr

/-- What the arguments of a command may be. -/
inductive Grammar
  | mk (options : List OptionRule) (positions : List PositionRule) (versioned : Bool)
      (commands : List (String × Grammar))

namespace Grammar

/-- The options. -/
def options : Grammar → List OptionRule
  | mk options _ _ _ => options

/-- The positional arguments. -/
def positions : Grammar → List PositionRule
  | mk _ positions _ _ => positions

/-- Whether the version can be asked for. -/
def versioned : Grammar → Bool
  | mk _ _ versioned _ => versioned

/-- The commands below. -/
def commands : Grammar → List (String × Grammar)
  | mk _ _ _ commands => commands

/-- A command with options and positional arguments. -/
def leaf (options : List OptionRule) (positions : List PositionRule) : Grammar :=
  mk options positions false []

/-- A command that only leads to others. -/
def group (commands : List (String × Grammar)) : Grammar :=
  mk [] [] false commands

/-- A command that only leads to others must be followed by one of them. -/
def mustContinue (g : Grammar) : Bool :=
  g.options.isEmpty && !g.commands.isEmpty

end Grammar

/-! ### Faults -/

/-- Why arguments are not as the grammar says, or what is shown instead of a run. -/
inductive UsageFault
  | invalidValue
  | unknownArgument
  | invalidSubcommand
  | valueValidation
  | tooManyValues
  | argumentConflict
  | missingArgument
  | help
  | helpOnMissing
  | version
  deriving DecidableEq, Repr

/-- The name of a fault. -/
def UsageFault.name : UsageFault → String
  | .invalidValue => "InvalidValue"
  | .unknownArgument => "UnknownArgument"
  | .invalidSubcommand => "InvalidSubcommand"
  | .valueValidation => "ValueValidation"
  | .tooManyValues => "TooManyValues"
  | .argumentConflict => "ArgumentConflict"
  | .missingArgument => "MissingRequiredArgument"
  | .help => "DisplayHelp"
  | .helpOnMissing => "DisplayHelpOnMissingArgumentOrSubcommand"
  | .version => "DisplayVersion"

/-! ### Reading -/

/-- Reads a number of a range. Where the range has no number beyond 64 bits with a sign, any numeral
of those is read, so that minus zero is a number too. -/
def readNumber? (range : Numeral.Range) (raw : String) : Option Int :=
  let wide := if range.high ≤ Numeral.int64.high then Numeral.int64 else range
  (Numeral.read? wide raw).filter range.holds

/-- Reads a value. -/
def ValueKind.read (kind : ValueKind) (raw : String) : Except UsageFault Value :=
  match kind with
  | .text => .ok (.text raw)
  | .place => if raw.isEmpty then .error .invalidValue else .ok (.text raw)
  | .number range =>
    match readNumber? range raw with
    | some n => .ok (.number n)
    | none => .error .valueValidation

/-- An argument that was seen and whose value is not read yet. -/
structure Pending where
  name : String
  kind : ValueKind
  raw : Option String
  deriving DecidableEq, Repr

/-- How far the arguments of one command are read. -/
structure Reading where
  /-- Flags, and the values of options and positional arguments, by name. -/
  taken : List (String × Option Value) := []
  pending : Option Pending := none
  /-- How many positional arguments were seen. -/
  placed : Nat := 0
  /-- Only positional arguments follow. -/
  positionalOnly : Bool := false
  deriving DecidableEq, Repr

namespace Reading

/-- Whether an option was taken. -/
def has (r : Reading) (name : String) : Bool :=
  r.taken.any (·.1 == name)

/-- Takes an option or an argument, which may be taken once. -/
def take (r : Reading) (name : String) (value : Option (ValueKind × String)) :
    Except UsageFault Reading := do
  if r.has name then throw .argumentConflict
  let value ← match value with
    | some (kind, raw) => some <$> kind.read raw
    | none => pure none
  return { r with taken := r.taken ++ [(name, value)] }

/-- Reads the pending value. -/
def settle (r : Reading) : Except UsageFault Reading :=
  match r.pending with
  | none => .ok r
  | some ⟨_, _, none⟩ => .error .invalidValue
  | some ⟨name, kind, some raw⟩ => { r with pending := none }.take name (some (kind, raw))

/-- Whether the next argument is the value of an option. -/
def awaits (r : Reading) : Bool :=
  match r.pending with
  | some ⟨_, _, none⟩ => true
  | _ => false

/-- An argument that stands for itself: the awaited value, or the next positional argument. -/
def place (g : Grammar) (r : Reading) (arg : String) : Except UsageFault Reading :=
  match g.positions[r.placed]? with
  | some rule => do
    let r ← r.settle
    return { r with pending := some ⟨rule.name, rule.kind, some arg⟩, placed := r.placed + 1 }
  | none =>
    if g.commands.isEmpty then .error .unknownArgument
    else if r.positionalOnly && (arg == "help" || (g.commands.lookup arg).isSome) then
      .error .unknownArgument
    else .error .invalidSubcommand

/-- An option by its name, with the value after its equals sign. -/
def long (g : Grammar) (r : Reading) (name : String) (attached : Option String) :
    Except UsageFault Reading := do
  let isHelp := name == "help"
  if isHelp || (g.versioned && name == "version") then
    if attached.isSome then throw .tooManyValues
    let _ ← r.settle
    throw (if isHelp then .help else .version)
  match g.options.find? (·.name == name), attached with
  | none, _ => throw .unknownArgument
  | some ⟨_, none⟩, some _ => throw .tooManyValues
  | some ⟨_, none⟩, none => (← r.settle).take name none
  | some ⟨_, some kind⟩, some raw => (← r.settle).take name (some (kind, raw))
  | some ⟨_, some kind⟩, none => return { ← r.settle with pending := some ⟨name, kind, none⟩ }

/-- An argument behind a single hyphen. -/
def short (g : Grammar) (r : Reading) (letters : List Char) : Except UsageFault Reading := do
  match letters with
  | 'h' :: _ => let _ ← r.settle; throw .help
  | 'V' :: _ => if g.versioned then let _ ← r.settle; throw .version else throw .unknownArgument
  | _ => throw .unknownArgument

/-- Reads one argument that is no command. -/
def step (g : Grammar) (r : Reading) (arg : String) : Except UsageFault Reading :=
  if r.positionalOnly then place g r arg
  else
    match arg.toList with
    | ['-', '-'] => .ok { r with positionalOnly := true }
    | '-' :: '-' :: cs =>
      match splitAt? '=' cs with
      | some (name, value) => long g r (String.ofList name) (some (String.ofList value))
      | none => long g r (String.ofList cs) none
    | '-' :: c :: cs => short g r (c :: cs)
    | _ =>
      match r.pending with
      | some ⟨name, kind, none⟩ => .ok { r with pending := some ⟨name, kind, some arg⟩ }
      | _ => place g r arg

end Reading

/-- The arguments of a command, and those of the command below it. -/
inductive Matched
  | mk (taken : List (String × Option Value)) (command : Option (String × Matched))

namespace Matched

/-- What was taken. -/
def taken : Matched → List (String × Option Value)
  | mk taken _ => taken

/-- The command below. -/
def command : Matched → Option (String × Matched)
  | mk _ command => command

/-- Whether a flag was given. -/
def flag (m : Matched) (name : String) : Bool :=
  m.taken.any (·.1 == name)

/-- The text of an argument. -/
def text? (m : Matched) (name : String) : Option String :=
  match m.taken.lookup name with
  | some (some (.text s)) => some s
  | _ => none

/-- The number of an argument. -/
def number? (m : Matched) (name : String) : Option Int :=
  match m.taken.lookup name with
  | some (some (.number n)) => some n
  | _ => none

end Matched

/-- What follows the word `help`: the names of commands, each below the one before. -/
def helpOn (g : Grammar) : List String → UsageFault
  | [] => .help
  | name :: rest =>
    match g.commands.lookup name with
    | some sub => helpOn sub rest
    | none =>
      if name == "help" && !g.commands.isEmpty && rest.isEmpty then .help else .invalidSubcommand

/-- The arguments are at their end, or a command below was read. -/
def finish (g : Grammar) (r : Reading) (command : Option (String × Matched)) :
    Except UsageFault Matched := do
  let r ← r.settle
  if g.mustContinue && command.isNone then throw .helpOnMissing
  if g.positions.any fun rule => rule.required && !r.has rule.name then throw .missingArgument
  return .mk r.taken command

/-- The command below that an argument names, where one may be named. -/
def commandAt? (g : Grammar) (r : Reading) (arg : String) : Option Grammar :=
  if r.positionalOnly || r.awaits then none else g.commands.lookup arg

/-- Whether an argument asks for help, where a command may be named. -/
def asksHelp (g : Grammar) (r : Reading) (arg : String) : Bool :=
  !r.positionalOnly && !r.awaits && !g.commands.isEmpty && arg == "help"

/-- Reads the rest of the arguments of a command. -/
def readFrom (g : Grammar) (r : Reading) : List String → Except UsageFault Matched
  | [] => finish g r none
  | arg :: rest =>
    match commandAt? g r arg with
    | some sub =>
      match readFrom sub {} rest with
      | .ok m => finish g r (some (arg, m))
      | .error fault => .error fault
    | none =>
      if asksHelp g r arg then .error (helpOn g rest)
      else
        match r.step g arg with
        | .ok r => readFrom g r rest
        | .error fault => .error fault

/-- Reads the arguments of a command. -/
def Grammar.read (g : Grammar) (args : List String) : Except UsageFault Matched :=
  readFrom g {} args

end Pasteboard.Command
