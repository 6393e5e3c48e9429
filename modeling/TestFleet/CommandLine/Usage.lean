/-!
# Arguments of a command line

A command line is a list of words. Words that begin with two dashes name options, whose values are
attached with an equals sign or are the next word; a dash and a letter do the same in short. Two
dashes alone make operands of all that follows. Other words name a subcommand or are operands.

The value of an option that is a word of its own is looked at only when the next option or operand
comes, or the words end; an attached one is looked at where it stands. So of two faults on one line
the order of the words alone does not say which is told.
-/

namespace TestFleet

/-- Why a command line is not carried out. -/
inductive UsageFault where
  /-- There is nothing on the line. -/
  | nothingGiven
  | helpAsked
  | versionAsked
  /-- A value is not of its option's kind. -/
  | badValue
  /-- A value is missing, or is none of those that there are. -/
  | invalidValue
  | repeated
  /-- A value is attached to an option that takes none. -/
  | needlessValue
  | unknownArgument
  | unknownSubcommand
  | missingArgument
  | missingSubcommand
  deriving DecidableEq, Repr

/-- The explanation shown to a user. -/
def UsageFault.message : UsageFault → String
  | nothingGiven => "a subcommand is required"
  | helpAsked => "help was asked for"
  | versionAsked => "the version was asked for"
  | badValue => "invalid value for an option"
  | invalidValue => "a value is missing or is none of the possible ones"
  | repeated => "an option cannot be used more than once"
  | needlessValue => "an option takes no value"
  | unknownArgument => "unexpected argument"
  | unknownSubcommand => "unrecognized subcommand"
  | missingArgument => "a required argument was not given"
  | missingSubcommand => "a subcommand is required"

/-- What an option does with settings of kind `α`. -/
inductive OptionKind (α : Type) where
  | flag (setting : α)
  | value (read : String → Except UsageFault α)
  | help
  | version

/-- An option. -/
structure CommandOption (α : Type) where
  long : String
  short : Option Char := none
  kind : OptionKind α

/-- What operands a command takes. -/
inductive Operands where
  | none
  | one
  /-- Any number of them, behind two dashes. -/
  | trailing
  deriving DecidableEq

/-- What may stand on a command line. -/
structure Usage (α : Type) where
  options : List (CommandOption α)
  operands : Operands := .none
  subcommands : List String := []

/-- What was read off a command line. -/
structure Given (α : Type) where
  /-- The settings, each with the long name of its option. -/
  settings : List (String × α) := []
  /-- The option whose value is yet to come, or to be looked at. -/
  pending : Option (CommandOption α × Option String) := none
  operands : List String := []

namespace Given

variable {α : Type}

/-- Adds a setting, unless its option has one. -/
def add (g : Given α) (o : CommandOption α) (setting : Except UsageFault α) :
    Except UsageFault (Given α) :=
  if g.settings.any fun s => s.1 == o.long then .error .repeated
  else setting.map fun a => { g with settings := g.settings ++ [(o.long, a)] }

/-- Adds a value to the settings. -/
def addValue (g : Given α) (o : CommandOption α) (v : String) : Except UsageFault (Given α) :=
  match o.kind with
  | .value read => g.add o (read v)
  | _ => .error .needlessValue

/-- Looks at the value of the pending option. -/
def settle (g : Given α) : Except UsageFault (Given α) :=
  match g.pending with
  | none => .ok g
  | some (_, none) => .error .invalidValue
  | some (o, some v) => { g with pending := none }.addValue o v

/-- Whether the next word is the value of an option. -/
def isAwaiting (g : Given α) : Bool :=
  match g.pending with
  | some (_, none) => true
  | _ => false

/-- Takes an option with the value attached to it, if there is one. -/
def takeOption (g : Given α) (o : CommandOption α) (attached : Option String) :
    Except UsageFault (Given α) :=
  match o.kind, attached with
  | .value _, some v => do (← g.settle).addValue o v
  | .value _, none => do
    let g ← g.settle
    .ok { g with pending := some (o, none) }
  | _, some _ => .error .needlessValue
  | .flag setting, none => do (← g.settle).add o (.ok setting)
  | .help, none => do
    let _ ← g.settle
    .error .helpAsked
  | .version, none => do
    let _ ← g.settle
    .error .versionAsked

end Given

namespace Usage

variable {α : Type}

/-- Cuts a word that begins with two dashes into the name of an option and the value attached. -/
def long? (word : String) : Option (String × Option String) :=
  match word.toList with
  | '-' :: '-' :: cs =>
    let (name, rest) := cs.span (· != '=')
    some (String.ofList name, match rest with
      | [] => none
      | _ :: v => some (String.ofList v))
  | _ => none

/-- The letters of a word that begins with one dash. -/
def short? (word : String) : Option (List Char) :=
  match word.toList with
  | '-' :: c :: cs => if c = '-' then none else some (c :: cs)
  | _ => none

/-- Takes options of one letter each. Behind the letter of an option that takes a value stands the
value, if anything does. -/
def takeShorts (u : Usage α) (g : Given α) : List Char → Except UsageFault (Given α)
  | [] => .ok g
  | c :: cs =>
    match u.options.find? fun o => o.short == some c with
    | none => .error .unknownArgument
    | some o =>
      match o.kind with
      | .value _ =>
        g.takeOption o <| match cs with
          | [] => none
          | '=' :: v => some (String.ofList v)
          | v => some (String.ofList v)
      | _ => do u.takeShorts (← g.takeOption o none) cs

/-- Takes a word that is no option; `behind` tells whether it stands behind two dashes. -/
def takeOperand (u : Usage α) (g : Given α) (behind : Bool) (word : String) :
    Except UsageFault (Given α) :=
  let push : Except UsageFault (Given α) := do
    let g ← g.settle
    .ok { g with operands := g.operands ++ [word] }
  match u.operands with
  | .trailing => if behind then push else .error .unknownArgument
  | .one => if g.operands.isEmpty then push else .error .unknownArgument
  | .none =>
    if u.subcommands.isEmpty ∨ (behind ∧ u.subcommands.contains word) then
      .error .unknownArgument
    else .error .unknownSubcommand

/-- Reads words up to the name of a subcommand: what was given, the subcommand and the words behind
it. -/
def read (u : Usage α) (g : Given α) (behind : Bool) :
    List String → Except UsageFault (Given α × Option (String × List String))
  | [] => .ok (g, none)
  | word :: words =>
    if behind then do u.read (← u.takeOperand g behind word) behind words
    else if !g.isAwaiting && u.subcommands.contains word then .ok (g, some (word, words))
    else if word = "--" then u.read g true words
    else match long? word with
      | some (name, attached) =>
        match u.options.find? fun o => o.long == name with
        | none => .error .unknownArgument
        | some o => do u.read (← g.takeOption o attached) behind words
      | none =>
        match short? word, g.pending with
        | some cs, _ => do u.read (← u.takeShorts g cs) behind words
        | none, some (o, none) => u.read { g with pending := some (o, some word) } behind words
        | none, _ => do u.read (← u.takeOperand g behind word) behind words

end Usage

end TestFleet
