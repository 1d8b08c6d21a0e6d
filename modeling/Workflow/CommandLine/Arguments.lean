/-!
# Arguments of a command

Options have a long name and most have a short one. A value stands behind an equals sign, right
behind a short name, or in the next argument, which then must not look like an option. Short options
without value may share one hyphen. No option comes twice.

## Main definitions

* `CommandOption`, `CommandForm` — the options of a command.
* `CommandForm.read` — the options that arguments give.
* `CommandForm.help` — the help on a command.
-/

namespace Workflow

/-- An option of a command. -/
structure CommandOption where
  long : String
  short : Option Char := none
  /-- What the help calls the value, if the option takes one. -/
  valueName : Option String := none
  about : String
  default : Option String := none
  required : Bool := false
  /-- Whether a value will do. -/
  accepts : String → Bool := fun _ => true

/-- A command with its options. -/
structure CommandForm where
  name : String
  about : String
  options : List CommandOption := []

/-- Why arguments give no command to carry out. -/
inductive ArgumentsStop where
  | help
  | usage
  deriving DecidableEq, Repr

/-- Options with their values, in the order of the arguments. -/
abbrev Given := List (String × String)

namespace CommandForm

/-- A step of reading: options given so far, and the arguments left. -/
abbrev Reading := Except ArgumentsStop (Given × List String)

/-- A text that would be read as an option. -/
def looksLikeOption (argument : String) : Bool :=
  argument.startsWith "-" && argument ≠ "-"

def give (given : Given) (option : CommandOption) (value : String) (rest : List String) : Reading :=
  if given.any (·.1 = option.long) || ! option.accepts value then .error .usage
  else .ok (given ++ [(option.long, value)], rest)

/-- Give an option the next argument as its value. -/
def giveNext (given : Given) (option : CommandOption) (rest : List String) : Reading :=
  match rest with
  | value :: rest => if looksLikeOption value then .error .usage else give given option value rest
  | [] => .error .usage

/-- Read short options behind one hyphen. -/
def shorts (form : CommandForm) (given : Given) (rest : List String) : List Char → Reading
  | [] => .ok (given, rest)
  | c :: cs =>
    match form.options.find? (·.short == some c) with
    | some option =>
      match option.valueName, cs with
      | none, cs =>
        match give given option "" rest with
        | .ok (given, rest) => form.shorts given rest cs
        | .error stop => .error stop
      | some _, [] => giveNext given option rest
      | some _, '=' :: value => give given option (String.ofList value) rest
      | some _, value => give given option (String.ofList value) rest
    | none => .error (if c = 'h' then .help else .usage)

/-- Read a long option, with a value behind an equals sign or without. -/
def long (form : CommandForm) (given : Given) (rest : List String) (body : List Char) : Reading :=
  let name := String.ofList (body.takeWhile (· ≠ '='))
  let value? := match body.dropWhile (· ≠ '=') with
    | _ :: value => some (String.ofList value)
    | [] => none
  match form.options.find? (·.long = name) with
  | some option =>
    match option.valueName, value? with
    | none, none => give given option "" rest
    | none, some _ => .error .usage
    | some _, some value => give given option value rest
    | some _, none => giveNext given option rest
  | none => .error (if name = "help" ∧ value?.isNone then .help else .usage)

/-- Read the first argument. Nothing stands for itself, and behind two hyphens there is nothing. -/
def first (form : CommandForm) (given : Given) (argument : String) (rest : List String) : Reading :=
  match argument.toList with
  | ['-', '-'] => if rest.isEmpty then .ok (given, []) else .error .usage
  | '-' :: '-' :: body => form.long given rest body
  | ['-'] => .error .usage
  | '-' :: body => form.shorts given rest body
  | _ => .error .usage

/-- Read arguments to the end. Every step takes one at least, so `fuel` is their number. -/
def readAll (form : CommandForm) : Nat → Given → List String → Except ArgumentsStop Given
  | _, given, [] => .ok given
  | 0, _, _ => .error .usage
  | fuel + 1, given, argument :: rest =>
    match form.first given argument rest with
    | .ok (given, rest) => form.readAll fuel given rest
    | .error stop => .error stop

/-- The options that arguments give; required ones have to be among them. -/
def read (form : CommandForm) (arguments : List String) : Except ArgumentsStop Given :=
  match form.readAll arguments.length [] arguments with
  | .ok given =>
    if form.options.all fun option => ! option.required || given.any (·.1 = option.long) then
      .ok given
    else .error .usage
  | .error stop => .error stop

/-! ## Help -/

/-- A text filled up with spaces. -/
def padded (width : Nat) (s : String) : String :=
  s ++ String.ofList (List.replicate (width - s.length) ' ')

/-- An option with its value. -/
def spelled (option : CommandOption) : String :=
  "--" ++ option.long ++ match option.valueName with
    | some name => " <" ++ name ++ ">"
    | none => ""

def helpOption : CommandOption := { long := "help", short := some 'h', about := "Print help" }

/-- A line on an option. -/
def optionLine (width : Nat) (option : CommandOption) : String :=
  "  " ++ (match option.short with
      | some c => "-" ++ c.toString ++ ", "
      | none => "    ")
    ++ padded width (spelled option) ++ "  " ++ option.about
    ++ match option.default with
      | some value => " [default: " ++ value ++ "]"
      | none => ""

/-- Lines on options, the one on help last. -/
def optionLines (options : List CommandOption) : List String :=
  let all := options ++ [helpOption]
  let width := all.foldl (fun width option => max width (spelled option).length) 0
  "Options:" :: all.map (optionLine width)

def usageLine (form : CommandForm) : String :=
  "Usage: chain " ++ form.name
    ++ (if form.options.all (·.required) then "" else " [OPTIONS]")
    ++ String.join ((form.options.filter (·.required)).map fun option => " " ++ spelled option)

/-- The help on a command. -/
def help (form : CommandForm) : List String :=
  [form.about, "", form.usageLine, ""] ++ optionLines form.options

end CommandForm

end Workflow
