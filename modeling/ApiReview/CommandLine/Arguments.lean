import ApiReview.Finding.Severity
import ApiReview.Settings.Output
import ApiReview.Text.Cut

/-!
# Arguments

A command line names one command, `check`, `rules` or `config`.  A file of
settings can be asked for before or behind the command, and the later one counts;
`check` takes paths and two options that override settings.  A long option takes
its value behind an equals sign or as the next argument, a short one also
directly behind its letter.  Two dashes end the options.
-/

namespace ApiReview

/-- What is to be done. -/
inductive Command where
  | check (paths : List String) (format : Option ReportFormat)
      (minSeverity : Option Severity)
  | rules
  | config
deriving Repr

inductive Request where
  | run (settingsFile : Option String) (command : Command)
  | help
deriving Repr

/-- Why arguments cannot be understood. -/
inductive UsageFault where
  | noCommand
  | unknownCommand (name : String)
  | unexpected (argument : String)
  | valueMissing (option : String)
  | valueNotAllowed (option value : String)
  | givenTwice (option : String)
  | noPaths
deriving Repr

def UsageFault.message : UsageFault → String
  | .noCommand => "a command is required: check, rules or config"
  | .unknownCommand name => "unrecognized command '" ++ name ++ "'"
  | .unexpected argument => "unexpected argument '" ++ argument ++ "'"
  | .valueMissing option => "a value is required for '" ++ option ++ "'"
  | .valueNotAllowed option value => "invalid value '" ++ value ++ "' for '" ++ option ++ "'"
  | .givenTwice option => "'" ++ option ++ "' cannot be used multiple times"
  | .noPaths => "'check' requires paths"

namespace Arguments

/-- The options that take a value. -/
inductive OptionName where
  | settingsFile
  | format
  | minSeverity
deriving DecidableEq, Repr

namespace OptionName

def name : OptionName → String
  | .settingsFile => "config"
  | .format => "format"
  | .minSeverity => "min-severity"

def letter? : OptionName → Option Char
  | .settingsFile => some 'c'
  | .format => some 'f'
  | .minSeverity => none

end OptionName

/-- One argument, or an option with its value. -/
inductive Token where
  | plain (argument : String)
  | option (o : OptionName) (value : String)
  | help
deriving Repr

/-- The option whose value is the next argument, the value that is attached to
it, or help. -/
inductive Dashed where
  | awaiting (o : OptionName)
  | given (o : OptionName) (value : String)
  | help

/-- What an argument with two dashes in front stands for. -/
def longOption (allowed : List OptionName) (argument : String) (body : List Char) :
    Except UsageFault Dashed :=
  let name := String.ofList (body.takeWhile (· != '='))
  match body.dropWhile (· != '='), allowed.find? (·.name == name) with
  | [], some o => .ok (.awaiting o)
  | _ :: value, some o => .ok (.given o (String.ofList value))
  | [], none => if name == "help" then .ok .help else .error (.unexpected argument)
  | _ :: _, none => .error (.unexpected argument)

/-- What an argument with one dash in front stands for. -/
def shortOption (allowed : List OptionName) (argument : String) (letter : Char)
    (behind : List Char) : Except UsageFault Dashed :=
  match allowed.find? (·.letter? == some letter), behind with
  | some o, [] => .ok (.awaiting o)
  | some o, '=' :: value => .ok (.given o (String.ofList value))
  | some o, value => .ok (.given o (String.ofList value))
  | none, _ => if letter == 'h' then .ok .help else .error (.unexpected argument)

/-- What an argument with a dash in front stands for; none for other arguments
and for a single dash. -/
def dashed? (allowed : List OptionName) (argument : String) :
    Option (Except UsageFault Dashed) :=
  match argument.toList with
  | '-' :: '-' :: body => some (longOption allowed argument body)
  | '-' :: letter :: behind => some (shortOption allowed argument letter behind)
  | _ => none

/-- The first part of some arguments: an option with its value or a single
argument, and the arguments behind it. -/
def next (allowed : List OptionName) (argument : String) (rest : List String) :
    Except UsageFault (Token × List String) :=
  match dashed? allowed argument, rest with
  | none, _ => .ok (.plain argument, rest)
  | some (.error fault), _ => .error fault
  | some (.ok .help), _ => .ok (.help, rest)
  | some (.ok (.given o value)), _ => .ok (.option o value, rest)
  | some (.ok (.awaiting o)), [] => .error (.valueMissing o.name)
  | some (.ok (.awaiting o)), value :: rest =>
    if value.toList.head? == some '-' && value != "-" then .error (.valueMissing o.name)
    else .ok (.option o value, rest)

/-- The values of options that were given so far. -/
structure Given where
  settingsFile : Option String := none
  format : Option ReportFormat := none
  minSeverity : Option Severity := none

/-- Enter the value of an option that may be given once; a value has to be one
of some words. -/
def enterWord {α : Type} (o : OptionName) (words : List (String × α)) (old : Option α)
    (value : String) : Except UsageFault (Option α) :=
  match old, words.lookup value with
  | some _, _ => .error (.givenTwice o.name)
  | none, some v => .ok (some v)
  | none, none => .error (.valueNotAllowed o.name value)

def Given.enter (g : Given) (o : OptionName) (value : String) : Except UsageFault Given := do
  match o with
  | .settingsFile =>
    if g.settingsFile.isSome then .error (.givenTwice o.name)
    else return { g with settingsFile := some value }
  | .format =>
    let words := ReportFormat.all.map fun f => (f.word, f)
    return { g with format := ← enterWord o words g.format value }
  | .minSeverity =>
    let words := Severity.all.map fun s => (s.word, s)
    return { g with minSeverity := ← enterWord o words g.minSeverity value }

/-- The options and the other arguments behind a command; none if help is asked
for.  `fuel` arguments at most. -/
def behindCommand (allowed : List OptionName) :
    (fuel : Nat) → List String → Given → Except UsageFault (Option (Given × List String))
  | _, [], g => .ok (some (g, []))
  | 0, _, g => .ok (some (g, []))
  | fuel + 1, argument :: rest, g => do
    if argument == "--" then return some (g, rest)
    match ← next allowed argument rest with
    | (.help, _) => return none
    | (.option o value, rest) => behindCommand allowed fuel rest (← g.enter o value)
    | (.plain argument, rest) =>
      match ← behindCommand allowed fuel rest g with
      | some (g, others) => return some (g, argument :: others)
      | none => return none

def optionsOf (command : String) : List OptionName :=
  if command == "check" then [.settingsFile, .format, .minSeverity] else [.settingsFile]

/-- The command of a name, with what was given to it. -/
def commandOf (name : String) (g : Given) (others : List String) :
    Except UsageFault Command :=
  if name == "check" then
    if others.isEmpty then .error .noPaths
    else if others.contains "" then .error (.valueNotAllowed "paths" "")
    else .ok (.check others g.format g.minSeverity)
  else
    match others with
    | [] => .ok (if name == "rules" then .rules else .config)
    | argument :: _ => .error (.unexpected argument)

/-- What is asked for behind the name of a command; `settingsFile` is the file of
settings that was asked for before it. -/
def afterCommand (settingsFile : Option String) (name : String) (rest : List String) :
    Except UsageFault Request := do
  match ← behindCommand (optionsOf name) rest.length rest {} with
  | none => return .help
  | some (g, others) =>
    return .run (g.settingsFile <|> settingsFile) (← commandOf name g others)

def commandNames : List String :=
  ["check", "rules", "config"]

/-- The answer to a request for help, which may name commands. -/
def helpOn : List String → Except UsageFault Request
  | [] => .ok .help
  | [name] =>
    if commandNames.contains name || name == "help" then .ok .help
    else .error (.unknownCommand name)
  | _ :: name :: _ => .error (.unknownCommand name)

/-- What the arguments ask for, `fuel` of them at most before the command. -/
def parseFrom : (fuel : Nat) → List String → Given → Except UsageFault Request
  | _, [], _ => .error .noCommand
  | 0, _, _ => .error .noCommand
  | fuel + 1, argument :: rest, g => do
    match ← next [.settingsFile] argument rest with
    | (.help, _) => return .help
    | (.option o value, rest) => parseFrom fuel rest (← g.enter o value)
    | (.plain name, rest) =>
      if commandNames.contains name then afterCommand g.settingsFile name rest
      else if name == "help" then helpOn rest
      else .error (.unknownCommand name)

/-- What the arguments ask for. -/
def parse (arguments : List String) : Except UsageFault Request :=
  parseFrom arguments.length arguments {}

end Arguments

end ApiReview
