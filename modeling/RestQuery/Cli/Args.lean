import RestQuery.Schema.Config
import RestQuery.Text.Similarity

/-!
# Command-line arguments

The command `universal_query [OPTIONS] [REQUEST]` takes the path of its
configuration (`-c`, `--config`, by default `service_config.json`), a
dialect that overrides the configured one (`-d`, `--dialect`: `postgres`,
`mysql` or `sqlite`), `-v`/`--verbose` for debug logging, `-h`/`--help`,
`-V`/`--version`, and at most one request line.

Arguments are read from left to right and the first fault ends the reading.
An option whose value is in the next argument, and a request line, wait to
take effect until the next option, request line, `--` or the end of the
arguments: their faults (a missing or unknown value, an option given twice)
are met then.

* A long option is `--name` or `--name=value`; a short one is `-x`, and
  short options without a value may be run together (`-vh`).  The value of
  `-c` or `-d` follows it in the same argument (`-cfile`, `-c=file`) or is the
  next argument, unless that one looks like an option: then the value is
  missing.
* After `--` every argument is a request line; so is `-` alone.
* An option given twice, a value for an option that takes none, an empty
  path, an unknown dialect, an unknown option and a second request line are
  faults.  An unknown long option is answered with the option it resembles
  most, if any (`Text.mostSimilar`), an unknown dialect likewise.
* `--help` and `--version` end the reading at once with their text.

Each fault has its report, written as the argument reader of the command
writes it: the fault, tips, the usage line, and a pointer to `--help`.
The usage line lists `[OPTIONS] [REQUEST]`, or, for an unknown long option,
the options in effect and the one it resembles, then the request line
(`<REQUEST>` once it took effect, `[REQUEST]` otherwise).  For a value given to
an option that takes none, it lists that option and `[REQUEST]` while nothing
is in effect, and otherwise `--help` or `--version` if that was the option,
then the choice among all the command's own arguments.

**Results.**
* `parse_nil`: with no argument the command starts on its defaults.
-/

namespace RestQuery
namespace Cli

open Schema

/-- The options of the command. -/
inductive Flag where
  | config
  | dialect
  | verbose
  | help
  | version
  deriving Repr, DecidableEq

namespace Flag

/-- All options, in the order they are listed. -/
def all : List Flag := [.config, .dialect, .verbose, .help, .version]

/-- The long name. -/
def long : Flag → String
  | .config => "config"
  | .dialect => "dialect"
  | .verbose => "verbose"
  | .help => "help"
  | .version => "version"

/-- The short name. -/
def short : Flag → Char
  | .config => 'c'
  | .dialect => 'd'
  | .verbose => 'v'
  | .help => 'h'
  | .version => 'V'

/-- Whether the option takes a value. -/
def takesValue : Flag → Bool
  | .config | .dialect => true
  | _ => false

/-- The option as named in reports: the long name and its value's placeholder. -/
def spec : Flag → String
  | .config => "--config <CONFIG>"
  | .dialect => "--dialect <DIALECT>"
  | f => "--" ++ f.long

/-- The option with a long name. -/
def ofLong? (name : String) : Option Flag :=
  all.find? (·.long == name)

/-- The option with a short name. -/
def ofShort? (c : Char) : Option Flag :=
  all.find? (·.short == c)

end Flag

/-- What the command line asks the command to run with. -/
structure Options where
  config : String := "service_config.json"
  /-- Whether the command line gave the configuration path. -/
  configGiven : Bool := false
  dialect : Option Dialect := none
  verbose : Bool := false
  request : Option String := none
  deriving Repr

/-- What the command line asks for. -/
inductive Command where
  | run (options : Options)
  | help
  | version
  deriving Repr

/-- An argument given so far, as the usage line lists it. -/
inductive Given where
  | flag (f : Flag)
  | request
  deriving Repr, DecidableEq

/-- What a report suggests to do instead of an unknown option. -/
inductive Tip where
  /-- The option resembles a defined one. -/
  | similar (long : String)
  /-- The option can be passed as a request line after `--`. -/
  | escape
  deriving Repr, DecidableEq

/-- What the usage line of a report names. -/
inductive Usage where
  /-- The general line, `[OPTIONS] [REQUEST]`. -/
  | general
  /-- The arguments in effect, each once and in the order they first took effect. -/
  | listed (given : List Given)
  /-- An option that is not one of the command's own arguments, if any, before the choice
  among them all. -/
  | grouped (extra : Option Flag)
  deriving Repr, DecidableEq

/-- An argument the command refuses. -/
inductive ArgError where
  /-- An option that is not defined. -/
  | unknownOption (arg : String) (tip : Tip) (usage : Usage)
  /-- A request line after the one request line. -/
  | unexpectedArgument (arg : String)
  /-- An option without its value, or with an empty one. -/
  | missingValue (flag : Flag)
  /-- A dialect that is none of the three. -/
  | invalidDialect (value : String)
  /-- An option given a second time. -/
  | repeated (flag : Flag)
  /-- A value for an option that takes none. -/
  | unneededValue (flag : Flag) (value : String) (usage : Usage)
  deriving Repr, DecidableEq

/-- The name of the command in its usage line. -/
def commandName : String := "universal_query"

/-- The dialect names, as listed in reports. -/
def dialectNames : List String := ["postgres", "mysql", "sqlite"]

/-- The command's own arguments as one choice: its three options and the request line. -/
def groupText : String :=
  "<--config <CONFIG>|--dialect <DIALECT>|--verbose|REQUEST>"

/-- Whether an option is one of the command's own arguments, not `--help` or `--version`. -/
def Flag.isOwn (f : Flag) : Bool :=
  f != .help && f != .version

/-- The usage line.  Listed arguments give their options in order, then the request line:
required (`<REQUEST>`) if it was given, optional (`[REQUEST]`) otherwise. -/
def usageLine : Usage → String
  | .general => commandName ++ " [OPTIONS] [REQUEST]"
  | .listed [] => commandName ++ " [OPTIONS] [REQUEST]"
  | .listed given =>
    let flags := given.filterMap fun g => match g with | .flag f => some f.spec | .request => none
    let request := if given.contains .request then " <REQUEST>" else " [REQUEST]"
    commandName ++ String.join (flags.map (" " ++ ·)) ++ request
  | .grouped extra =>
    commandName ++ (match extra with | some f => " " ++ f.spec | none => "") ++ " " ++ groupText

/-- The closing lines of a report: the usage line, if any, and the pointer to `--help`. -/
def reportEnd (usage : Option String) : String :=
  (match usage with | some u => "\n\nUsage: " ++ u | none => "") ++
    "\n\nFor more information, try '--help'.\n"

/-- The list of dialect names in a report. -/
def possibleDialects : String :=
  "\n  [possible values: " ++ ", ".intercalate dialectNames ++ "]"

/-- The report of a refused argument. -/
def ArgError.message : ArgError → String
  | .unknownOption arg tip usage =>
    let tipText := match tip with
      | .similar long => "a similar argument exists: '--" ++ long ++ "'"
      | .escape => "to pass '" ++ arg ++ "' as a value, use '-- " ++ arg ++ "'"
    "error: unexpected argument '" ++ arg ++ "' found\n\n  tip: " ++ tipText ++
      reportEnd (some (usageLine usage))
  | .unexpectedArgument arg =>
    "error: unexpected argument '" ++ arg ++ "' found" ++ reportEnd (some (usageLine .general))
  | .missingValue f =>
    "error: a value is required for '" ++ f.spec ++ "' but none was supplied" ++
      (if f = .dialect then possibleDialects else "") ++ reportEnd none
  | .invalidDialect value =>
    let tip := match Text.mostSimilar value dialectNames with
      | some d => "\n\n  tip: a similar value exists: '" ++ d ++ "'"
      | none => ""
    "error: invalid value '" ++ value ++ "' for '" ++ Flag.dialect.spec ++ "'" ++
      possibleDialects ++ tip ++ reportEnd none
  | .repeated f =>
    "error: the argument '" ++ f.spec ++ "' cannot be used multiple times" ++
      reportEnd (some (usageLine .general))
  | .unneededValue f value usage =>
    "error: unexpected value '" ++ value ++ "' for '" ++ f.spec ++
      "' found; no more were expected" ++ reportEnd (some (usageLine usage))

/-- An argument whose effect waits for what follows it: an option with its value, if it has
one yet, or a request line. -/
inductive Pending where
  | option (f : Flag) (value : Option String)
  | request (line : String)
  deriving Repr, DecidableEq

/-- The state of the reading: the options so far, the arguments in effect in the order they
first took effect, the argument waiting to take effect, and whether `--` was read. -/
structure Scan where
  options : Options := {}
  taken : List Given := []
  pending : Option Pending := none
  escaped : Bool := false
  deriving Repr

namespace Scan

/-- Puts an option with its value into effect: the scan after it, and its fault, if any.  An
option in effect already is taken out of effect and refused; a value that does not fit is
refused with the option in effect. -/
def apply (s : Scan) (f : Flag) (value : String) : Scan × Option ArgError :=
  if s.taken.contains (.flag f) then ({ s with taken := s.taken.erase (.flag f) }, some (.repeated f))
  else
    let s := { s with taken := s.taken ++ [.flag f] }
    match f with
    | .config =>
      if value.isEmpty then (s, some (.missingValue .config))
      else ({ s with options := { s.options with config := value, configGiven := true } }, none)
    | .dialect =>
      match Dialect.ofName? value with
      | some d => ({ s with options := { s.options with dialect := some d } }, none)
      | none => (s, some (if value.isEmpty then .missingValue .dialect else .invalidDialect value))
    | .verbose => ({ s with options := { s.options with verbose := true } }, none)
    | _ => (s, none)

/-- Puts the waiting argument into effect: the scan after it, and its fault, if any.  An
option still without its value is refused and does not take effect. -/
def resolve (s : Scan) : Scan × Option ArgError :=
  let rest : Scan := { s with pending := none }
  match s.pending with
  | none => (s, none)
  | some (.option f none) => (rest, some (.missingValue f))
  | some (.option f (some v)) => rest.apply f v
  | some (.request line) =>
    ({ rest with taken := rest.taken ++ [.request],
                 options := { rest.options with request := some line } }, none)

/-- Puts the waiting argument into effect, failing at its fault. -/
def settle (s : Scan) : Except ArgError Scan :=
  match s.resolve with
  | (s, none) => .ok s
  | (_, some e) => .error e

/-- Puts an option with a value given in the same argument into effect, after the waiting
argument. -/
def give (s : Scan) (f : Flag) (value : String) : Except ArgError Scan := do
  let s ← s.settle
  match s.apply f value with
  | (s, none) => .ok s
  | (_, some e) => .error e

/-- Puts an option that takes no value into effect, after the waiting argument: `--help` and
`--version` end the reading. -/
def switch (s : Scan) (f : Flag) : Except ArgError (Scan ⊕ Command) := do
  let s ← s.settle
  match f with
  | .help => .ok (.inr .help)
  | .version => .ok (.inr .version)
  | _ =>
    match s.apply f "" with
    | (s, none) => .ok (.inl s)
    | (_, some e) => .error e

/-- Makes an option wait for its value in the next argument, after the waiting argument takes
effect. -/
def await (s : Scan) (f : Flag) : Except ArgError Scan := do
  let s ← s.settle
  .ok { s with pending := some (.option f none) }

/-- Whether a request line has been read. -/
def hasRequest (s : Scan) : Bool :=
  s.options.request.isSome ||
    match s.pending with
    | some (.request _) => true
    | _ => false

/-- Takes a request line; it waits to take effect. -/
def positional (s : Scan) (arg : String) : Except ArgError Scan :=
  if s.hasRequest then .error (.unexpectedArgument arg)
  else do
    let s ← s.settle
    .ok { s with pending := some (.request arg) }

/-- The usage line of a value given to an option that takes none: the option, before the
choice among the command's own arguments once one of them is in effect, or else before the
optional request line. -/
def unneededUsage (s : Scan) (f : Flag) : Usage :=
  if s.taken.isEmpty then .listed [.flag f]
  else .grouped (if f.isOwn then none else some f)

/-- Reads a long option with its attached value, if any.  An unknown option is reported after
the waiting argument has taken effect, whatever its fault, with the arguments in effect and
the option it resembles. -/
def longOption (s : Scan) (name : String) (value : Option String) :
    Except ArgError (Scan ⊕ Command) :=
  match Flag.ofLong? name with
  | none =>
    let s := s.resolve.1
    match Text.mostSimilar name (Flag.all.map Flag.long) >>= Flag.ofLong? with
    | some f =>
      let given := if s.taken.contains (.flag f) then s.taken else s.taken ++ [.flag f]
      .error (.unknownOption ("--" ++ name) (.similar f.long) (.listed given))
    | none => .error (.unknownOption ("--" ++ name) .escape (.listed s.taken))
  | some f =>
    match value, f.takesValue with
    | some v, true => .inl <$> s.give f v
    | some v, false => .error (.unneededValue f v (s.unneededUsage f))
    | none, true => .inl <$> s.await f
    | none, false => s.switch f

/-- Reads a run of short options. -/
def shortOptions (s : Scan) : List Char → Except ArgError (Scan ⊕ Command)
  | [] => .ok (.inl s)
  | c :: rest =>
    match Flag.ofShort? c with
    | none => .error (.unknownOption ("-" ++ String.singleton c) .escape .general)
    | some f =>
      if f.takesValue then
        match rest with
        | [] => .inl <$> s.await f
        | '=' :: value => .inl <$> s.give f (String.ofList value)
        | value => .inl <$> s.give f (String.ofList value)
      else do
        match ← s.switch f with
        | .inl s => shortOptions s rest
        | .inr c => .ok (.inr c)

/-- Reads one argument. -/
def step (s : Scan) (arg : String) : Except ArgError (Scan ⊕ Command) :=
  let cs := arg.toList
  if s.escaped then .inl <$> s.positional arg
  else
    match cs with
    | ['-', '-'] => do
      let s ← s.settle
      .ok (.inl { s with escaped := true })
    | '-' :: '-' :: name =>
      match Text.splitOnceChars '=' name with
      | some (n, v) => s.longOption (String.ofList n) (some (String.ofList v))
      | none => s.longOption (String.ofList name) none
    | '-' :: c :: more => s.shortOptions (c :: more)
    | _ =>
      match s.pending with
      | some (.option f none) => .ok (.inl { s with pending := some (.option f (some arg)) })
      | _ => .inl <$> s.positional arg

end Scan

/-- Reads the remaining arguments. -/
def parseFrom (s : Scan) : List String → Except ArgError Command
  | [] => (fun s => .run s.options) <$> s.settle
  | arg :: rest =>
    match s.step arg with
    | .error e => .error e
    | .ok (.inr c) => .ok c
    | .ok (.inl s) => parseFrom s rest

/-- Reads the command line, the command's own name not included. -/
def parseArgs (args : List String) : Except ArgError Command :=
  parseFrom {} args

/-- The text of `--version`. -/
def versionText : String :=
  "universal-query 0.1.0\n"

/-- The text of `--help`; `env` is the configuration path set in the environment. -/
def helpText (env : Option String) : String :=
  "Query parameter to SQL translator\n\n" ++
  "Usage: universal_query [OPTIONS] [REQUEST]\n\n" ++
  "Arguments:\n" ++
  "  [REQUEST]  Translate a single request line and exit instead of starting the REPL\n\n" ++
  "Options:\n" ++
  "  -c, --config <CONFIG>    Service configuration (models, relations, enabled tables) " ++
    "[env: UNIVERSAL_QUERY_CONFIG=" ++ env.getD "" ++ "] [default: service_config.json]\n" ++
  "  -d, --dialect <DIALECT>  SQL dialect; overrides the configured one " ++
    "[possible values: postgres, mysql, sqlite]\n" ++
  "  -v, --verbose            Enable verbose output\n" ++
  "  -h, --help               Print help\n" ++
  "  -V, --version            Print version\n"

theorem parse_nil : parseArgs [] = .ok (.run {}) := by
  rfl

end Cli
end RestQuery
