import RestQuery.Request.Build
import RestQuery.Text.Quoted

/-!
# Log lines

The command logs what it does on standard output, one line per event: the
level right-aligned in five columns, a blank, the message, and then each
field as ` name=value`.  A field holding a name or a path of the request is
written quoted (`path=""`), a list of names as a bracketed list of quoted
names (`columns=["id", "name"]`), and everything else as plain text.

Events at `debug` level are shown only when the command runs verbosely;
the others always are.

**Results.**
* `line_plain`: an event without fields is its level and its message.
-/

namespace RestQuery
namespace Cli

open Request

/-- The severity of a log event. -/
inductive Level where
  | error
  | warn
  | info
  | debug
  deriving Repr, DecidableEq

/-- The level as written, right-aligned in five columns. -/
def Level.label : Level → String
  | .error => "ERROR"
  | .warn => " WARN"
  | .info => " INFO"
  | .debug => "DEBUG"

/-- A log event: its level, its message and its fields, each value already written. -/
structure Event where
  level : Level
  message : String
  fields : List (String × String) := []
  deriving Repr, DecidableEq

/-- The log line of an event, without the line break. -/
def Event.line (e : Event) : String :=
  e.level.label ++ " " ++ e.message ++ String.join (e.fields.map fun (k, v) => " " ++ k ++ "=" ++ v)

/-- Whether an event is shown; `verbose` lets the `debug` events through. -/
def Event.shown (verbose : Bool) (e : Event) : Bool :=
  verbose || e.level != .debug

/-- The shown lines of some events, each with its line break. -/
def logText (verbose : Bool) (events : List Event) : String :=
  String.join ((events.filter (Event.shown verbose)).map fun e => e.line ++ "\n")

/-- A list of names as a bracketed list of quoted names. -/
def nameList (names : List String) : String :=
  "[" ++ ", ".intercalate (names.map Text.Quoted.quote) ++ "]"

/-- The event of a translator's note. -/
def noteEvent : Note → Event
  | .includesResolved joins =>
    { level := .debug, message := "resolved include paths", fields := [("joins", toString joins)] }
  | .filterIgnored e =>
    { level := .warn, message := "ignoring malformed where clause", fields := [("err", e.message)] }
  | .clausesParsed count =>
    { level := .debug, message := "parsed where clauses", fields := [("clauses", toString count)] }
  | .columnsProjected path columns =>
    { level := .debug, message := "projecting columns",
      fields := [("path", Text.Quoted.quote path), ("columns", nameList columns)] }
  | .aggregateParsed expression grouped =>
    { level := .debug, message := "parsed aggregate",
      fields := [("aggregate", expression), ("grouped", toString grouped)] }
  | .translated model joins nested =>
    { level := .info, message := "translated query",
      fields := [("model", model), ("joins", toString joins), ("has_nested_filter", toString nested)] }

theorem line_plain (level : Level) (message : String) :
    ({ level, message } : Event).line = level.label ++ " " ++ message := by
  simp [Event.line]

end Cli
end RestQuery
