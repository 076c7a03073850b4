import RestQuery.Cli.Log
import RestQuery.Cli.Args
import RestQuery.Cli.Workdir
import RestQuery.Request.Translate
import RestQuery.Request.Params
import RestQuery.Schema.ConfigFile
import RestQuery.Plan.Json
import RestQuery.Sql.Compile

/-!
# Running the command

A run reads its arguments, loads the configuration and sets up a session: a
translator and a compiler for the configured models, the dialect being the
one asked for on the command line or else the configured one.  A missing
configuration file is no fault: the built-in shop is served, with a warning.

Given a request line, the session answers it and the run ends; otherwise it
prints its banner and answers each non-blank line of its input until the
input ends.

**Request lines.**  `METHOD TARGET` or a bare target, read as `GET`; the line
is trimmed and cut at its first blank.  The target's path, up to a `?`, names
its route by its last segment once the slashes around it are dropped
(`/api/orders/` is `orders`); the rest is the query string.

**Answers.**  The translator's notes as log lines, the plan as indented
JSON under `[查询计划]`, the compiler's note, the statement under
`[生成的 SQL]`, the count statement under `[计数 SQL]` if the plan counts,
a line per optimization the compiler applied, and, when the filter reaches a joined
table and a window was asked for, a line saying that the window is left to
the caller.

**Failures.**  A run that fails writes `Error: ` and the failure on standard
error and ends with status 1: the failure's message, then its causes under
`Caused by:`, numbered from `0` when there are several.  Refused arguments
end it with status 2.  In the loop a failure is printed after a cross, its
causes after colons, and the loop goes on.

**Results.**
* `report_plain`: a failure without causes is reported on one line.
-/

namespace RestQuery
namespace Cli

open Request Schema

/-- A failure as the command reports it: what failed, and the chain of its causes, the
nearest first. -/
structure Failure where
  message : String
  causes : List String := []
  deriving Repr, DecidableEq

/-- A text whose first line follows `first` and whose other lines follow `rest`. -/
def indentLines (first rest text : String) : String :=
  match Text.split text '\n' with
  | [] => first
  | l :: ls => first ++ l ++ String.join (ls.map fun x => "\n" ++ rest ++ x)

/-- The number of a cause, right-aligned in five columns, and a colon. -/
def causeNumber (i : Nat) : String :=
  let n := toString i
  String.ofList (List.replicate (5 - n.length) ' ') ++ n ++ ": "

namespace Failure

/-- The failure of a configuration error, under a heading when one is given. -/
def ofConfig (heading : Option String) (e : ConfigError) : Failure :=
  let chain := e.message :: e.cause?.toList
  match heading with
  | some h => { message := h, causes := chain }
  | none => { message := e.message, causes := e.cause?.toList }

/-- The report on standard error. -/
def report (f : Failure) : String :=
  let causes := match f.causes with
    | [] => ""
    | [c] => "\n\nCaused by:\n" ++ indentLines "    " "    " c
    | cs => "\n\nCaused by:" ++
      String.join (cs.zipIdx.map fun (c, i) => "\n" ++ indentLines (causeNumber i) "       " c)
  "Error: " ++ f.message ++ causes ++ "\n"

/-- The failure on one line: the message and its causes, joined by colons. -/
def oneLine (f : Failure) : String :=
  ": ".intercalate (f.message :: f.causes)

end Failure

/-- What a run writes on standard output, in order: log events and printed text. -/
inductive Piece where
  | event (e : Event)
  | text (s : String)
  deriving Repr

/-- The text of some pieces; `verbose` shows the debug events. -/
def render (verbose : Bool) (pieces : List Piece) : String :=
  String.join (pieces.map fun p => match p with
    | .event e => if e.shown verbose then e.line ++ "\n" else ""
    | .text s => s)

/-- A request line: the method, the route and the query string. -/
structure RequestLine where
  method : Method
  route : String
  query : String
  deriving Repr

/-- The text before and after the first blank. -/
def splitAtBlank (cs : List Char) : Option (List Char × List Char) :=
  match cs.findIdx? Text.isBlank with
  | some i => some (cs.take i, cs.drop (i + 1))
  | none => none

/-- A text without the slashes at its two ends. -/
def trimSlashes (s : String) : String :=
  String.ofList ((s.toList.dropWhile (· == '/')).reverse.dropWhile (· == '/')).reverse

namespace RequestLine

/-- Reads a request line. -/
def parse (line : String) : Except Failure RequestLine := do
  let line := Text.trim line
  let (method, target) ← match splitAtBlank line.toList with
    | some (m, t) =>
      let name := String.ofList m
      match Method.parse name with
      | .ok method => pure (method, Text.trim (String.ofList t))
      | .error e => throw { message := "不支持的HTTP方法: " ++ name, causes := [e.message] }
    | none => pure (.get, line)
  let (path, query) := (Text.splitOnce target '?').getD (target, "")
  let route := ((Text.split (trimSlashes path) '/').getLast?).getD ""
  if route.isEmpty then throw { message := "请求缺少路由: " ++ line }
  return { method, route, query }

end RequestLine

/-- What answers request lines. -/
structure Session where
  translator : Translator
  compiler : Sql.Compiler

/-- A bound of a window as it is printed: `Some(n)` or `None`. -/
def boundText : Option Nat → String
  | some n => "Some(" ++ toString n ++ ")"
  | none => "None"

/-- The line of an optimization the compiler applied. -/
def optimizationLine : Sql.Optimization → String
  | .orToIn column count =>
    "• OrToIn \x7b column: " ++ Text.Quoted.quote column ++ ", value_count: " ++ toString count ++ " \x7d\n"

/-- The printed sections of compiled statements, from the statement on. -/
def compiledText (st : Sql.Style) (t : PlannedRequest) (c : Sql.Compiled) : String :=
  "\n[生成的 SQL]:\n" ++ c.select.display st ++ "\n" ++
  (match c.count with
    | some s => "\n[计数 SQL]:\n" ++ s.display st ++ "\n"
    | none => "") ++
  String.join (c.optimizations.map optimizationLine) ++
  (match t.deferredPagination with
    | some p =>
      "\n[分页]: 过滤条件涉及关联表，limit=" ++ boundText p.limit ++ " offset=" ++
        boundText p.offset ++ " 需在结果集上执行\n"
    | none => "")

namespace Session

/-- Answers a request line: what is written, and the failure that ended the answer, if any. -/
def handle (s : Session) (line : String) : List Piece × Option Failure :=
  match RequestLine.parse line with
  | .error f => ([], some f)
  | .ok r =>
    match s.translator.authorize r.method r.route with
    | .error e => ([], some { message := e.message })
    | .ok () =>
      let (result, notes) := s.translator.translate r.route (Params.ofQuery r.query)
      let logs := notes.map fun n => Piece.event (noteEvent n)
      match result with
      | .error e => (logs, some { message := e.message })
      | .ok t =>
        let plan := Piece.text ("\n[查询计划]:\n" ++ t.plan.toJson.render ++ "\n")
        match s.compiler.compile t.plan with
        | .error e => (logs ++ [plan], some { message := e.message })
        | .ok c =>
          let st := Sql.style s.compiler.dialect
          let compiled : Event :=
            { level := .debug, message := "compiled plan",
              fields := [("sql", c.select.display st), ("optimizations", toString c.optimizations.length)] }
          (logs ++ [plan, .event compiled, .text (compiledText st t c)], none)

/-- Answers a line of the loop: nothing for a blank line, a failure after a cross. -/
def reply (s : Session) (verbose : Bool) (line : String) : String :=
  if (Text.trim line).isEmpty then ""
  else
    let (pieces, failure) := s.handle line
    render verbose pieces ++
      match failure with
      | some f => "✗ " ++ f.oneLine ++ "\n"
      | none => ""

end Session

/-- The configuration read from a path, and the event that says so. -/
def loadConfig (path : String) : FileRead → Except Failure (ServiceConfig × Event)
  | .missing =>
    let fields := [("path", path)]
    .ok (ServiceConfig.builtin, { level := .warn, message := "config file not found, using default config", fields })
  | .failed reason =>
    .error (Failure.ofConfig (some "failed to load service config") (.unreadable path reason))
  | .text contents =>
    match ServiceConfig.parse contents with
    | .ok c =>
      let fields := [("path", path), ("models", toString c.models.length)]
      .ok (c, { level := .info, message := "loaded service config", fields })
    | .error e =>
      .error (Failure.ofConfig (some "failed to load service config") (.invalidJson path e.message))

/-- How a run ends. -/
structure Outcome where
  status : Nat
  stdout : String
  stderr : String
  deriving Repr, DecidableEq

/-- The end of a run that failed after writing `out`. -/
def Outcome.failed (out : String) (f : Failure) : Outcome :=
  { status := 1, stdout := out, stderr := f.report }

/-- The end of a run that succeeded after writing `out`. -/
def Outcome.success (out : String) : Outcome :=
  { status := 0, stdout := out, stderr := "" }

/-- The banner of the loop. -/
def banner : String :=
  "--- Universal Query: 请求参数到查询计划/SQL ---\n" ++
  "输入请求行，例如 GET /customers?where=[status,eq,active]&limit=5 ，Ctrl-D 退出\n"

/-- Where a run stands once it is set up: ended, or serving the lines of its input after
writing `shown`. -/
inductive Launch where
  | finished (o : Outcome)
  | serving (shown : String) (s : Session)

/-- Sets up a run with its options and what reading its configuration path gave, and answers
the request line if there is one. -/
def launch (o : Options) (read : FileRead) : Launch :=
  match loadConfig o.config read with
  | .error f => .finished (.failed "" f)
  | .ok (config, loaded) =>
    let shown := render o.verbose [.event loaded]
    match Translator.ofConfig config with
    | .error e => .finished (.failed shown (Failure.ofConfig none e))
    | .ok tr =>
      let s : Session :=
        { translator := tr, compiler := { registry := tr.registry, dialect := o.dialect.getD config.dialect } }
      match o.request with
      | some line =>
        let (pieces, failure) := s.handle line
        let out := shown ++ render o.verbose pieces
        match failure with
        | some f => .finished (.failed out f)
        | none => .finished (.success out)
      | none => .serving (shown ++ banner) s

/-- What a run does before it reads any file: ends for a refused argument, `--help` or
`--version`, or goes on with its options.  `env` is the configuration path set in the
environment, used when the command line gives none. -/
def begin (args : List String) (env : Option String) : Outcome ⊕ Options :=
  match parseArgs args with
  | .error e => .inl { status := 2, stdout := "", stderr := e.message }
  | .ok .help => .inl (.success (helpText env))
  | .ok .version => .inl (.success versionText)
  | .ok (.run o) =>
    match env with
    | some path =>
      if o.configGiven then .inr o
      else if path.isEmpty then
        .inl { status := 2, stdout := "", stderr := (ArgError.missingValue .config).message }
      else .inr { o with config := path }
    | none => .inr o

/-- A whole run in a working directory, its input being the given lines. -/
def run (args : List String) (env : Option String) (w : Workdir) (input : List String) : Outcome :=
  match begin args env with
  | .inl o => o
  | .inr o =>
    match launch o (w.read o.config) with
    | .finished outcome => outcome
    | .serving shown s => .success (shown ++ String.join (input.map (s.reply o.verbose)))

theorem report_plain (message : String) : ({ message } : Failure).report = "Error: " ++ message ++ "\n" := by
  simp [Failure.report]

end Cli
end RestQuery
