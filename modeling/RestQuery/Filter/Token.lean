import RestQuery.Text.Blank

/-!
# Tokens of a filter

A filter is written as clauses in square brackets joined by the connectives
`AND` and `OR`, for instance `[status,eq,open]OR[total,gt,100]`.  Scanning
cuts such a text into tokens:

* blank characters between tokens are skipped;
* `[` opens a clause whose body runs to the first `]`; without a `]` the rest
  of the text, bracket included, is an illegal token;
* a text starting with `AND` or `OR` (in capitals) gives that connective, so
  `ANDROID` scans as `AND` followed by an illegal `ROID`;
* anything else makes the rest of the text one illegal token.

Scanning stops after an illegal token.  Every token carries its span: the
byte offsets, in the UTF-8 form of the text, of its first byte and of the
byte after it.
-/

namespace RestQuery
namespace Filter

/-- A stretch of the filter text, by byte offsets: `start` inclusive, `stop` exclusive. -/
structure Span where
  start : Nat
  stop : Nat
  deriving Repr, DecidableEq

/-- What a token is. -/
inductive TokenKind where
  /-- The connective `AND`. -/
  | and
  /-- The connective `OR`. -/
  | or
  /-- A bracketed clause, by its body without the brackets. -/
  | clause (body : String)
  /-- The rest of the text from a point where no token starts. -/
  | illegal (rest : String)
  deriving Repr, DecidableEq

/-- A token and where it stands. -/
structure Token where
  kind : TokenKind
  span : Span
  deriving Repr, DecidableEq

/-- The number of bytes of a character list in UTF-8. -/
def byteLength (cs : List Char) : Nat :=
  cs.foldr (fun c n => c.utf8Size + n) 0

mutual

/-- The tokens of `cs`, whose first character stands at byte `pos` of the filter. -/
def scanFrom (pos : Nat) : List Char → List Token
  | [] => []
  | c :: rest =>
    if Text.isBlank c then scanFrom (pos + c.utf8Size) rest
    else if c = '[' then scanClause pos (c :: rest) [] (pos + 1) rest
    else
      match c, rest with
      | 'A', 'N' :: 'D' :: after => ⟨.and, ⟨pos, pos + 3⟩⟩ :: scanFrom (pos + 3) after
      | 'O', 'R' :: after => ⟨.or, ⟨pos, pos + 2⟩⟩ :: scanFrom (pos + 2) after
      | _, _ =>
        [⟨.illegal (String.ofList (c :: rest)), ⟨pos, pos + byteLength (c :: rest)⟩⟩]

/-- Reads the body of a clause opened at byte `start`; `whole` is the text from the
opening bracket, `body` the characters read so far (reversed), `pos` the current byte. -/
def scanClause (start : Nat) (whole body : List Char) (pos : Nat) : List Char → List Token
  | [] => [⟨.illegal (String.ofList whole), ⟨start, pos⟩⟩]
  | c :: rest =>
    if c = ']' then
      ⟨.clause (String.ofList body.reverse), ⟨start, pos + 1⟩⟩ :: scanFrom (pos + 1) rest
    else scanClause start whole (c :: body) (pos + c.utf8Size) rest

end

/-- The tokens of a filter text. -/
def scan (s : String) : List Token :=
  scanFrom 0 s.toList

end Filter
end RestQuery
