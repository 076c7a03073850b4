import RestQuery.Json.Error
import RestQuery.Number.Literal
import RestQuery.Number.Arithmetic

/-!
# Reading JSON text

A reader walks a JSON text from left to right, keeping the line it is on
and the number of bytes of that line it has read.  A fault found by a
reader is placed either where the reader stands, or one byte further on
(at the character it looked at but did not take, and never past the end).
A reader may fail after it has taken input; what it took stays taken.

This module holds the lexical pieces: blanks, the words `null`, `true` and
`false`, strings with their escapes, numbers, and skipping a whole value
of any form.  Skipping checks the syntax of what it skips and has no depth
limit.

**Results.**
* `scanString_quote`: a closing quote ends a string at once.
-/

namespace RestQuery
namespace Json

/-- Where a reader stands in a text. -/
structure Cursor where
  rest : List Char
  line : Nat := 1
  column : Nat := 0
  deriving Repr

namespace Cursor

/-- The cursor after taking one character. -/
def advance (c : Cursor) (ch : Char) : Cursor :=
  if ch = '\n' then { c with rest := c.rest.drop 1, line := c.line + 1, column := 0 }
  else { c with rest := c.rest.drop 1, column := c.column + ch.utf8Size }

/-- The cursor after taking `n` characters. -/
def advanceBy (c : Cursor) : Nat → Cursor
  | 0 => c
  | n + 1 =>
    match c.rest with
    | [] => c
    | ch :: _ => (c.advance ch).advanceBy n

/-- Where the cursor stands. -/
def position (c : Cursor) : Position :=
  ⟨c.line, c.column⟩

/-- The place one byte further on, not past the end. -/
def peekPosition (c : Cursor) : Position :=
  match c.rest with
  | [] => c.position
  | '\n' :: _ => ⟨c.line + 1, 0⟩
  | _ :: _ => ⟨c.line, c.column + 1⟩

end Cursor

/-- A step of reading: it may fail, and it keeps what it took either way. -/
abbrev Reader := ExceptT Error (StateM Cursor)

namespace Reader

/-- Fails where the reader stands. -/
def fail {α : Type} (f : Fault) : Reader α := do
  throw { fault := f, position := some (← get).position }

/-- Fails at the character the reader looks at. -/
def failAhead {α : Type} (f : Fault) : Reader α := do
  throw { fault := f, position := some (← get).peekPosition }

/-- Fails with no place; an enclosing step gives it one. -/
def failHere {α : Type} (f : Fault) : Reader α :=
  throw { fault := f }

/-- Gives a fault without a place the place where the reader stands now. -/
def placed {α : Type} (m : Reader α) : Reader α :=
  tryCatch m fun e => do
    match e.position with
    | some _ => throw e
    | none => throw { e with position := some (← get).position }

/-- Runs a step and hands back its outcome instead of failing. -/
def attempt {α : Type} (m : Reader α) : Reader (Except Error α) :=
  tryCatch (Except.ok <$> m) fun e => pure (.error e)

/-- The next character, not taken. -/
def peek : Reader (Option Char) := do
  return (← get).rest.head?

/-- Takes the next character. -/
def bump : Reader Unit :=
  modify fun c =>
    match c.rest with
    | [] => c
    | ch :: _ => c.advance ch

/-- Takes `n` characters. -/
def take (n : Nat) : Reader Unit :=
  modify fun c => c.advanceBy n

/-- Takes and gives the next character. -/
def next : Reader (Option Char) := do
  let ch ← peek
  bump
  return ch

/-- Whether a character is a blank between tokens. -/
def isBlank (c : Char) : Bool :=
  c = ' ' || c = '\n' || c = '\t' || c = '\r'

/-- Skips blanks and gives the next character, not taken. -/
def skipBlank : Reader (Option Char) := do
  let c ← get
  take (c.rest.takeWhile isBlank).length
  peek

/-- Takes the rest of a word whose first letter is taken already. -/
def word (rest : List Char) : Reader Unit :=
  rest.forM fun expected => do
    match ← next with
    | none => fail .eofWhileValue
    | some ch => if ch = expected then pure () else fail .expectedIdent


end Reader

/-! ## Strings -/

/-- Whether a character is a hexadecimal digit, and its value. -/
def hexValue (c : Char) : Option Nat :=
  if '0' ≤ c ∧ c ≤ '9' then some (c.toNat - '0'.toNat)
  else if 'a' ≤ c ∧ c ≤ 'f' then some (c.toNat - 'a'.toNat + 10)
  else if 'A' ≤ c ∧ c ≤ 'F' then some (c.toNat - 'A'.toNat + 10)
  else none

/-- A fault of a string, placed the given number of bytes into the character after those
taken: an escape is read by bytes, and may stop inside a character of several bytes. -/
abbrev StringFault := Fault × Nat

/-- The first `n` bytes of some characters: how many characters lie in them whole, and how
many bytes of the next character they hold. -/
def cutBytes : List Char → Nat → Nat × Nat
  | [], _ => (0, 0)
  | c :: cs, n =>
    if c.utf8Size ≤ n then
      let (k, b) := cutBytes cs (n - c.utf8Size)
      (k + 1, b)
    else (0, n)

/-- A fault placed after the first `n` bytes of some characters. -/
def faultAfterBytes (cs : List Char) (n : Nat) (f : Fault) : Nat × Except StringFault Nat :=
  let (k, b) := cutBytes cs n
  (k, .error (f, b))

/-- The four bytes after `\u` read as hexadecimal digits: the characters taken and the value.
With fewer than four bytes left the text ends inside the string. -/
def scanHex4 (cs : List Char) : Nat × Except StringFault Nat :=
  if (cs.take 4).foldr (fun c n => c.utf8Size + n) 0 < 4 then (cs.length, .error (.eofWhileString, 0))
  else
    match cs with
    | a :: b :: c :: d :: _ =>
      match hexValue a, hexValue b, hexValue c, hexValue d with
      | some w, some x, some y, some z => (4, .ok (((w * 16 + x) * 16 + y) * 16 + z))
      | _, _, _, _ => faultAfterBytes cs 4 .invalidEscape
    | _ => faultAfterBytes cs 4 .invalidEscape

/-- A fault after the first byte of a character that does not belong where it stands. -/
def faultAfterByte (c : Char) (f : Fault) : Nat × StringFault :=
  if c.utf8Size = 1 then (1, (f, 0)) else (0, (f, 1))

/-- The escape after `\u`: one code unit, or a surrogate pair written as two escapes. -/
def scanUnicodeEscape (cs : List Char) : Nat × Except StringFault Char :=
  match scanHex4 cs with
  | (n, .error f) => (n, .error f)
  | (_, .ok hi) =>
    if 0xDC00 ≤ hi ∧ hi ≤ 0xDFFF then (4, .error (.loneLeadingSurrogate, 0))
    else if hi < 0xD800 ∨ 0xDBFF < hi then (4, .ok (Char.ofNat hi))
    else
      match cs.drop 4 with
      | [] => (4, .error (.eofWhileString, 0))
      | '\\' :: more =>
        match more with
        | [] => (5, .error (.eofWhileString, 0))
        | 'u' :: digits =>
          match scanHex4 digits with
          | (n, .error f) => (6 + n, .error f)
          | (_, .ok lo) =>
            if 0xDC00 ≤ lo ∧ lo ≤ 0xDFFF then
              (10, .ok (Char.ofNat (0x10000 + (hi - 0xD800) * 0x400 + (lo - 0xDC00))))
            else (10, .error (.loneLeadingSurrogate, 0))
        | c :: _ =>
          let (n, f) := faultAfterByte c .unexpectedEndOfHexEscape
          (5 + n, .error f)
      | c :: _ =>
        let (n, f) := faultAfterByte c .unexpectedEndOfHexEscape
        (4 + n, .error f)

/-- The escape after a backslash. -/
def scanEscape (cs : List Char) : Nat × Except StringFault Char :=
  match cs with
  | [] => (0, .error (.eofWhileString, 0))
  | c :: rest =>
    if c = '"' then (1, .ok '"')
    else if c = '\\' then (1, .ok '\\')
    else if c = '/' then (1, .ok '/')
    else if c = 'b' then (1, .ok (Char.ofNat 8))
    else if c = 'f' then (1, .ok (Char.ofNat 12))
    else if c = 'n' then (1, .ok '\n')
    else if c = 'r' then (1, .ok '\r')
    else if c = 't' then (1, .ok '\t')
    else if c = 'u' then
      let (n, r) := scanUnicodeEscape rest
      (n + 1, r)
    else
      let (n, f) := faultAfterByte c .invalidEscape
      (n, .error f)

/-- The body of a string after its opening quote, up to and with its closing quote: the
number of characters taken and the text. -/
def scanString (cs : List Char) : Nat × Except StringFault (List Char) :=
  match cs with
  | [] => (0, .error (.eofWhileString, 0))
  | c :: rest =>
    if c = '"' then (1, .ok [])
    else if c = '\\' then
      match scanEscape rest with
      | (n, .error f) => (1 + n, .error f)
      | (n, .ok e) =>
        let (m, r) := scanString (rest.drop n)
        (1 + n + m, r.map (e :: ·))
    else if c.toNat < 0x20 then (1, .error (.controlCharacter, 0))
    else
      let (m, r) := scanString rest
      (1 + m, r.map (c :: ·))
termination_by cs.length
decreasing_by
  · simp only [List.length_drop, List.length_cons]
    omega
  · simp

theorem scanString_quote (rest : List Char) : scanString ('"' :: rest) = (1, .ok []) := by
  simp [scanString]

/-- A string body skipped without keeping its text: the number of characters taken and
whether it is well formed.  A control character stops the skip before it. -/
def scanSkipString (cs : List Char) : Nat × Except StringFault Unit :=
  match cs with
  | [] => (0, .error (.eofWhileString, 0))
  | c :: rest =>
    if c = '"' then (1, .ok ())
    else if c = '\\' then
      match rest with
      | [] => (1, .error (.eofWhileString, 0))
      | e :: more =>
        if e = 'u' then
          match scanHex4 more with
          | (n, .error f) => (2 + n, .error f)
          | (_, .ok _) =>
            let (m, r) := scanSkipString (more.drop 4)
            (6 + m, r)
        else if "\"\\/bfnrt".toList.contains e then
          let (m, r) := scanSkipString more
          (2 + m, r)
        else
          let (n, f) := faultAfterByte e .invalidEscape
          (1 + n, .error f)
    else if c.toNat < 0x20 then (0, .error (.controlCharacter, 0))
    else
      let (m, r) := scanSkipString rest
      (1 + m, r)
termination_by cs.length
decreasing_by
  all_goals simp only [List.length_drop, List.length_cons]
  all_goals omega

/-! ## Numbers -/

/-- A fault of a number, placed where the reader stops (`false`) or one byte further (`true`). -/
abbrev NumberFault := Fault × Bool

/-- The largest significand a number keeps: `2 ^ 64 - 1`. -/
def significandLimit : Nat := Nat.pow 2 64 - 1

/-- The largest exponent a number keeps: `2 ^ 31 - 1`. -/
def exponentLimit : Nat := Nat.pow 2 31 - 1

/-- An exponent kept within `-2 ^ 31` and `2 ^ 31 - 1`. -/
def clampExponent (k : Int) : Int :=
  max (min k exponentLimit) (-(exponentLimit : Int) - 1)

/-- The value of a digit character. -/
def digitValue (c : Char) : Nat :=
  c.toNat - '0'.toNat

/-- Digits joined to a significand while it stays within `significandLimit`: how many of them
are joined, and the significand.  The digit that would pass the limit and all after it are left
out. -/
def absorbDigits (significand : Nat) : List Char → Nat × Nat
  | [] => (0, significand)
  | d :: ds =>
    let next := significand * 10 + digitValue d
    if next > significandLimit then (0, significand)
    else
      let (k, s) := absorbDigits next ds
      (k + 1, s)

/-- Digits of an exponent after its first digit `acc`: how many are taken, and the exponent,
none when a digit takes it past `exponentLimit` (that digit is taken, the rest are not). -/
def exponentDigits (acc : Nat) : List Char → Nat × Option Nat
  | [] => (0, some acc)
  | d :: ds =>
    let next := acc * 10 + digitValue d
    if next > exponentLimit then (1, none)
    else
      let (k, r) := exponentDigits next ds
      (k + 1, r)

/-- The binary64 value of a number read as `± significand · 10 ^ exponent`. -/
def decimalValue (negative : Bool) (significand : Nat) (exponent : Int) :
    Except NumberFault Unexpected :=
  match Number.Binary64.scaledDecimal negative significand exponent with
  | some x => .ok (.float x)
  | none => .error (.numberOutOfRange, false)

/-- The value of a number written without point and exponent whose digits fit the
significand: an integer, except that `-0` and a negative integer below `-2 ^ 63` are binary64
values. -/
def integerValue (negative : Bool) (significand : Nat) : Except NumberFault Unexpected :=
  if !negative then .ok (.unsigned significand)
  else if significand = 0 ∨ Nat.pow 2 63 < significand then decimalValue true significand 0
  else .ok (.signed (-(significand : Int)))

/-- The exponent of a number after its `e`, the rest of the number being
`± significand · 10 ^ start`.  An exponent past `exponentLimit` makes a number that is not zero
out of range when it is positive, and the number zero otherwise. -/
def scanExponent (negative : Bool) (significand : Nat) (start : Int) (cs : List Char) :
    Nat × Except NumberFault Unexpected :=
  let (up, body, taken) : Bool × List Char × Nat :=
    match cs with
    | '+' :: r => (true, r, 1)
    | '-' :: r => (false, r, 1)
    | r => (true, r, 0)
  match body with
  | [] => (taken, .error (.eofWhileValue, false))
  | d :: more =>
    if !Number.isDigit d then (taken + 1, .error (.invalidNumber, false))
    else
      let ds := more.takeWhile Number.isDigit
      match exponentDigits (digitValue d) ds with
      | (k, some exp) =>
        let exponent := clampExponent (if up then start + exp else start - exp)
        (taken + 1 + k, decimalValue negative significand exponent)
      | (k, none) =>
        if significand ≠ 0 ∧ up then (taken + 1 + k, .error (.numberOutOfRange, false))
        else (taken + 1 + ds.length, .ok (.float (Number.Binary64.zero negative)))

/-- What follows the digits of a number read as `± significand · 10 ^ exponent`: an exponent
or nothing. -/
def scanAfterDigits (negative : Bool) (significand : Nat) (exponent : Int) (cs : List Char) :
    Nat × Except NumberFault Unexpected :=
  match cs with
  | e :: more =>
    if e = 'e' ∨ e = 'E' then
      let (n, v) := scanExponent negative significand exponent more
      (1 + n, v)
    else (0, decimalValue negative significand exponent)
  | [] => (0, decimalValue negative significand exponent)

/-- The digits after the point of a number, the digits before it being
`± significand · 10 ^ exponent`.  At least one digit must follow the point. -/
def scanFraction (negative : Bool) (significand : Nat) (exponent : Int) (cs : List Char) :
    Nat × Except NumberFault Unexpected :=
  let ds := cs.takeWhile Number.isDigit
  let rest := cs.drop ds.length
  if ds.isEmpty then
    (0, .error (if rest.isEmpty then .eofWhileValue else .invalidNumber, true))
  else
    let (k, s) := absorbDigits significand ds
    let (n, v) := scanAfterDigits negative s (exponent - k) rest
    (ds.length + n, v)

/-- The part of a number after its integer digits, which made `± significand · 10 ^ exponent`;
`whole` says that all of them are in the significand. -/
def scanNumberTail (negative : Bool) (significand : Nat) (exponent : Int) (whole : Bool)
    (cs : List Char) : Nat × Except NumberFault Unexpected :=
  match cs with
  | '.' :: r =>
    let (n, v) := scanFraction negative significand exponent r
    (1 + n, v)
  | e :: more =>
    if e = 'e' ∨ e = 'E' then
      let (n, v) := scanExponent negative significand exponent more
      (1 + n, v)
    else if whole then (0, integerValue negative significand)
    else (0, decimalValue negative significand exponent)
  | [] => if whole then (0, integerValue negative significand)
    else (0, decimalValue negative significand exponent)

/-- A number after its optional minus sign: the characters taken and its value.  Its digits
are kept in a significand below `2 ^ 64`: integer digits past it count as powers of ten,
digits after the point past it are dropped. -/
def scanNumber (negative : Bool) (cs : List Char) : Nat × Except NumberFault Unexpected :=
  match cs with
  | [] => (0, .error (.eofWhileValue, false))
  | c :: rest =>
    if c = '0' then
      match rest with
      | d :: _ =>
        if Number.isDigit d then (1, .error (.invalidNumber, true))
        else
          let (n, v) := scanNumberTail negative 0 0 true rest
          (1 + n, v)
      | [] => (1, integerValue negative 0)
    else if Number.isDigit c then
      let ds := c :: rest.takeWhile Number.isDigit
      let (k, s) := absorbDigits 0 ds
      let (n, v) := scanNumberTail negative s (ds.length - k : Nat) (k = ds.length)
        (rest.drop (ds.length - 1))
      (ds.length + n, v)
    else (1, .error (.invalidNumber, false))

/-- The exponent of a skipped number after its `e`. -/
def skipExponent (cs : List Char) : Nat × Except NumberFault Unit :=
  let (body, taken) : List Char × Nat :=
    match cs with
    | '+' :: r => (r, 1)
    | '-' :: r => (r, 1)
    | r => (r, 0)
  match body with
  | [] => (taken, .error (.invalidNumber, false))
  | d :: more =>
    if Number.isDigit d then (taken + 1 + (more.takeWhile Number.isDigit).length, .ok ())
    else (taken + 1, .error (.invalidNumber, false))

/-- A skipped number after its optional minus sign: the characters taken, and whether it is
well formed.  Its range is not checked. -/
def skipNumber (cs : List Char) : Nat × Except NumberFault Unit :=
  let tail (cs : List Char) : Nat × Except NumberFault Unit :=
    match cs with
    | '.' :: r =>
      let frac := r.takeWhile Number.isDigit
      if frac.isEmpty then (1, .error (.invalidNumber, true))
      else
        match r.drop frac.length with
        | e :: more =>
          if e = 'e' ∨ e = 'E' then
            let (n, v) := skipExponent more
            (2 + frac.length + n, v)
          else (1 + frac.length, .ok ())
        | [] => (1 + frac.length, .ok ())
    | e :: more =>
      if e = 'e' ∨ e = 'E' then
        let (n, v) := skipExponent more
        (1 + n, v)
      else (0, .ok ())
    | [] => (0, .ok ())
  match cs with
  | [] => (0, .error (.invalidNumber, false))
  | c :: rest =>
    if c = '0' then
      match rest with
      | d :: _ =>
        if Number.isDigit d then (1, .error (.invalidNumber, true))
        else
          let (n, v) := tail rest
          (1 + n, v)
      | [] => (1, .ok ())
    else if Number.isDigit c then
      let ds := rest.takeWhile Number.isDigit
      let (n, v) := tail (rest.drop ds.length)
      (1 + ds.length + n, v)
    else (1, .error (.invalidNumber, false))

namespace Reader

/-- Runs a number scan: takes what it consumed, then gives its result or fails where it
says. -/
def scannedNumber {α : Type} (scan : List Char → Nat × Except NumberFault α) : Reader α := do
  let (n, r) := scan (← get).rest
  take n
  match r with
  | .ok a => pure a
  | .error (f, ahead) => if ahead then failAhead f else fail f

/-- Reads a number whose sign, if any, is taken already. -/
def number (negative : Bool) : Reader Unexpected :=
  scannedNumber (scanNumber negative)

/-- Runs a scan of a string: takes what it consumed, then gives its result or fails where it
stopped, inside the next character if the fault says so. -/
def scanned {α : Type} (scan : List Char → Nat × Except StringFault α) : Reader α := do
  let (n, r) := scan (← get).rest
  take n
  match r with
  | .ok a => pure a
  | .error (f, cut) =>
    let c ← get
    throw { fault := f, position := some ⟨c.line, c.column + cut⟩ }

/-- Skips the rest of a string whose opening quote is taken already. -/
def skipString : Reader Unit :=
  scanned scanSkipString

/-- Reads the rest of a string whose opening quote is taken already. -/
def string : Reader String := do
  let cs ← scanned scanString
  return String.ofList cs

/-- Takes a colon between a name and its value. -/
def colon : Reader Unit := do
  match ← skipBlank with
  | some ':' => bump
  | some _ => failAhead .expectedColon
  | none => failAhead .eofWhileObject

/-- Closes the brackets of skipped values after a scalar or a bracket: gives the bracket
still open and those around it, or none when the outermost one closed.  `fuel` bounds the
number of brackets closed. -/
def closeSkipped : Nat → Bool → Char → List Char → Reader (Option (Char × List Char))
  | 0, _, _, _ => failAhead .eofWhileValue
  | fuel + 1, acceptComma, frame, stack => do
    match ← skipBlank with
    | some ',' =>
      if acceptComma then do
        bump
        return some (frame, stack)
      else return some (frame, stack)
    | some ch =>
      if (ch = ']' ∧ frame = '[') ∨ (ch = '\x7d' ∧ frame = '\x7b') then do
        bump
        match stack with
        | [] => return none
        | outer :: rest => closeSkipped fuel true outer rest
      else if acceptComma then
        failAhead (if frame = '[' then .expectedListCommaOrEnd else .expectedObjectCommaOrEnd)
      else return some (frame, stack)
    | none => failAhead (if frame = '[' then .eofWhileList else .eofWhileObject)

/-- Skips values: the brackets open around the next one are `frame` and `stack`.  `fuel`
bounds the number of values and brackets. -/
def skipFrom : Nat → List Char → Option Char → Reader Unit
  | 0, _, _ => failAhead .eofWhileValue
  | fuel + 1, stack, enclosing => do
    let opened ← match ← skipBlank with
      | none => failAhead .eofWhileValue
      | some 'n' => do bump; word ['u', 'l', 'l']; pure none
      | some 't' => do bump; word ['r', 'u', 'e']; pure none
      | some 'f' => do bump; word ['a', 'l', 's', 'e']; pure none
      | some '-' => do bump; scannedNumber skipNumber; pure none
      | some '"' => do bump; skipString; pure none
      | some ch =>
        if Number.isDigit ch then do
          scannedNumber skipNumber
          pure none
        else if ch = '[' ∨ ch = '\x7b' then do
          bump
          pure (some ch)
        else failAhead .expectedValue
    -- the bracket to continue in, and those around it
    let (accept, frame, outer) ← match opened, enclosing with
      | some ch, _ => pure (false, ch, enclosing.toList ++ stack)
      | none, some ch => pure (true, ch, stack)
      | none, none => return
    match ← closeSkipped ((← get).rest.length + 1) accept frame outer with
    | none => return
    | some (frame, stack) =>
      if frame = '\x7b' then
        match ← skipBlank with
        | some '"' => do bump; skipString
        | some _ => failAhead .keyMustBeString
        | none => failAhead .eofWhileObject
        colon
      skipFrom fuel stack (some frame)

/-- Skips one value of any form, checking its syntax. -/
def skipValue : Reader Unit := do
  skipFrom (2 * (← get).rest.length + 2) [] none

end Reader

end Json
end RestQuery
