import RestQuery.Json.Reader
import RestQuery.Json.Shape

/-!
# Reading a document of a shape from text

The text is read once from left to right, and the shape decides at every
point what may come: the first fault met in this order is the one
reported.  Reading gives the value in the normal form of `Shape.check`.

* A value of the wrong kind is reported once the scalar standing there has
  been read (`invalid type: string "yes", expected a boolean`); a bracket
  is reported where it stands, and anything else is `expected value`.
* A record is an object, or an array of its fields in order.  The fields of
  an object are read in the order they come; a known field given twice is
  refused when its name has been read, and an unknown field is skipped
  after its syntax is checked.  A missing field is reported after the
  closing brace has been looked for.
* Arrays and objects nest at most 127 deep.
* After the document only blanks may follow.
-/

namespace RestQuery
namespace Json
namespace Reader

/-- Fails with a fault that has no place yet. -/
def liftFault {α : Type} : Except Fault α → Reader α
  | .ok a => pure a
  | .error f => failHere f

/-- The outcome of a bracketed part and of its closing: the part's fault comes first. -/
def settle {α : Type} : Except Error α → Except Error Unit → Reader α
  | .ok a, .ok _ => pure a
  | .error e, _ => throw e
  | .ok _, .error e => throw e

/-- Reports what stands where a value of another kind was expected. -/
def wrongKind {α : Type} (expected : String) : Reader α := do
  let found ← match ← peek with
    | some 'n' => do bump; word ['u', 'l', 'l']; pure (some Unexpected.null)
    | some 't' => do bump; word ['r', 'u', 'e']; pure (some (Unexpected.bool true))
    | some 'f' => do bump; word ['a', 'l', 's', 'e']; pure (some (Unexpected.bool false))
    | some '-' => do bump; some <$> number true
    | some '"' => do bump; let s ← string; pure (some (Unexpected.str s))
    | some '[' => pure (some Unexpected.seq)
    | some '\x7b' => pure (some Unexpected.map)
    | some ch => if Number.isDigit ch then some <$> number false else pure none
    | none => pure none
  match found with
  | some u => fail (.invalidType u expected)
  | none => failAhead .expectedValue

/-- Reads a string. -/
def readString (expected : String) : Reader String := placed do
  match ← skipBlank with
  | none => failAhead .eofWhileValue
  | some '"' => do bump; string
  | some _ => wrongKind expected

/-- Reads a boolean. -/
def readBool : Reader Bool := placed do
  match ← skipBlank with
  | none => failAhead .eofWhileValue
  | some 't' => do bump; word ['r', 'u', 'e']; pure true
  | some 'f' => do bump; word ['a', 'l', 's', 'e']; pure false
  | some _ => wrongKind "a boolean"

/-- Reads null. -/
def readUnit : Reader Unit := placed do
  match ← skipBlank with
  | none => failAhead .eofWhileValue
  | some 'n' => do bump; word ['u', 'l', 'l']
  | some _ => wrongKind "unit"

/-- Whether another element follows in an array. -/
def hasNext (first : Bool) : Reader Bool := do
  match ← skipBlank with
  | none => failAhead .eofWhileList
  | some ']' => pure false
  | some ch =>
    if first then pure true
    else if ch = ',' then do
      bump
      match ← skipBlank with
      | some ']' => failAhead .trailingComma
      | some _ => pure true
      | none => failAhead .eofWhileValue
    else failAhead .expectedListCommaOrEnd

/-- The name of the next field of an object, or none at its end. -/
def nextKey (first : Bool) : Reader (Option String) := do
  let ch ← match ← skipBlank with
    | some '\x7d' => return none
    | some ',' => if first then pure (some ',') else do bump; skipBlank
    | some ch => if first then pure (some ch) else failAhead .expectedObjectCommaOrEnd
    | none => failAhead .eofWhileObject
  match ch with
  | some '"' => do bump; some <$> string
  | some '\x7d' => failAhead .trailingComma
  | some _ => failAhead .keyMustBeString
  | none => failAhead .eofWhileValue

/-- Closes an array. -/
def endSeq : Reader Unit := do
  match ← skipBlank with
  | some ']' => bump
  | some ',' => do
    bump
    match ← skipBlank with
    | some ']' => failAhead .trailingComma
    | _ => failAhead .trailingCharacters
  | some _ => failAhead .trailingCharacters
  | none => failAhead .eofWhileList

/-- Closes an object. -/
def endMap : Reader Unit := do
  match ← skipBlank with
  | some '\x7d' => bump
  | some ',' => failAhead .trailingComma
  | some _ => failAhead .trailingCharacters
  | none => failAhead .eofWhileObject

/-- Reads the name of a choice. -/
def choiceName (names : List String) : Reader Value := placed do
  match ← skipBlank with
  | none => failAhead .eofWhileValue
  | some '"' => do
    bump
    let n ← string
    liftFault (Shape.choose names n)
  | some _ => wrongKind "variant identifier"

mutual

/-- Reads a value of a shape; `depth` is how many more brackets may open, plus one. -/
def readShape (depth : Nat) : Shape → Reader Value
  | .string => Value.str <$> readString "a string"
  | .boolean => Value.bool <$> readBool
  | .option inner => do
    match ← skipBlank with
    | some 'n' => do bump; word ['u', 'l', 'l']; pure .null
    | _ => readShape depth inner
  | .seq item => placed do
    match ← skipBlank with
    | none => failAhead .eofWhileValue
    | some '[' =>
      if h : depth ≤ 1 then failAhead .recursionLimit
      else do
        bump
        let r ← attempt (readItems (depth - 1) item true ((← get).rest.length + 1) [])
        let e ← attempt endSeq
        Value.arr <$> settle r e
    | some _ => wrongKind "a sequence"
  | .choice names => do
    match ← skipBlank with
    | some '\x7b' =>
      if depth ≤ 1 then failAhead .recursionLimit
      else do
        bump
        let v ← choiceName names
        colon
        readUnit
        match ← skipBlank with
        | some '\x7d' => do bump; pure v
        | some _ => fail .expectedValue
        | none => fail .eofWhileObject
    | some '"' => choiceName names
    | some _ => failAhead .expectedValue
    | none => failAhead .eofWhileValue
  | .record name fields => placed do
    match ← skipBlank with
    | none => failAhead .eofWhileValue
    | some '[' =>
      if h : depth ≤ 1 then failAhead .recursionLimit
      else do
        bump
        let r ← attempt (readPositional (depth - 1) name fields.length fields true [])
        let e ← attempt endSeq
        settle r e
    | some '\x7b' =>
      if h : depth ≤ 1 then failAhead .recursionLimit
      else do
        bump
        let r ← attempt do
          let found ← readFields (depth - 1) fields true ((← get).rest.length + 1) []
          liftFault (Shape.assemble fields found)
        let e ← attempt endMap
        settle r e
    | some _ => wrongKind ("struct " ++ name)
termination_by s => (depth, 0, sizeOf s)

/-- Reads the elements of an array; `fuel` bounds their number. -/
def readItems (depth : Nat) (item : Shape) (first : Bool) : Nat → List Value → Reader (List Value)
  | 0, _ => failAhead .eofWhileList
  | fuel + 1, acc => do
    if ← hasNext first then
      let v ← readShape depth item
      readItems depth item false fuel (acc ++ [v])
    else pure acc
termination_by fuel _ => (depth, fuel + 1, 0)

/-- Reads the fields of an object; `fuel` bounds their number. -/
def readFields (depth : Nat) (fields : List (String × Shape × Option Value)) (first : Bool) :
    Nat → List (String × Value) → Reader (List (String × Value))
  | 0, _ => failAhead .eofWhileObject
  | fuel + 1, found => do
    match ← nextKey first with
    | none => pure found
    | some key =>
      match fields.find? (·.1 == key) with
      | some (_, shape, _) =>
        if found.any (·.1 == key) then failHere (.duplicateField key)
        else do
          colon
          let v ← readShape depth shape
          readFields depth fields false fuel (found ++ [(key, v)])
      | none => do
        colon
        skipValue
        readFields depth fields false fuel found
termination_by fuel _ => (depth, fuel + 1, 0)

/-- Reads a record given as an array of its fields. -/
def readPositional (depth : Nat) (name : String) (count : Nat) :
    List (String × Shape × Option Value) → Bool → List (String × Value) → Reader Value
  | [], _, found => pure (.obj found)
  | (field, shape, default) :: rest, first, found => do
    if ← hasNext first then
      let v ← readShape depth shape
      readPositional depth name count rest false (found ++ [(field, v)])
    else
      match default with
      | some d => readPositional depth name count rest first (found ++ [(field, d)])
      | none => failHere (.invalidLength found.length (Shape.recordLength name count))
termination_by fs _ _ => (depth, 1, sizeOf fs)

end

/-- The greatest nesting of brackets, plus one. -/
def depthLimit : Nat := 128

end Reader

/-- Reads a document of a shape from text. -/
def Shape.readText (s : Shape) (text : String) : Except Error Value :=
  let whole : Reader Value := do
    let v ← Reader.readShape Reader.depthLimit s
    match ← Reader.skipBlank with
    | some _ => Reader.failAhead .trailingCharacters
    | none => pure v
  (whole.run.run { rest := text.toList }).1

end Json
end RestQuery
