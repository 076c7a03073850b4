import RestQuery.Json.Error

/-!
# Shapes of documents

A shape says what a document must look like for a reader to accept it: a
string, a boolean, something or null, a sequence of one shape, one of a few
names, or a record, whose fields each have a shape and perhaps a default.

Checking a parsed value against a shape gives the value in a normal form,
or the first fault: a record becomes an object with every field in the
order of the shape, defaults filled in and unknown fields dropped; a choice
becomes its name.  A record may also be given as an array of its fields in
order; missing trailing fields take their defaults, and further elements
are refused.  The fields of an object are checked in the order they come,
then the missing ones in the order of the shape.

**Results.**
* `check_string`: a string checks as a string.
-/

namespace RestQuery
namespace Json

/-- The shape a document must have. -/
inductive Shape where
  | string
  | boolean
  /-- The inner shape, or null. -/
  | option (inner : Shape)
  | seq (item : Shape)
  /-- One of the names, as a string. -/
  | choice (names : List String)
  /-- Named fields, each with a shape and perhaps a default. -/
  | record (name : String) (fields : List (String × Shape × Option Value))

namespace Shape

/-- How a reader names what it expected. -/
def expected : Shape → String
  | .string => "a string"
  | .boolean => "a boolean"
  | .option _ => "option"
  | .seq _ => "a sequence"
  | .choice _ => "string or map"
  | .record name _ => "struct " ++ name

/-- Whether null is accepted. -/
def nullable : Shape → Bool
  | .option _ => true
  | _ => false

/-- The shape under an option. -/
def core : Shape → Shape
  | .option s => s
  | s => s

/-- The description of a record given as an array. -/
def recordLength (name : String) (count : Nat) : String :=
  "struct " ++ name ++ " with " ++ toString count ++ " elements"

/-- The object of a record from the fields found, in the order of the shape, with defaults
for the missing ones. -/
def assemble (fields : List (String × Shape × Option Value)) (found : List (String × Value)) :
    Except Fault Value :=
  (fields.mapM fun ((name, shape, default) : String × Shape × Option Value) =>
    (match found.lookup name, default with
    | some v, _ => .ok (name, v)
    | none, some d => .ok (name, d)
    | none, none => if shape.nullable then .ok (name, .null) else .error (.missingField name) :
      Except Fault (String × Value))).map .obj

/-- The value of a choice. -/
def choose (names : List String) (name : String) : Except Fault Value :=
  if names.contains name then .ok (.str name) else .error (.unknownVariant name names)

/-- Completes a record given as a too short array: the remaining fields take their
defaults, and a field without one is a fault. -/
def fillDefaults (name : String) (count : Nat) :
    List (String × Shape × Option Value) → List (String × Value) → Except Fault Value
  | [], found => .ok (.obj found)
  | (field, _, some d) :: rest, found => fillDefaults name count rest (found ++ [(field, d)])
  | (_, _, none) :: _, found => .error (.invalidLength found.length (recordLength name count))

/-- Checks a choice given as an object of one name whose value must be null. -/
def checkUnit (names : List String) (name : String) : Value → Except Fault Value
  | .null => choose names name
  | v => do
    let _ ← choose names name
    .error (.invalidType v.unexpected "unit")

mutual

/-- Checks a value against a shape. -/
def check (s : Shape) : Value → Except Fault Value
  | .null => if s.nullable then .ok .null else .error (.invalidType .null s.core.expected)
  | .bool b =>
    match s.core with
    | .boolean => .ok (.bool b)
    | c => .error (.invalidType (.bool b) c.expected)
  | .str t =>
    match s.core with
    | .string => .ok (.str t)
    | .choice names => choose names t
    | c => .error (.invalidType (.str t) c.expected)
  | .arr items =>
    match s.core with
    | .seq item => (checkItems item items).map .arr
    | .record name fields => checkPositional name fields.length fields items []
    | c => .error (.invalidType .seq c.expected)
  | .obj kvs =>
    match s.core with
    | .record _ fields => checkFields fields kvs [] >>= assemble fields
    | .choice names =>
      match kvs with
      | [(name, v)] => checkUnit names name v
      | _ => .error (.invalidValue .map "map with a single key")
    | c => .error (.invalidType .map c.expected)
  | v => .error (.invalidType v.unexpected s.core.expected)

/-- Checks every element of a sequence. -/
def checkItems (item : Shape) : List Value → Except Fault (List Value)
  | [] => .ok []
  | v :: rest => do
    let w ← check item v
    let ws ← checkItems item rest
    return w :: ws

/-- Checks the fields of an object in order, dropping unknown ones. -/
def checkFields (fields : List (String × Shape × Option Value)) :
    List (String × Value) → List (String × Value) → Except Fault (List (String × Value))
  | [], found => .ok found
  | (k, v) :: rest, found =>
    match fields.find? (·.1 == k) with
    | some (_, shape, _) => do
      let w ← check shape v
      checkFields fields rest (found ++ [(k, w)])
    | none => checkFields fields rest found

/-- Checks a record given as an array, field by field. -/
def checkPositional (name : String) (count : Nat) (fields : List (String × Shape × Option Value)) :
    List Value → List (String × Value) → Except Fault Value
  | [], found => fillDefaults name count (fields.drop found.length) found
  | v :: more, found =>
    match fields[found.length]? with
    | some (field, shape, _) => do
      let w ← check shape v
      checkPositional name count fields more (found ++ [(field, w)])
    | none => .error (.invalidLength (found.length + more.length + 1) "fewer elements in array")

end

theorem check_string (t : String) : check .string (.str t) = .ok (.str t) := by
  simp [check, core]

end Shape
end Json
end RestQuery
