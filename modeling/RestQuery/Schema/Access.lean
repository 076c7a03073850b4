import RestQuery.RequestError
import RestQuery.Text.Case.Upper

/-!
# Methods and access

A request is made with one of four HTTP methods.  A method name is
recognised after full Unicode upper-casing, so `gEt` is `GET` but `get `
(with a blank) is refused.

The service enables each method on a list of tables of its own; a request is
allowed when the table of its model is in the list of its method.

**Results.**
* `parse_name`: the name of a method is recognised as that method.
-/

namespace RestQuery
namespace Schema

/-- An HTTP method the service understands. -/
inductive Method where
  | get
  | post
  | patch
  | delete
  deriving Repr, DecidableEq

namespace Method

/-- The name of a method, in capitals. -/
def name : Method → String
  | .get => "GET"
  | .post => "POST"
  | .patch => "PATCH"
  | .delete => "DELETE"

/-- Recognises a method name, whatever its case. -/
def parse (s : String) : Except RequestError Method :=
  match Text.Case.upperText s with
  | "GET" => .ok .get
  | "POST" => .ok .post
  | "PATCH" => .ok .patch
  | "DELETE" => .ok .delete
  | _ => .error (.invalidParameter "method" s .unknownMethod)

theorem parse_name (m : Method) : parse m.name = .ok m := by
  cases m <;> rfl

end Method

/-- The tables on which each method is enabled. -/
structure EnabledTables where
  get : List String := []
  post : List String := []
  patch : List String := []
  delete : List String := []
  deriving Repr, DecidableEq

namespace EnabledTables

/-- The tables enabled for a method. -/
def tables (e : EnabledTables) : Method → List String
  | .get => e.get
  | .post => e.post
  | .patch => e.patch
  | .delete => e.delete

/-- Whether a method is enabled on a table. -/
def allows (e : EnabledTables) (m : Method) (table : String) : Bool :=
  (e.tables m).contains table

/-- Lets a request through, or says that its method is not enabled on the table. -/
def check (e : EnabledTables) (m : Method) (table : String) : Except RequestError Unit :=
  if e.allows m table then .ok () else .error (.forbidden m.name table)

end EnabledTables
end Schema
end RestQuery
