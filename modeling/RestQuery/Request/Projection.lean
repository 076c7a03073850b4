import RestQuery.Request.Path
import RestQuery.GroupList
import RestQuery.Naming

/-!
# Projected columns

The `attributes` parameter is a group list; a group is a path followed by
columns, all separated by commas: `,id,name;orders,total`.  The empty path is
the root.  A group's columns are added to those already projected from its
node, so a group with a path and no columns projects nothing from that node
but still marks it as projected.  An empty column makes the whole group
malformed, and that is found before the path is resolved.
-/

namespace RestQuery
namespace Request

open Plan Schema

/-- The columns of a group, each in column case, or the fault of the group. -/
def groupColumns (group : String) (columns : List String) : Except RequestError (List String) :=
  columns.mapM fun col =>
    let c := Text.trim col
    if c.isEmpty then .error (.malformedGroup "attributes" group) else .ok (Naming.columnCase c)

/-- Applies one group: projects its columns from the node of its path. -/
def projectGroup (reg : Registry) (group : String) : Build Unit := do
  let tokens := Text.split group ','
  let path := Text.trim (tokens.headD "")
  let columns ← liftExcept (groupColumns group (tokens.drop 1))
  let node ← resolve reg 0 path
  note (.columnsProjected path columns)
  updateTree fun t => t.modify node fun n => { n with attributes := some (n.attributes.getD [] ++ columns) }

/-- Applies every group of an `attributes` value, in order. -/
def parseAttributes (reg : Registry) (input : String) : Build Unit :=
  (GroupList.split input).forM (projectGroup reg)

end Request
end RestQuery
