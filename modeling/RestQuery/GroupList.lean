import RestQuery.Text.Blank
import RestQuery.Text.Split

/-!
# Group lists

The parameters `attributes` and `order` hold several groups separated by
semicolons, each optionally wrapped in square brackets:
`[,id,name];[orders,total]`.  A group is trimmed, then loses every `[` at its
start and every `]` at its end; groups that are then empty are dropped.
-/

namespace RestQuery
namespace GroupList

/-- Removes every leading `[` and every trailing `]`. -/
def unwrap (s : String) : String :=
  String.ofList ((s.toList.dropWhile (· = '[')).reverse.dropWhile (· = ']')).reverse

/-- The non-empty groups of a group list, in order. -/
def split (s : String) : List String :=
  (Text.split s ';').map (fun g => unwrap (Text.trim g)) |>.filter (fun g => !g.isEmpty)

end GroupList
end RestQuery
