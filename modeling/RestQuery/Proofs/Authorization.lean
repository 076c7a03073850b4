import RestQuery.Request.Translate
import RestQuery.Proofs.CompiledShape

/-!
# Access by method name

A request names its method by text and its model by route.  The text is
recognised after full Unicode upper-casing, so it names a method exactly
when its upper case is `GET`, `POST`, `PATCH` or `DELETE`; the route names
the model registered under its model name; and the method is let through
when the model's table is on that method's own list of enabled tables.  A
text that names no method is refused as an invalid parameter, a route that
names no model as not found, and a table that is not on the list as
forbidden, in this order.

Upper-casing a text that differs from a method's name only in the case of
ASCII letters gives that name, so every such spelling is recognised.  It is
not the only one: upper-casing also maps a few characters beyond ASCII to
ASCII capitals, and the long `ſ` (U+017F) becomes `S`, so `poſt` is `POST`.

**Results.**
* `Method.parse_eq_ok_iff_upperText`, `Method.parse_eq_error_iff_upperText`: what a method text
  names.
* `upperText_of_asciiUpper`: a spelling that differs from a name only in
  ASCII case upper-cases to that name.
* `EnabledTables.check_eq_ok_iff`: a method is enabled on the tables of its
  own list.
* `authorize_methodText`: the outcome of authorizing a request by its method
  text and route.
* `longS_post`: `poſt` is let through as `POST`.
-/

namespace RestQuery

open Schema Request

namespace Schema
namespace Method

/-- A method text names the method whose name is its upper case. -/
theorem parse_eq_ok_iff_upperText {s : String} {m : Method} : parse s = .ok m ↔ Text.Case.upperText s = m.name := by
  unfold parse
  split <;> rename_i h
  · rw [h]; cases m <;> simp [name]
  · rw [h]; cases m <;> simp [name]
  · rw [h]; cases m <;> simp [name]
  · rw [h]; cases m <;> simp [name]
  · -- no name matched: each method's name is excluded by one of the failed patterns
    cases m <;> simp_all [name]

/-- A method text whose upper case is no method's name is refused as an invalid parameter. -/
theorem parse_eq_error_iff_upperText {s : String} :
    (∃ e, parse s = .error e) ↔ ∀ m : Method, Text.Case.upperText s ≠ m.name := by
  constructor
  · rintro ⟨e, he⟩ m hm
    rw [parse_eq_ok_iff_upperText.mpr hm] at he
    cases he
  · intro h
    cases hp : parse s with
    | error e => exact ⟨e, rfl⟩
    | ok m => exact absurd (parse_eq_ok_iff_upperText.mp hp) (h m)

/-- Method names are written in ASCII. -/
theorem name_ascii (m : Method) : ∀ c ∈ m.name.toList, c.toNat < 0x80 := by
  have h : (m.name.toList.all fun c => decide (c.toNat < 0x80)) = true := by
    cases m <;> rfl
  simpa using h

theorem parse_error {s : String} {e : RequestError} (h : parse s = .error e) :
    e = .invalidParameter "method" s .unknownMethod := by
  unfold parse at h
  split at h
  · cases h
  · cases h
  · cases h
  · cases h
  · cases h
    rfl

end Method

namespace EnabledTables

/-- A method is enabled on a table exactly when the table is on the method's own list. -/
theorem check_eq_ok_iff {e : EnabledTables} {m : Method} {table : String} :
    e.check m table = .ok () ↔ table ∈ e.tables m := by
  unfold check allows
  split <;> rename_i h <;> simpa using h

theorem check_error {e : EnabledTables} {m : Method} {table : String} (h : table ∉ e.tables m) :
    e.check m table = .error (.forbidden m.name table) := by
  unfold check allows
  rw [if_neg (by simpa using h)]

end EnabledTables
end Schema

namespace Text
namespace Case

/-- Upper-casing a text that differs from `t` only in the case of ASCII letters, `t` written in
ASCII capitals and digits, gives `t`: every character of such a text is ASCII, and ASCII characters
are upper-cased by themselves. -/
theorem upperText_of_asciiUpper {s t : String} (ht : ∀ c ∈ t.toList, c.toNat < 0x80)
    (h : s.toList.map Char.toUpper = t.toList) : upperText s = t := by
  -- a character whose ASCII capital is ASCII is itself ASCII: `toUpper` moves only `a` to `z`
  have hascii : ∀ c ∈ s.toList, c.toNat < 0x80 := by
    intro c hc
    have hlt := ht _ (h ▸ List.mem_map_of_mem hc)
    unfold Char.toUpper at hlt
    split at hlt
    · rename_i hl
      have hz : c.val.toNat ≤ 122 := UInt32.le_iff_toNat_le.mp hl.2
      exact Nat.lt_of_le_of_lt hz (by decide)
    · exact hlt
  have hflat : s.toList.flatMap upper = s.toList.map Char.toUpper := by
    rw [List.map_eq_flatMap]
    exact List.flatMap_congr fun c hc => upper_ascii c (hascii c hc)
  unfold upperText
  rw [hflat, h, String.ofList_toList]

end Case
end Text

namespace Request

/-- Authorizing by method text and route: allowed exactly when the text upper-cased is the name of
a method, the route names a registered model, and that model's table is on the method's own list
of enabled tables.  A text that differs from a method's name only in ASCII case names that method.
Otherwise the first of these to fail decides the error: a text that names no method is an invalid
parameter, a route that names no model is not found, and a table off the list is forbidden for that
method. -/
theorem authorize_methodText (tr : Translator) (s route : String) :
    (∀ m : Method, s.toList.map Char.toUpper = m.name.toList → Method.parse s = .ok m) ∧
    (((Method.parse s).bind fun m => tr.authorize m route) = .ok () ↔
      ∃ m : Method, Text.Case.upperText s = m.name ∧
        ∃ M, tr.registry.modelForRoute route = .ok M ∧ M.table ∈ tr.access.tables m) ∧
    ((∀ m : Method, Text.Case.upperText s ≠ m.name) →
      ((Method.parse s).bind fun m => tr.authorize m route) =
        .error (.invalidParameter "method" s .unknownMethod)) ∧
    (∀ m : Method, Text.Case.upperText s = m.name → tr.registry.get (Naming.pascal route) = none →
      ((Method.parse s).bind fun m => tr.authorize m route) =
        .error (.modelNotFound (Naming.pascal route))) ∧
    (∀ (m : Method) (M : Model), Text.Case.upperText s = m.name →
      tr.registry.get (Naming.pascal route) = some M → M.table ∉ tr.access.tables m →
      ((Method.parse s).bind fun m => tr.authorize m route) = .error (.forbidden m.name M.table)) := by
  have hroute : ∀ {M : Model}, tr.registry.get (Naming.pascal route) = some M →
      tr.registry.modelForRoute route = .ok M := by
    intro M hM
    simp [Registry.modelForRoute, hM]
  refine ⟨fun m hm => ?_, ⟨fun h => ?_, fun ⟨m, hm, M, hM, ht⟩ => ?_⟩, fun h => ?_,
    fun m hm hnone => ?_, fun m M hm hM ht => ?_⟩
  · exact Method.parse_eq_ok_iff_upperText.mpr (Text.Case.upperText_of_asciiUpper (Method.name_ascii m) hm)
  · obtain ⟨m, hm, ha⟩ := Sql.bind_eq_ok.mp h
    obtain ⟨M, hM, hc⟩ := Sql.bind_eq_ok.mp ha
    exact ⟨m, Method.parse_eq_ok_iff_upperText.mp hm, M, hM, EnabledTables.check_eq_ok_iff.mp hc⟩
  · rw [Method.parse_eq_ok_iff_upperText.mpr hm]
    show (tr.registry.modelForRoute route).bind (fun M => tr.access.check m M.table) = .ok ()
    rw [hM]
    exact EnabledTables.check_eq_ok_iff.mpr ht
  · obtain ⟨e, he⟩ := Method.parse_eq_error_iff_upperText.mpr h
    rw [he, Method.parse_error he]
    rfl
  · rw [Method.parse_eq_ok_iff_upperText.mpr hm]
    show (tr.registry.modelForRoute route).bind (fun M => tr.access.check m M.table) = _
    simp [Registry.modelForRoute, hnone]
    rfl
  · rw [Method.parse_eq_ok_iff_upperText.mpr hm]
    show (tr.registry.modelForRoute route).bind (fun M => tr.access.check m M.table) = _
    rw [hroute hM]
    exact EnabledTables.check_error ht

/-- A shop that takes new orders. -/
def orderDesk : Translator :=
  { registry := ⟨ServiceConfig.builtin.models⟩, access := { get := ["orders"], post := ["orders"] } }

/-- `poſt`, with the long `s`, differs from every method name in more than ASCII case, and yet it
is let through as `POST`. -/
theorem longS_post :
    (∀ m : Method, "poſt".toList.map Char.toUpper ≠ m.name.toList) ∧
    Method.parse "poſt" = .ok .post ∧
    ((Method.parse "poſt").bind fun m => orderDesk.authorize m "orders") = .ok () := by
  refine ⟨fun m => by cases m <;> decide, rfl, rfl⟩

end Request
end RestQuery
