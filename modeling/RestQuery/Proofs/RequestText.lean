import RestQuery.Proofs.TableAliases

/-!
# Where request text goes in the SQL

Text from a request reaches a compiled statement in three ways only.  It is
a bound value: the written statement holds a placeholder in its place, so
the text sent to the database is that of the statement with every value
erased (`Select.write_eraseValues`).  It is an identifier, written between
the dialect's quotes with every quote inside doubled, so that reading it
back from the written text stops exactly where it ends
(`readIdent_quoteIdent`).  Or it is the aggregate function, the one name
written as it is: translation lets only an identifier through and puts it
in upper case, and the other functions the compiler calls are its own
(`select_callNames`, `count_callNames`).

**Results.**
* `compile_requestText`: the three together, for every statement compiled
  from a translated request.
-/

namespace RestQuery
namespace Sql

open Plan Schema Request

mutual

/-- The names of the functions an expression calls. -/
def Expr.callNames : Expr → List String
  | .call name args => name :: Expr.listCallNames args
  | .tuple items => Expr.listCallNames items
  | .distinct inner => inner.callNames
  | .binary l _ r => l.callNames ++ r.callNames
  | .column _ _ | .star | .value _ | .null | .constant _ => []

/-- The names of the functions a list of expressions calls. -/
def Expr.listCallNames : List Expr → List String
  | [] => []
  | e :: rest => e.callNames ++ Expr.listCallNames rest

end

/-- The names of the functions a statement calls, in its items, joins, filter, grouping and
order. -/
def Select.callNames (s : Select) : List String :=
  s.items.flatMap (·.expr.callNames) ++ s.joins.flatMap (·.condition.callNames) ++
    (s.filter.map Expr.callNames).getD [] ++ s.groupBy.flatMap Expr.callNames ++
    s.orderBy.flatMap (·.1.callNames)

/-- A name that may be written into a statement as it is: a non-empty word of ASCII capitals,
digits and underscores. -/
def UpperWord (name : String) : Prop :=
  name ≠ "" ∧ ∀ ch ∈ name.toList, ch.isUpper = true ∨ ch.isDigit = true ∨ ch = '_'

/-- The function names a compiled statement may call. -/
def SafeCallName (name : String) : Prop :=
  name = "LOWER" ∨ name = "COUNT" ∨ UpperWord name

section Words

theorem toUpper_wordChar {c : Char} (h : c.isAlphanum = true ∨ c = '_') :
    c.toUpper.isUpper = true ∨ c.toUpper.isDigit = true ∨ c.toUpper = '_' := by
  by_cases hl : 'a'.val ≤ c.val ∧ c.val ≤ 'z'.val
  · -- a small letter is moved down to its capital
    left
    have hu : c.toUpper.val = c.val + ('A'.val - 'a'.val) := by
      delta Char.toUpper
      rw [dif_pos hl]
    have ha : 'a'.val.toNat = 97 := rfl
    have hz : 'z'.val.toNat = 122 := rfl
    have hA : 'A'.val.toNat = 65 := rfl
    have hZ : 'Z'.val.toNat = 90 := rfl
    have hd : ('A'.val - 'a'.val).toNat = 4294967264 := rfl
    simp only [UInt32.le_iff_toNat_le] at hl
    delta Char.isUpper
    simp only [hu, decide_eq_true_eq, ge_iff_le, UInt32.le_iff_toNat_le,
      UInt32.toNat_add, hd]
    omega
  · have hc : c.toUpper = c := by
      delta Char.toUpper
      rw [dif_neg hl]
    rw [hc]
    rcases h with h | h
    · delta Char.isAlphanum Char.isAlpha Char.isLower at h
      simp only [Bool.or_eq_true] at h
      rcases h with (h | h) | h
      · exact Or.inl h
      · simp only [Bool.and_eq_true, decide_eq_true_eq] at h
        exact absurd h hl
      · exact Or.inr (Or.inl h)
    · exact Or.inr (Or.inr h)

/-- An identifier put in upper case is a word of capitals, digits and underscores. -/
theorem upperWord_of_isIdentifier {s : String} (h : isIdentifier s = true) :
    UpperWord (s.map Char.toUpper) := by
  simp only [isIdentifier, Bool.and_eq_true, Bool.not_eq_true', String.isEmpty_eq_false_iff,
    String.all_bool_eq, List.all_eq_true, Bool.or_eq_true, decide_eq_true_eq] at h
  obtain ⟨hne, hall⟩ := h
  refine ⟨fun he => hne ?_, fun ch hch => ?_⟩
  · have := congrArg String.length he
    simp only [String.length_map, String.length_empty] at this
    exact String.length_eq_zero_iff.mp this
  · rw [String.toList_map, List.mem_map] at hch
    obtain ⟨c, hc, rfl⟩ := hch
    exact toUpper_wordChar (hall c hc)

end Words

section CallNames

variable {reg : Registry} {c : Compiler} {P : QueryPlan}

theorem columnAt_callNames (p : QueryPlan) (path : List String) (column : String) :
    (columnAt p path column).callNames = [] := by
  simp [columnAt, Expr.callNames]

theorem listCallNames_values :
    ∀ {items : List Expr}, (∀ e ∈ items, ∃ v, e = .value v) → Expr.listCallNames items = []
  | [], _ => rfl
  | e :: rest, h => by
    obtain ⟨v, rfl⟩ := h e List.mem_cons_self
    rw [Expr.listCallNames, listCallNames_values fun e he => h e (List.mem_cons_of_mem _ he)]
    rfl

theorem Operand.callNames {e : Expr} (h : Operand e) : e.callNames = [] := by
  cases h with
  | null => rfl
  | value v => rfl
  | list items h => rw [Expr.callNames, listCallNames_values h]
  | range a b => rfl

/-- The one function a compiled condition calls is `LOWER`, for a match that ignores case. -/
theorem compileCondition_callNames {c : Condition} {e : Expr} (h : compileCondition P c = .ok e) :
    ∀ n ∈ e.callNames, n = "LOWER" := by
  obtain ⟨lhs, op, rhs, rfl, hrhs, hlhs⟩ := compileCondition_eq_ok h
  intro n hn
  rcases hlhs with rfl | rfl
  · simp [Expr.callNames, hrhs.callNames, columnAt_callNames] at hn
  · simpa [Expr.callNames, Expr.listCallNames, hrhs.callNames, columnAt_callNames] using hn

theorem compileFilter_callNames {f : FilterTree} {e : Expr} {opts : List Optimization}
    (h : c.compileFilter P f = .ok (e, opts)) : ∀ n ∈ e.callNames, n = "LOWER" := by
  intro n hn
  rcases compileFilter_collect Expr.callNames (fun _ _ _ => by simp [Expr.callNames]) rfl rfl h hn
    with ⟨first, -, vs, rfl⟩ | ⟨cond, -, ce, hce, hn⟩
  · -- an `IN` list calls nothing
    rw [Expr.callNames, columnAt_callNames, (Operand.operands vs).callNames] at hn
    cases hn
  · exact compileCondition_callNames hce n hn

theorem aggregateExpr_callNames (a : Aggregate) : (Compiler.aggregateExpr P a).callNames = [a.function] := by
  unfold Compiler.aggregateExpr
  split <;> split <;> simp [Expr.callNames, Expr.listCallNames]

/-- A statement that shares the joins and the filter of `base` calls only safe names when its
items, grouping and order do: the joins call nothing and the filter only `LOWER`. -/
theorem shared_callNames {b s : Select} {opts : List Optimization} (hb : c.base P = .ok (b, opts))
    (hjoins : s.joins = b.joins) (hfilter : s.filter = b.filter)
    (hrest : ∀ n ∈ s.items.flatMap (·.expr.callNames) ++ s.groupBy.flatMap Expr.callNames ++
      s.orderBy.flatMap (·.1.callNames), SafeCallName n) :
    ∀ n ∈ s.callNames, SafeCallName n := by
  obtain ⟨-, -, -, -, -, -, -, hj, hf⟩ := base_eq_ok hb
  intro n hn
  simp only [Select.callNames, List.mem_append] at hn
  rcases hn with (((hn | hn) | hn) | hn) | hn
  · exact hrest n (by simp only [List.mem_append]; exact .inl (.inl hn))
  · -- a join compares two columns
    rw [hjoins, List.mem_flatMap] at hn
    obtain ⟨j, hjm, hn⟩ := hn
    obtain ⟨x, -, -, -, r, -, hcond⟩ := forall₂_exists_mem_left hj hjm
    rw [hcond] at hn
    cases hn
  · rw [hfilter] at hn
    cases he : b.filter with
    | none => simp [he] at hn
    | some e =>
      rw [he, Option.map_some, Option.getD_some] at hn
      obtain ⟨f, -, o, hc⟩ := hf e he
      exact .inl (compileFilter_callNames hc n hn)
  · exact hrest n (by simp only [List.mem_append]; exact .inl (.inr hn))
  · exact hrest n (by simp only [List.mem_append]; exact .inr hn)

/-- The main statement calls `LOWER` in its filter and the aggregate function, an identifier of
the request put in upper case; nothing else. -/
theorem select_callNames (hT : Translated reg P) {s : Select} {opts : List Optimization}
    (hs : c.selectStatement P = .ok (s, opts)) : ∀ n ∈ s.callNames, SafeCallName n := by
  obtain ⟨b, hb, -, -, hjoins, hfilter, hitems, hgroup, horder⟩ := selectStatement_eq_ok hs
  refine shared_callNames hb hjoins hfilter fun n hn => ?_
  simp only [List.mem_append, List.mem_flatMap] at hn
  rcases hn with (⟨it, hit, hn⟩ | ⟨g, hg, hn⟩) | ⟨e, he, hn⟩
  · rw [hitems, List.mem_append, List.mem_append] at hit
    rcases hit with (hit | hit) | hit
    · -- a column of a node
      obtain ⟨i, -, col, hcol⟩ := nodeItems_expr hT.wellFormed.length_pos hit
      rw [hcol] at hn
      cases hn
    · -- the aggregate, whose function translation upper-cased from an identifier
      obtain ⟨a, ha, rfl⟩ := Option.map_eq_some_iff.mp (Option.mem_toList.mp hit)
      rw [aggregateExpr_callNames, List.mem_singleton] at hn
      obtain ⟨w, hw, hfun⟩ := hT.function_name a ha
      rw [hn, hfun]
      exact .inr (.inr (upperWord_of_isIdentifier hw))
    · -- the grouping column
      obtain ⟨g, -, rfl⟩ := Option.map_eq_some_iff.mp (Option.mem_toList.mp hit)
      rw [columnAt_callNames] at hn
      cases hn
  · rw [hgroup] at hg
    obtain ⟨g', -, rfl⟩ := Option.map_eq_some_iff.mp (Option.mem_toList.mp hg)
    rw [columnAt_callNames] at hn
    cases hn
  · rw [horder, List.mem_map] at he
    obtain ⟨o, -, rfl⟩ := he
    rw [columnAt_callNames] at hn
    cases hn

/-- The count statement calls `COUNT`, and `LOWER` in its filter; nothing else. -/
theorem count_callNames {s : Select} (hs : c.countStatement P = .ok s) :
    ∀ n ∈ s.callNames, SafeCallName n := by
  obtain ⟨b, opts, hb, -, -, hjoins, hfilter, hgroup, horder, counted, hitems, hcounted⟩ :=
    countStatement_eq_ok hs
  refine shared_callNames hb hjoins hfilter fun n hn => ?_
  -- the counted expression is a star or the root's key
  have hc : counted.callNames = [] := by
    rcases hcounted with rfl | ⟨pk, rfl⟩ <;> rfl
  simp only [hitems, hgroup, horder, List.flatMap_cons, List.flatMap_nil, List.append_nil,
    Expr.callNames, Expr.listCallNames, hc, List.mem_singleton] at hn
  exact .inr (.inl hn)

end CallNames

section Bound

mutual

/-- An expression with every bound value replaced by the same one. -/
def Expr.eraseValues : Expr → Expr
  | .value _ => .value (.bool false)
  | .tuple items => .tuple (Expr.eraseList items)
  | .call name args => .call name (Expr.eraseList args)
  | .distinct inner => .distinct inner.eraseValues
  | .binary l op r => .binary l.eraseValues op r.eraseValues
  | .column t c => .column t c
  | .star => .star
  | .null => .null
  | .constant b => .constant b

/-- A list of expressions with every bound value replaced by the same one. -/
def Expr.eraseList : List Expr → List Expr
  | [] => []
  | e :: rest => e.eraseValues :: Expr.eraseList rest

end

/-- A statement with every bound value replaced by the same one, the window included. -/
def Select.eraseValues (s : Select) : Select :=
  { s with
    items := s.items.map fun i => { i with expr := i.expr.eraseValues }
    joins := s.joins.map fun j => { j with condition := j.condition.eraseValues }
    filter := s.filter.map Expr.eraseValues
    groupBy := s.groupBy.map Expr.eraseValues
    orderBy := s.orderBy.map fun e => (e.1.eraseValues, e.2)
    limit := s.limit.map fun _ => 0
    offset := s.offset.map fun _ => 0 }

theorem Expr.eraseList_eq_map : ∀ es : List Expr, Expr.eraseList es = es.map Expr.eraseValues
  | [] => rfl
  | e :: rest => by rw [Expr.eraseList, Expr.eraseList_eq_map rest, List.map_cons]

theorem Expr.boundTighter_eraseValues (e : Expr) (op : BinOp) :
    e.eraseValues.boundTighter op = e.boundTighter op := by
  cases e <;> rfl

theorem Expr.binOp?_eraseValues (e : Expr) : e.eraseValues.binOp? = e.binOp? := by
  cases e <;> rfl

/-- Two outputs with the same text and as many bound values. -/
def Output.Similar (o o' : Output) : Prop :=
  o.text = o'.text ∧ o.values.length = o'.values.length

variable {st : Style} {o o' : Output}

theorem Output.Similar.push (h : o.Similar o') (s : String) : (o.push s).Similar (o'.push s) :=
  ⟨by rw [Output.push, Output.push, h.1], h.2⟩

/-- A bound value is written as a placeholder numbered by the values before it, whatever it is. -/
theorem Output.Similar.pushValue (h : o.Similar o') (v v' : Value) :
    (o.pushValue st false v).Similar (o'.pushValue st false v') := by
  simp only [Output.pushValue, Bool.false_eq_true, ↓reduceIte]
  exact ⟨by rw [h.1, h.2], by simp [h.2]⟩

theorem Output.Similar.wrap {w w' : Output → Output}
    (hw : ∀ {o o' : Output}, o.Similar o' → (w o).Similar (w' o')) (b : Bool) (h : o.Similar o') :
    (if b then (w (o.push "(")).push ")" else w o).Similar
      (if b then (w' (o'.push "(")).push ")" else w' o') := by
  cases b
  · simpa only [Bool.false_eq_true, ↓reduceIte] using hw h
  · simpa only [↓reduceIte] using (hw (h.push "(")).push ")"

mutual

/-- Writing an expression and its value-erased form from similar outputs gives similar outputs. -/
theorem writeExpr_eraseValues (st : Style) : ∀ (e : Expr) {o o' : Output}, o.Similar o' →
    (writeExpr st false e o).Similar (writeExpr st false e.eraseValues o')
  | .column t none, _, _, h => h.push _
  | .column t (some c), _, _, h => h.push _
  | .star, _, _, h => h.push _
  | .value v, _, _, h => h.pushValue v _
  | .null, _, _, h => h.push _
  | .constant b, _, _, h => h.push _
  | .tuple items, _, _, h => (writeList_eraseValues st items (h.push "(")).push ")"
  | .call name args, _, _, h => (writeList_eraseValues st args (h.push _)).push ")"
  | .distinct inner, _, _, h => by
    rw [writeExpr, Expr.eraseValues, writeExpr]
    split
    · exact writeExpr_eraseValues st inner (h.push _)
    · exact h.push _
  | .binary l op r, _, _, h => by
    -- the parentheses depend on the operands' shapes, which erasing keeps
    rw [writeExpr, Expr.eraseValues, writeExpr]
    simp only [Expr.boundTighter_eraseValues, Expr.binOp?_eraseValues]
    exact Output.Similar.wrap (writeExpr_eraseValues st r) _
      ((Output.Similar.wrap (writeExpr_eraseValues st l) _ h).push _)

/-- Writing a list of expressions and its value-erased form from similar outputs gives similar
outputs. -/
theorem writeList_eraseValues (st : Style) : ∀ (es : List Expr) {o o' : Output}, o.Similar o' →
    (writeList st false es o).Similar (writeList st false (Expr.eraseList es) o')
  | [], _, _, h => h
  | [e], _, _, h => writeExpr_eraseValues st e h
  | e :: e₂ :: rest, _, _, h =>
    writeList_eraseValues st (e₂ :: rest) ((writeExpr_eraseValues st e h).push ", ")

end

theorem writeEach_similar {α : Type} (sep : String) (write : α → Output → Output) (f : α → α)
    (hw : ∀ a {o o' : Output}, o.Similar o' → (write a o).Similar (write (f a) o')) :
    ∀ (xs : List α) {o o' : Output}, o.Similar o' →
      (writeEach sep write xs o).Similar (writeEach sep write (xs.map f) o')
  | [], _, _, h => h
  | [a], _, _, h => hw a h
  | a :: b :: rest, _, _, h => writeEach_similar sep write f hw (b :: rest) ((hw a h).push sep)

theorem foldl_similar {α : Type} (step : Output → α → Output) (f : α → α)
    (hs : ∀ a {o o' : Output}, o.Similar o' → (step o a).Similar (step o' (f a))) :
    ∀ (xs : List α) {o o' : Output}, o.Similar o' → (xs.foldl step o).Similar ((xs.map f).foldl step o')
  | [], _, _, h => h
  | a :: rest, _, _, h => foldl_similar step f hs rest (hs a h)

/-- Clauses applied one after another give similar outputs when each pair of clauses does. -/
theorem clauses_similar : ∀ {ws ws' : List (Output → Output)},
    List.Forall₂ (fun w w' => ∀ o o' : Output, o.Similar o' → (w o).Similar (w' o')) ws ws' →
    ∀ {o o' : Output}, o.Similar o' →
      (ws.foldl (fun o clause => clause o) o).Similar (ws'.foldl (fun o clause => clause o) o')
  | [], [], .nil, _, _, h => h
  | _ :: _, _ :: _, .cons hw hrest, _, _, h => clauses_similar hrest (hw _ _ h)

/-- The text of a bound statement does not depend on its values: it is the text of the statement
with every value erased. -/
theorem Select.write_eraseValues (st : Style) (s : Select) :
    (s.write st false).Similar (s.eraseValues.write st false) := by
  refine clauses_similar ?_ ⟨rfl, rfl⟩
  simp only [Select.clauses, Select.eraseValues, List.forall₂_cons, List.Forall₂.nil, and_true]
  refine ⟨?items, fun o o' h => h.push _, ?joins, ?filter, ?grouping, ?order, ?limit, ?offset⟩
  case items =>
    refine fun o o' h => writeEach_similar _ _ _ (fun i o o' h => ?_) s.items h
    obtain ⟨e, aliasName⟩ := i
    cases aliasName with
    | none => exact writeExpr_eraseValues st e h
    | some a => exact (writeExpr_eraseValues st e h).push _
  case joins =>
    exact fun o o' h => foldl_similar _ _ (fun j o o' h => writeExpr_eraseValues st j.condition (h.push _))
      s.joins h
  case filter =>
    intro o o' h
    cases s.filter with
    | none => exact h
    | some f => exact writeExpr_eraseValues st f (h.push _)
  case grouping =>
    intro o o' h
    simp only [List.isEmpty_map]
    split
    · exact h
    · rw [← Expr.eraseList_eq_map]
      exact writeList_eraseValues st s.groupBy (h.push _)
  case order =>
    intro o o' h
    simp only [List.isEmpty_map]
    split
    · exact h
    · refine writeEach_similar _ _ _ (fun e o o' h => ?_) s.orderBy (h.push _)
      exact (writeExpr_eraseValues st e.1 h).push _
  case limit =>
    intro o o' h
    cases s.limit with
    | none => exact h
    | some n => exact (h.push _).pushValue _ _
  case offset =>
    intro o o' h
    cases s.offset with
    | none => exact h
    | some n => exact (h.push _).pushValue _ _

theorem Select.bound_eraseValues (st : Style) (s : Select) :
    (s.bound st).1 = (s.eraseValues.bound st).1 :=
  (s.write_eraseValues st).1

end Bound

section Identifiers

/-- Reads the rest of a quoted identifier after its opening quote: a doubled quote stands for
one, a single one ends the identifier. -/
def readQuoted (q : Char) : List Char → Option (List Char × List Char)
  | [] => none
  | [c] => if c = q then some ([], []) else none
  | c :: d :: rest =>
    if c = q then
      if d = q then (readQuoted q rest).map fun r => (q :: r.1, r.2)
      else some ([], d :: rest)
    else (readQuoted q (d :: rest)).map fun r => (c :: r.1, r.2)

/-- Reads a quoted identifier at the start of a text, and what follows it. -/
def readIdent (q : Char) : List Char → Option (String × List Char)
  | c :: rest => if c = q then (readQuoted q rest).map fun r => (String.ofList r.1, r.2) else none
  | [] => none

theorem readQuoted_cons_of_ne {q c : Char} (hc : c ≠ q) {l : List Char} (hl : l ≠ []) :
    readQuoted q (c :: l) = (readQuoted q l).map fun r => (c :: r.1, r.2) := by
  cases l with
  | nil => exact absurd rfl hl
  | cons d rest => simp [readQuoted, hc]

/-- The body of a quoted identifier, its quotes doubled, reads back up to its closing quote. -/
theorem readQuoted_doubled (q : Char) {rest : List Char} (hr : rest.head? ≠ some q) :
    ∀ body : List Char,
      readQuoted q (body.flatMap (fun c => if c = q then [c, c] else [c]) ++ q :: rest) =
        some (body, rest)
  | [] => by
    cases rest with
    | nil => simp [readQuoted]
    | cons d rest =>
      have hd : d ≠ q := fun h => hr (by rw [h]; rfl)
      simp [readQuoted, hd]
  | c :: body => by
    by_cases hc : c = q
    · subst hc
      simp [readQuoted, readQuoted_doubled c hr body]
    · -- what follows a plain character still holds the closing quote
      simp only [List.flatMap_cons, hc, ↓reduceIte, List.cons_append, List.nil_append]
      rw [readQuoted_cons_of_ne hc (by simp), readQuoted_doubled q hr body]
      rfl

/-- A written identifier reads back whole, and reading stops where it ends. -/
theorem readIdent_quoteIdent (st : Style) (name : String) {rest : List Char}
    (hr : rest.head? ≠ some st.quote) :
    readIdent st.quote ((quoteIdent st name).toList ++ rest) = some (name, rest) := by
  simp only [quoteIdent, String.toList_ofList, List.cons_append, List.nil_append, List.append_assoc,
    readIdent, ↓reduceIte]
  rw [readQuoted_doubled st.quote hr]
  simp

end Identifiers

/-- Request text reaches a statement compiled from a translated request in three ways only.  The
functions it calls, the one kind of name written as it is, are `LOWER`, `COUNT` and the aggregate
function, a word of capitals, digits and underscores; a value is a placeholder, so the text is
that of the statement with every value erased; and an identifier is quoted so that it reads back
whole, up to its closing quote. -/
theorem compile_requestText {tr : Translator} {route : String} {p : Params} {r : PlannedRequest}
    (h : (tr.translate route p).1 = .ok r) (c : Compiler) {out : Compiled}
    (hc : c.compile r.plan = .ok out) :
    (∀ s ∈ out.select :: out.count.toList, (∀ name ∈ s.callNames, SafeCallName name) ∧
      ∀ st : Style, (s.bound st).1 = (s.eraseValues.bound st).1) ∧
    ∀ (st : Style) (name : String) (rest : List Char), rest.head? ≠ some st.quote →
      readIdent st.quote ((quoteIdent st name).toList ++ rest) = some (name, rest) := by
  have hT := translate_translated h
  obtain ⟨hsel, hcount⟩ := compile_eq_ok hc
  refine ⟨fun s hs => ⟨?_, fun st => Select.bound_eraseValues st s⟩,
    fun st name rest hr => readIdent_quoteIdent st name hr⟩
  rcases List.mem_cons.mp hs with rfl | hs
  · exact select_callNames hT hsel
  · exact count_callNames (hcount s (Option.mem_toList.mp hs))

/-- The customers named `Ann` with the sum of their orders' totals: the statement calls `SUM`, the
aggregate function the request names in small letters, and binds the name as its one value. -/
theorem shop_requestText :
    ∃ r out, (shop.translate "customers"
        { filter := some "[name,eq,Ann]", aggregate := some "orders.total,sum,spent" }).1 = .ok r ∧
      shopCompiler.compile r.plan = .ok out ∧
      "SUM" ∈ out.select.callNames ∧ (out.select.bound (style .postgres)).2.length = 1 ∧
      (∀ s ∈ out.select :: out.count.toList, (∀ name ∈ s.callNames, SafeCallName name) ∧
        ∀ st : Style, (s.bound st).1 = (s.eraseValues.bound st).1) ∧
      ∀ (st : Style) (name : String) (rest : List Char), rest.head? ≠ some st.quote →
        readIdent st.quote ((quoteIdent st name).toList ++ rest) = some (name, rest) := by
  obtain ⟨r, out, hres, hcomp, hcheck⟩ := @exists_compiled
    (shop.translate "customers"
      { filter := some "[name,eq,Ann]", aggregate := some "orders.total,sum,spent" }).1
    shopCompiler
    (fun _ out => out.select.callNames.contains "SUM" &&
      (out.select.bound (style .postgres)).2.length == 1)
    (by decide +kernel)
  simp only [Bool.and_eq_true, List.contains_iff_mem, beq_iff_eq] at hcheck
  exact ⟨r, out, hres, hcomp, hcheck.1, hcheck.2, compile_requestText hres shopCompiler hcomp⟩

end Sql
end RestQuery
