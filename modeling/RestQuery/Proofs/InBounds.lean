import RestQuery.Proofs.FilterGrammar
import RestQuery.Proofs.Translation

/-!
# Every index in bounds

Translating a request and compiling its plan look things up by position in
three places: nodes of the include tree by their number, stretches of the
filter text by byte offsets, and the two bounds of a range condition by their
place in the list of values.  Each lookup is safe for a reason of its own:

* the tree keeps every number it stores below its length: a node's parent
  comes before it and its children are nodes, and resolving a path from the
  root ends at a node of the tree it leaves;
* every token the scanner reports stands for a stretch of the text that
  starts and ends between characters, and its span is the byte offsets of
  those two places; the outer brackets of a wrapped filter take one byte
  each, so stripping them cuts the text between characters too;
* a range condition compiles only when it has exactly two values.

**Results.**
* `scanFrom_spans`: the tokens of a text stand for stretches of it.
* `stripWrapper_cases`: stripping the wrapper drops one bracket at each end.
* `compileCondition_range`: a range condition compiles exactly when it has two
  values.
* `translate_compile_inBounds`: all of these together.
-/

namespace RestQuery
namespace Filter

/-- What a token stands for in the text, given what follows it there: a connective for its
word, a clause for its body in brackets, the body up to the first closing bracket, and an
illegal token for all the rest of the text. -/
def Shows : TokenKind → List Char → List Char → Prop
  | .and, mid, _ => mid = ['A', 'N', 'D']
  | .or, mid, _ => mid = ['O', 'R']
  | .clause body, mid, _ => mid = '[' :: body.toList ++ [']'] ∧ ']' ∉ body.toList
  | .illegal rest, mid, post => mid = rest.toList ∧ post = []

/-- A token stands for a stretch `mid` of the characters `cs`, and its span gives the byte
offsets, counted from `pos`, of the first character of the stretch and of the one after it. -/
def Spans (cs : List Char) (pos : Nat) (t : Token) : Prop :=
  ∃ pre mid post, cs = pre ++ mid ++ post ∧ t.span.start = pos + byteLength pre ∧
    t.span.stop = pos + byteLength pre + byteLength mid ∧ Shows t.kind mid post

theorem byteLength_append (xs ys : List Char) :
    byteLength (xs ++ ys) = byteLength xs + byteLength ys := by
  induction xs with
  | nil => simp
  | cons c xs ih => simp [ih, Nat.add_assoc]

/-- A token found after `w` stands in the text with `w` in front. -/
theorem Spans.prepend {cs : List Char} {pos : Nat} {t : Token} (w : List Char)
    (h : Spans cs (pos + byteLength w) t) : Spans (w ++ cs) pos t := by
  obtain ⟨pre, mid, post, rfl, hstart, hstop, hshows⟩ := h
  refine ⟨w ++ pre, mid, post, by simp, ?_, ?_, hshows⟩
  · rw [hstart, byteLength_append]
    omega
  · rw [hstop, byteLength_append]
    omega

/-- A token that is the whole of a stretch at the start of the text. -/
theorem Spans.head {cs : List Char} (mid post : List Char) {pos : Nat} {t : Token}
    (hcs : cs = mid ++ post)
    (hstart : t.span.start = pos) (hstop : t.span.stop = pos + byteLength mid)
    (hshows : Shows t.kind mid post) : Spans cs pos t :=
  ⟨[], mid, post, by simpa using hcs, by simpa using hstart, by simpa using hstop, hshows⟩

/-- The tokens from a connective on stand in the text: the connective for its word, and the
others in the text after it. -/
theorem spans_connective (k : Connective) {pos : Nat} {after : List Char}
    (ih : ∀ t ∈ scanFrom (pos + k.text.length) after, Spans after (pos + k.text.length) t) :
    ∀ t ∈ scanFrom pos (k.text ++ after), Spans (k.text ++ after) pos t := by
  have hbytes : byteLength k.text = k.text.length := by cases k <;> rfl
  intro t ht
  rw [scanFrom_connective] at ht
  rcases List.mem_cons.mp ht with rfl | ht
  · exact Spans.head k.text after rfl rfl (by rw [hbytes]) (by cases k <;> rfl)
  · exact Spans.prepend k.text (by rw [hbytes]; exact ih t ht)

theorem utf8Size_open : ('[' : Char).utf8Size = 1 := rfl

theorem utf8Size_close : (']' : Char).utf8Size = 1 := rfl

/-- Every token of a text stands for a stretch of it between two characters, and its span is
the byte offsets of that stretch.  The induction follows the scanner; inside a clause the
invariant is that the characters read so far follow the opening bracket, hold no closing one,
and end at the current byte. -/
theorem scanFrom_spans : ∀ (pos : Nat) (cs : List Char), ∀ t ∈ scanFrom pos cs, Spans cs pos t := by
  refine (scanFrom.mutual_induct (fun pos cs => ∀ t ∈ scanFrom pos cs, Spans cs pos t)
    (fun start whole body pos cs => whole = '[' :: body.reverse ++ cs → ']' ∉ body →
      pos = start + 1 + byteLength body.reverse →
      ∀ t ∈ scanClause start whole body pos cs, Spans whole start t)
    ?nil ?blank ?bracket ?and ?or ?other ?unclosed ?close ?body).1
  case nil =>
    intro pos t ht
    simp [scanFrom] at ht
  case blank =>
    intro pos c rest hc ih t ht
    rw [scanFrom.eq_def] at ht
    dsimp only at ht
    rw [if_pos hc] at ht
    exact Spans.prepend [c] (by simpa using ih t ht)
  case bracket =>
    intro pos rest hc ih t ht
    rw [scanFrom.eq_def] at ht
    dsimp only at ht
    rw [if_neg hc, if_pos rfl] at ht
    exact ih (by simp) List.not_mem_nil (by simp) t ht
  case and =>
    intro pos after _ _ ih
    exact spans_connective .and ih
  case or =>
    intro pos after _ _ ih
    exact spans_connective .or ih
  case other =>
    intro pos c rest hc hb hand hor t ht
    rw [scanFrom.eq_def] at ht
    dsimp only at ht
    rw [if_neg hc, if_neg hb] at ht
    -- neither connective starts here, so the rest of the text is one illegal token
    split at ht
    · exact (hand _ rfl rfl).elim
    · exact (hor _ rfl rfl).elim
    · rw [List.mem_singleton] at ht
      subst ht
      exact Spans.head (c :: rest) [] (by simp) rfl rfl ⟨by simp, rfl⟩
  case unclosed =>
    intro start whole body pos hwhole _ hpos t ht
    rw [scanClause, List.mem_singleton] at ht
    subst ht
    refine Spans.head whole [] (by simp) rfl ?_ ⟨by simp, rfl⟩
    rw [hwhole, List.append_nil, byteLength_cons, utf8Size_open]
    dsimp only
    omega
  case close =>
    intro start whole body pos rest ih hwhole hbody hpos t ht
    rw [scanClause, if_pos rfl] at ht
    have hw : whole = ('[' :: body.reverse ++ [']']) ++ rest := by simp [hwhole]
    -- the clause ends one byte after the closing bracket
    have hstop : start + byteLength ('[' :: body.reverse ++ [']']) = pos + 1 := by
      simp only [byteLength_cons, byteLength_append, byteLength_nil, utf8Size_open, utf8Size_close]
      omega
    rcases List.mem_cons.mp ht with rfl | ht
    · exact Spans.head _ rest hw rfl hstop.symm ⟨by simp, by simpa using hbody⟩
    · rw [hw]
      refine Spans.prepend _ ?_
      rw [hstop]
      exact ih t ht
  case body =>
    intro start whole body pos c rest hc ih hwhole hbody hpos t ht
    rw [scanClause, if_neg hc] at ht
    refine ih (by simp [hwhole]) ?_ ?_ t ht
    · simp [hbody, Ne.symm hc]
    · simp [hpos, byteLength_append, Nat.add_assoc]

/-- The tokens of a filter text stand for stretches of it between characters. -/
theorem scan_spans (s : String) : ∀ t ∈ scan s, Spans s.toList 0 t :=
  scanFrom_spans 0 s.toList

end Filter

namespace Request

open Plan Schema IncludeTree

/-- Stripping the wrapper of a filter keeps the text, or drops one opening bracket in front and
one closing bracket at the end: each takes one byte, so the text kept runs from byte 1 to the
byte before the last, both between characters. -/
theorem stripWrapper_cases (s : String) :
    stripWrapper s = s ∨ ∃ m, s.toList = '[' :: m ++ [']'] ∧ stripWrapper s = String.ofList m := by
  unfold stripWrapper
  dsimp only
  split
  · rename_i h
    obtain ⟨htake, hdrop⟩ := h
    right
    have hlast : s.toList.getLast? = some ']' := by
      rw [← List.take_append_drop (s.toList.length - 2) s.toList, hdrop]
      simp
    obtain ⟨r, hr⟩ : ∃ r, s.toList = '[' :: '[' :: r := by
      refine ⟨s.toList.drop 2, ?_⟩
      rw [← List.take_append_drop 2 s.toList, htake]
      simp
    rw [hr, List.getLast?_cons_cons] at hlast
    refine ⟨('[' :: r).dropLast, ?_, ?_⟩
    · have hget : ('[' :: r).getLast (List.cons_ne_nil _ _) = ']' :=
        Option.some.inj ((List.getLast?_eq_some_getLast _).symm.trans hlast)
      rw [hr, List.cons_append, ← hget, List.dropLast_concat_getLast]
    · rw [hr]
      rfl
  · left
    rfl

/-- Resolving a path from the root of a well-formed tree ends at a node of the tree it leaves,
which is still well formed. -/
theorem resolve_inBounds {reg : Registry} {model dotted : String} {w w' : Workspace} {n : NodeId}
    (hw : w.tree.WellFormed reg model) (hrun : (resolve reg 0 dotted).run w = (.ok n, w')) :
    w'.tree.WellFormed reg model ∧ n < w'.tree.length := by
  obtain ⟨hT, hn, -⟩ := resolve_spec dotted w.tree.HasChain w ⟨hw, fun _ => Iff.rfl⟩ n w' hrun
  exact ⟨hT.1, hn⟩

/-- Every node number a translated plan stores is a node of its tree: it has a root, a node's
parent comes before it, and its children are nodes. -/
theorem translate_nodeRefs {tr : Translator} {route : String} {p : Params} {r : PlannedRequest}
    (h : (tr.translate route p).1 = .ok r) :
    0 < r.plan.tree.length ∧ ∀ i < r.plan.tree.length,
      (∀ q, (r.plan.tree.node i).parent = some q → q < i) ∧
      ∀ ch ∈ (r.plan.tree.node i).children, ch < r.plan.tree.length := by
  have hwf := (translate_translated h).wellFormed
  refine ⟨hwf.length_pos, fun i hi => ⟨fun q hq => ?_, fun ch hch => ?_⟩⟩
  · -- the root has no parent; any other node's parent is below it
    rcases Nat.eq_zero_or_pos i with rfl | hpos
    · rw [hwf.root_parent] at hq
      cases hq
    · obtain ⟨q', hq', hlt⟩ := hwf.parents_below i hpos hi
      rw [hq] at hq'
      cases hq'
      exact hlt
  · exact ((hwf.mem_children i ch hi).mp hch).2.1

end Request

namespace Sql

open Plan

/-- A range condition compiles exactly when it has two values, its bounds; with any other value
it is refused as not two values, before any bound is looked at. -/
theorem compileCondition_range {P : QueryPlan} {cond : Condition}
    (hop : normalize cond.operator = "between" ∨ normalize cond.operator = "notBetween") :
    ((∃ e, compileCondition P cond = .ok e) ↔ ∃ a b, cond.value = .many [a, b]) ∧
    ((¬ ∃ a b, cond.value = .many [a, b]) →
      compileCondition P cond = .error (.invalidOperand cond.operator cond.fieldKey .notTwoValues)) := by
  rcases hop with hop | hop <;>
  rcases hv : cond.value with _ | v | (_ | ⟨a, _ | ⟨b, _ | ⟨c, rest⟩⟩⟩) <;>
  simp [compileCondition, hop, hv]

end Sql

open Plan Schema Request Sql in
/-- Translating and compiling look up only what is there: every node number a translated plan
stores is a node of its tree, and resolving a path from the root of a well-formed tree ends at a
node; every token of a filter text stands for a stretch of it between characters, at the byte
offsets of its span; stripping a filter's wrapper drops one one-byte bracket at each end; and a
range condition compiles exactly when it has two values. -/
theorem translate_compile_inBounds :
    (∀ (tr : Translator) (route : String) (p : Params) (r : PlannedRequest),
      (tr.translate route p).1 = .ok r →
        0 < r.plan.tree.length ∧ ∀ i < r.plan.tree.length,
          (∀ q, (r.plan.tree.node i).parent = some q → q < i) ∧
          ∀ ch ∈ (r.plan.tree.node i).children, ch < r.plan.tree.length) ∧
    (∀ (reg : Registry) (model dotted : String) (w w' : Workspace) (n : NodeId),
      w.tree.WellFormed reg model → (resolve reg 0 dotted).run w = (.ok n, w') →
        w'.tree.WellFormed reg model ∧ n < w'.tree.length) ∧
    (∀ s : String, ∀ t ∈ Filter.scan s, Filter.Spans s.toList 0 t) ∧
    (∀ s : String, stripWrapper s = s ∨
      ∃ m, s.toList = '[' :: m ++ [']'] ∧ stripWrapper s = String.ofList m) ∧
    ∀ (P : QueryPlan) (cond : Condition),
      (normalize cond.operator = "between" ∨ normalize cond.operator = "notBetween") →
        ((∃ e, compileCondition P cond = .ok e) ↔ ∃ a b, cond.value = .many [a, b]) ∧
        ((¬ ∃ a b, cond.value = .many [a, b]) →
          compileCondition P cond = .error (.invalidOperand cond.operator cond.fieldKey .notTwoValues)) :=
  ⟨fun _ _ _ _ h => translate_nodeRefs h, fun _ _ _ _ _ _ hw hrun => resolve_inBounds hw hrun,
    Filter.scan_spans, stripWrapper_cases, fun _ _ hop => compileCondition_range hop⟩

end RestQuery
