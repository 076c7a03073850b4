import RestQuery.Filter.Clause
import RestQuery.Proofs.CompiledShape

/-!
# The grammar of filter texts

A filter text is a run of clauses in brackets, each but the first joined to
the one before it by at most one connective, `AND` or `OR`, written in
capitals, with blanks anywhere between these pieces.  A clause body runs to
the first closing bracket and holds at least three comma-separated fields:
a reference, an operator and one or more values.

`Written` states this grammar over the characters of the text, and
`ReadsAs` states how one body reads as a clause.  Reading a filter lexes the
whole text first (`scanFrom`), so the proof goes through the tokens: each
piece of the grammar scans to one token (`scanFrom_blanks`,
`scanFrom_bracket`, `scanFrom_connective`), and the parser accepts exactly
the token runs those pieces give.  The converse runs by strong induction on
the length of the text, since both a bracket and a connective are read
ahead of the text that follows them.

**Results.**
* `refersTo_iff`: the path and column a reference names.
* `parseClause_eq_ok`: the clause a body reads as.
* `parse_eq_ok_iff`: a filter text reads as a list of clauses exactly when it
  is written as those clauses.
* `parse_column_dotFree`: no clause read from a filter has a dot in its column.
-/

namespace RestQuery
namespace Text

/-- Splitting at the first separator: the part before holds none. -/
theorem splitOnceChars_eq_some {sep : Char} :
    ∀ {cs before after : List Char}, splitOnceChars sep cs = some (before, after) ↔
      cs = before ++ sep :: after ∧ sep ∉ before
  | [], before, after => by simp [splitOnceChars]
  | c :: rest, before, after => by
    unfold splitOnceChars
    by_cases hc : c = sep
    · subst hc
      rw [if_pos rfl]
      cases before with
      | nil => simp
      | cons b bs =>
        -- the first separator ends the part before it, so that part cannot start with it
        simp only [Option.some.injEq, Prod.mk.injEq, reduceCtorEq, false_and, List.cons_append,
          List.cons.injEq, List.mem_cons, not_or, false_iff, not_and]
        tauto
    · rw [if_neg hc]
      cases before with
      | nil => simp [hc]
      | cons b bs =>
        simp only [Option.map_eq_some_iff, Prod.exists, Prod.mk.injEq, List.cons_append,
          List.cons.injEq, List.mem_cons, not_or]
        constructor
        · rintro ⟨a, b', h, ⟨rfl, rfl⟩, rfl⟩
          obtain ⟨rfl, hsep⟩ := splitOnceChars_eq_some.mp h
          exact ⟨⟨rfl, rfl⟩, Ne.symm hc, hsep⟩
        · rintro ⟨⟨rfl, rfl⟩, -, hsep⟩
          exact ⟨bs, after, splitOnceChars_eq_some.mpr ⟨rfl, hsep⟩, ⟨rfl, rfl⟩, rfl⟩

theorem splitOnceChars_eq_none {sep : Char} :
    ∀ {cs : List Char}, splitOnceChars sep cs = none ↔ sep ∉ cs
  | [] => by simp [splitOnceChars]
  | c :: rest => by
    unfold splitOnceChars
    by_cases hc : c = sep
    · subst hc
      simp
    · rw [if_neg hc, Option.map_eq_none_iff, splitOnceChars_eq_none]
      simp [Ne.symm hc]

/-- Splitting at the last separator: the part after holds none. -/
theorem splitLast_eq_some {s before after : String} {sep : Char} :
    splitLast s sep = some (before, after) ↔
      s.toList = before.toList ++ sep :: after.toList ∧ sep ∉ after.toList := by
  unfold splitLast
  simp only [Option.map_eq_some_iff, Prod.exists, Prod.mk.injEq]
  constructor
  · rintro ⟨a, b, h, rfl, rfl⟩
    obtain ⟨h, hsep⟩ := splitOnceChars_eq_some.mp h
    refine ⟨?_, by simpa using hsep⟩
    rw [← List.reverse_reverse s.toList, h]
    simp
  · rintro ⟨h, hsep⟩
    refine ⟨after.toList.reverse, before.toList.reverse, splitOnceChars_eq_some.mpr ⟨?_, by simpa using hsep⟩,
      by simp, by simp⟩
    rw [h]
    simp

theorem splitLast_eq_none {s : String} {sep : Char} : splitLast s sep = none ↔ sep ∉ s.toList := by
  unfold splitLast
  rw [Option.map_eq_none_iff, splitOnceChars_eq_none, List.mem_reverse]

end Text

namespace Filter

/-- A list is cut at most one way at a mark that neither first part holds. -/
theorem append_cons_cancel {a : Char} :
    ∀ {x x' z z' : List Char}, a ∉ x → a ∉ x' → x ++ a :: z = x' ++ a :: z' → x = x' ∧ z = z'
  | [], [], _, _, _, _, h => by simpa using h
  | [], b :: x', _, _, _, hx', h => by
    simp only [List.nil_append, List.cons_append, List.cons.injEq] at h
    exact absurd (h.1 ▸ List.mem_cons_self) hx'
  | b :: x, [], _, _, hx, _, h => by
    simp only [List.nil_append, List.cons_append, List.cons.injEq] at h
    exact absurd (h.1 ▸ List.mem_cons_self) hx
  | b :: x, b' :: x', _, _, hx, hx', h => by
    simp only [List.cons_append, List.cons.injEq] at h
    obtain ⟨rfl, h⟩ := h
    obtain ⟨rfl, rfl⟩ := append_cons_cancel (fun m => hx (List.mem_cons_of_mem _ m))
      (fun m => hx' (List.mem_cons_of_mem _ m)) h
    exact ⟨rfl, rfl⟩

/-- A list is cut at most one way at a mark that neither last part holds. -/
theorem append_cons_cancel_last {a : Char} {x x' z z' : List Char} (hz : a ∉ z) (hz' : a ∉ z')
    (h : x ++ a :: z = x' ++ a :: z') : x = x' ∧ z = z' := by
  have hrev := congrArg List.reverse h
  simp only [List.reverse_append, List.reverse_cons, List.append_assoc, List.singleton_append] at hrev
  obtain ⟨hz, hx⟩ := append_cons_cancel (by simpa using hz) (by simpa using hz') hrev
  exact ⟨List.reverse_inj.mp hx, List.reverse_inj.mp hz⟩

/-- A trimmed reference names a path and a column: the column is what follows its last dot, and
the path what precedes that dot, split at every dot; a reference without a dot is a column of the
root table. -/
def RefersTo (t : String) (path : List String) (column : String) : Prop :=
  (∃ before : String, t.toList = before.toList ++ '.' :: column.toList ∧ '.' ∉ column.toList ∧
    path = Text.split before '.') ∨
  ('.' ∉ t.toList ∧ path = [] ∧ column = t)

theorem refersTo_iff {s : String} {path : List String} {column : String} :
    RefersTo (Text.trim s) path column ↔ Reference.parse s = ⟨path, column⟩ := by
  unfold RefersTo
  simp only [Reference.parse]
  cases h : Text.splitLast (Text.trim s) '.' with
  | none =>
    have hdot := Text.splitLast_eq_none.mp h
    simp only [Reference.mk.injEq]
    constructor
    · rintro (⟨before, ht, -, -⟩ | ⟨-, rfl, rfl⟩)
      · exact absurd (ht ▸ List.mem_append_right _ List.mem_cons_self) hdot
      · exact ⟨rfl, rfl⟩
    · rintro ⟨rfl, rfl⟩
      exact .inr ⟨hdot, rfl, rfl⟩
  | some p =>
    obtain ⟨before, col⟩ := p
    obtain ⟨ht, hcol⟩ := Text.splitLast_eq_some.mp h
    simp only [Reference.mk.injEq]
    constructor
    · -- the last dot is unique, so the column and the path are those of the split
      rintro (⟨before', ht', hcol', rfl⟩ | ⟨hdot, -, -⟩)
      · obtain ⟨hb, hc⟩ := append_cons_cancel_last hcol hcol' (ht.symm.trans ht')
        exact ⟨by rw [String.toList_inj.mp hb], String.toList_inj.mp hc⟩
      · exact absurd (ht ▸ List.mem_append_right _ List.mem_cons_self) hdot
    · rintro ⟨rfl, rfl⟩
      exact .inl ⟨before, ht, hcol, rfl⟩

theorem RefersTo.column_dotFree {t : String} {path : List String} {column : String}
    (h : RefersTo t path column) : '.' ∉ column.toList := by
  rcases h with ⟨_, _, hcol, _⟩ | ⟨hdot, _, rfl⟩
  · exact hcol
  · exact hdot

/-- Lowering a character gives a dot only from a dot: a capital goes up to a small letter. -/
theorem toLower_eq_dot {c : Char} (h : c.toLower = '.') : c = '.' := by
  unfold Char.toLower at h
  split at h
  · -- a capital goes 32 code points up, to a small letter, far past the dot
    rename_i hc
    have hA : ('A' : Char).val.toNat ≤ c.val.toNat := UInt32.le_iff_toNat_le.mp hc.1
    have hZ : c.val.toNat ≤ ('Z' : Char).val.toNat := UInt32.le_iff_toNat_le.mp hc.2
    have hv := congrArg (fun d : Char => d.val.toNat) h
    simp only [UInt32.toNat_add] at hv
    have h32 : ('a'.val - 'A'.val).toNat = 32 := rfl
    have hdot : ('.' : Char).val.toNat = 46 := rfl
    have h65 : ('A' : Char).val.toNat = 65 := rfl
    have h90 : ('Z' : Char).val.toNat = 90 := rfl
    rw [h32, hdot] at hv
    omega
  · exact h

theorem mem_snakeChars {x : Char} : ∀ {prev : Option Char} {cs : List Char},
    x ∈ Naming.snakeChars prev cs → x ∈ cs ∨ x = '_' ∨ ∃ c ∈ cs, x = c.toLower
  | _, [] => by simp [Naming.snakeChars]
  | prev, c :: rest => by
    intro hx
    simp only [Naming.snakeChars, List.mem_append] at hx
    rcases hx with hx | hx
    · split at hx
      · split at hx
        · split at hx
          · simp only [List.mem_cons, List.not_mem_nil, or_false] at hx
            rcases hx with rfl | rfl
            · exact .inr (.inl rfl)
            · exact .inr (.inr ⟨c, List.mem_cons_self, rfl⟩)
          · simp only [List.mem_singleton] at hx
            exact .inr (.inr ⟨c, List.mem_cons_self, hx⟩)
        · simp only [List.mem_singleton] at hx
          exact .inr (.inr ⟨c, List.mem_cons_self, hx⟩)
      · simp only [List.mem_singleton] at hx
        exact .inl (hx ▸ List.mem_cons_self)
    · rcases mem_snakeChars hx with h | h | ⟨d, hd, h⟩
      · exact .inl (List.mem_cons_of_mem _ h)
      · exact .inr (.inl h)
      · exact .inr (.inr ⟨d, List.mem_cons_of_mem _ hd, h⟩)

/-- Column case never brings in a dot. -/
theorem columnCase_dotFree {s : String} (h : '.' ∉ s.toList) : '.' ∉ (Naming.columnCase s).toList := by
  unfold Naming.columnCase
  split
  · split
    · rw [String.toList_ofList]
      intro hx
      rcases mem_snakeChars hx with hd | hd | ⟨c, hc, hd⟩
      · exact h hd
      · exact absurd hd (by decide)
      · exact h (toLower_eq_dot hd.symm ▸ hc)
    · exact h
  · exact h

theorem Operand.ofFields_cons (v : String) (vs : List String) :
    Operand.ofFields (v :: vs) =
      if vs = [] then (if sameAsciiCase v "null" then .null else .one v) else .many (v :: vs) := by
  cases vs with
  | nil => rfl
  | cons w ws => simp [Operand.ofFields]

/-- How a clause body reads under a connective: it has at least three comma-separated fields;
the first, trimmed, refers to the clause's path and to a column that is not empty, which the
clause keeps in column case; the second, trimmed and not empty, is the operator; the others are
the values, kept as written: one value reading `null` in any ASCII case is `NULL`, one other value
is that value, and two or more are all of them. -/
def ReadsAs (body : String) (conn : Connective) (cl : Clause) : Prop :=
  ∃ first op v vs column, Text.split body ',' = first :: op :: v :: vs ∧
    RefersTo (Text.trim first) cl.path column ∧ column ≠ "" ∧ cl.column = Naming.columnCase column ∧
    Text.trim op ≠ "" ∧ cl.operator = Text.trim op ∧
    cl.value = (if vs = [] then (if sameAsciiCase v "null" then .null else .one v) else .many (v :: vs)) ∧
    cl.connective = conn

theorem parseClause_eq_ok {body : String} {conn : Connective} {pos : Nat} {cl : Clause} :
    parseClause body conn pos = .ok cl ↔ ReadsAs body conn cl := by
  unfold parseClause ReadsAs
  split
  · rename_i first op v vs hsplit
    rcases hr : Reference.parse first with ⟨path, column⟩
    dsimp only
    constructor
    · intro h
      split at h
      · cases h
      · rename_i hcol
        split at h
        · cases h
        · rename_i hop
          obtain rfl := Except.ok.inj h
          refine ⟨first, op, v, vs, column, hsplit, refersTo_iff.mpr hr, ?_, rfl, ?_, rfl,
            Operand.ofFields_cons v vs, rfl⟩
          · intro he
            rw [he] at hcol
            exact hcol rfl
          · intro he
            rw [he] at hop
            exact hop rfl
    · rintro ⟨_, _, _, _, column', hsplit', href, hne, hc, hop, ho, hv, hconn⟩
      rw [hsplit] at hsplit'
      obtain ⟨rfl, rfl, rfl, rfl⟩ : first = _ ∧ op = _ ∧ v = _ ∧ vs = _ := by
        simpa only [List.cons.injEq] using hsplit'
      -- the reference reads one way only, so the clause's path and column are the parsed ones
      have hr' := (refersTo_iff.mp href).symm.trans hr
      simp only [Reference.mk.injEq] at hr'
      obtain ⟨hpath, rfl⟩ := hr'
      have hcol : column'.isEmpty = false := by
        simpa [String.isEmpty_iff] using hne
      have hop' : (Text.trim op).isEmpty = false := by
        simpa [String.isEmpty_iff] using hop
      rw [hcol, hop']
      obtain ⟨path', col, operator, value, connective⟩ := cl
      simp only at hpath hc ho hv hconn
      subst hpath hc ho hv hconn
      simp [Operand.ofFields_cons]
  · rename_i hshort
    constructor
    · intro h
      cases h
    · rintro ⟨first, op, v, vs, -, hsplit, -⟩
      exact absurd hsplit (hshort first op v vs)

section Scanning

@[simp] theorem byteLength_nil : byteLength [] = 0 := rfl

@[simp] theorem byteLength_cons (c : Char) (cs : List Char) :
    byteLength (c :: cs) = c.utf8Size + byteLength cs := rfl

/-- Blanks before a text are skipped. -/
theorem scanFrom_blanks {w : List Char} (hw : ∀ c ∈ w, Text.isBlank c = true) (pos : Nat)
    (cs : List Char) : scanFrom pos (w ++ cs) = scanFrom (pos + byteLength w) cs := by
  induction w generalizing pos with
  | nil => rfl
  | cons c w ih =>
    rw [List.cons_append, scanFrom.eq_def]
    dsimp only
    rw [if_pos (hw c List.mem_cons_self), ih (fun d hd => hw d (List.mem_cons_of_mem _ hd)),
      byteLength_cons, Nat.add_assoc]

/-- A clause body runs to the first closing bracket. -/
theorem scanClause_close {body : List Char} (hb : ']' ∉ body) (start : Nat) (whole acc : List Char)
    (pos : Nat) (rest : List Char) :
    scanClause start whole acc pos (body ++ ']' :: rest) =
      ⟨.clause (String.ofList (acc.reverse ++ body)), ⟨start, pos + byteLength body + 1⟩⟩ ::
        scanFrom (pos + byteLength body + 1) rest := by
  induction body generalizing acc pos with
  | nil => simp [scanClause]
  | cons c body ih =>
    have hc : c ≠ ']' := fun h => hb (h ▸ List.mem_cons_self)
    rw [List.cons_append, scanClause, if_neg hc, ih (fun h => hb (List.mem_cons_of_mem _ h))]
    simp [Nat.add_assoc]

/-- Without a closing bracket, the rest of the text from the opening one is illegal. -/
theorem scanClause_open {cs : List Char} (hb : ']' ∉ cs) (start : Nat) (whole acc : List Char)
    (pos : Nat) :
    scanClause start whole acc pos cs = [⟨.illegal (String.ofList whole), ⟨start, pos + byteLength cs⟩⟩] := by
  induction cs generalizing acc pos with
  | nil => simp [scanClause]
  | cons c cs ih =>
    have hc : c ≠ ']' := fun h => hb (h ▸ List.mem_cons_self)
    rw [scanClause, if_neg hc, ih (fun h => hb (List.mem_cons_of_mem _ h))]
    simp [Nat.add_assoc]

/-- A text holding a closing bracket splits at the first one. -/
theorem exists_first_close :
    ∀ {cs : List Char}, ']' ∈ cs → ∃ body rest, cs = body ++ ']' :: rest ∧ ']' ∉ body
  | [], h => absurd h List.not_mem_nil
  | c :: cs, h => by
    by_cases hc : c = ']'
    · exact ⟨[], cs, by rw [hc]; rfl, List.not_mem_nil⟩
    · obtain ⟨body, rest, rfl, hb⟩ := exists_first_close ((List.mem_cons.mp h).resolve_left (Ne.symm hc))
      exact ⟨c :: body, rest, rfl, by simp [Ne.symm hc, hb]⟩

theorem scanFrom_bracket {body : List Char} (hb : ']' ∉ body) (pos : Nat) (rest : List Char) :
    scanFrom pos ('[' :: (body ++ ']' :: rest)) =
      ⟨.clause (String.ofList body), ⟨pos, pos + 1 + byteLength body + 1⟩⟩ ::
        scanFrom (pos + 1 + byteLength body + 1) rest := by
  rw [scanFrom.eq_def]
  dsimp only
  rw [if_neg (by decide), if_pos rfl, scanClause_close hb]
  simp

/-- The text of a connective. -/
def Connective.text : Connective → List Char
  | .and => ['A', 'N', 'D']
  | .or => ['O', 'R']

/-- The token of a connective. -/
def Connective.kind : Connective → TokenKind
  | .and => .and
  | .or => .or

theorem scanFrom_connective (k : Connective) (pos : Nat) (rest : List Char) :
    scanFrom pos (k.text ++ rest) =
      ⟨k.kind, ⟨pos, pos + k.text.length⟩⟩ :: scanFrom (pos + k.text.length) rest := by
  cases k with
  | and =>
    rw [Connective.text, List.cons_append, scanFrom.eq_def]
    dsimp only
    rw [if_neg (by decide), if_neg (by decide)]
    rfl
  | or =>
    rw [Connective.text, List.cons_append, scanFrom.eq_def]
    dsimp only
    rw [if_neg (by decide), if_neg (by decide)]
    rfl

end Scanning

section Reading

variable {pending : Option (Connective × Nat)} {ts : List Token} {cls : List Clause}

theorem parseTokens_nil_ok (h : parseTokens pending [] = .ok cls) : pending = none ∧ cls = [] := by
  cases pending with
  | none => exact ⟨rfl, (Except.ok.inj h).symm⟩
  | some p => cases h

theorem parseTokens_connective (k : Connective) (sp : Span) :
    parseTokens none (⟨k.kind, sp⟩ :: ts) = parseTokens (some (k, sp.start)) ts := by
  cases k <;> rfl

/-- A connective right after a connective is refused. -/
theorem parseTokens_connective_pending (k : Connective) (sp : Span) (p : Connective × Nat) :
    parseTokens (some p) (⟨k.kind, sp⟩ :: ts) ≠ .ok cls := by
  cases k <;> simp [parseTokens, Connective.kind]

/-- Illegal text is refused. -/
theorem parseTokens_illegal (t : String) (sp : Span) :
    parseTokens pending (⟨.illegal t, sp⟩ :: ts) ≠ .ok cls := by
  simp only [parseTokens]
  split <;> simp

theorem parseTokens_clause (body : String) (sp : Span) :
    parseTokens pending (⟨.clause body, sp⟩ :: ts) =
      parseClause body ((pending.map Prod.fst).getD .and) sp.start >>= fun cl =>
        parseTokens none ts >>= fun rest => pure (cl :: rest) := rfl

theorem parseTokens_clause_eq_ok {body : String} {sp : Span} :
    parseTokens pending (⟨.clause body, sp⟩ :: ts) = .ok cls ↔
      ∃ cl rest, ReadsAs body ((pending.map Prod.fst).getD .and) cl ∧ parseTokens none ts = .ok rest ∧
        cls = cl :: rest := by
  rw [parseTokens_clause, Sql.bind_eq_ok]
  constructor
  · rintro ⟨cl, hcl, hrest⟩
    obtain ⟨rest, hrest, hcls⟩ := Sql.bind_eq_ok.mp hrest
    exact ⟨cl, rest, parseClause_eq_ok.mp hcl, hrest, (Except.ok.inj hcls).symm⟩
  · rintro ⟨cl, rest, hcl, hrest, rfl⟩
    exact ⟨cl, parseClause_eq_ok.mpr hcl, Sql.bind_eq_ok.mpr ⟨rest, hrest, rfl⟩⟩

end Reading

/-- A filter text written as clauses in brackets: blanks, then for each clause an optional
connective, blanks and the clause, whose body holds no `]`; each clause is read under the
connective written before it, `AND` when there is none, and only blanks follow the last one. -/
inductive Written : List Char → List Clause → Prop
  | blanks {w : List Char} : (∀ c ∈ w, Text.isBlank c = true) → Written w []
  | clause {w w' body rest : List Char} {conn : Option Connective} {cl : Clause} {cls : List Clause} :
      (∀ c ∈ w, Text.isBlank c = true) → (∀ c ∈ w', Text.isBlank c = true) → ']' ∉ body →
      ReadsAs (String.ofList body) (conn.getD .and) cl → Written rest cls →
      Written (w ++ (conn.map Connective.text).getD [] ++ w' ++ '[' :: (body ++ ']' :: rest)) (cl :: cls)

theorem Written.cons_blank {c : Char} (hc : Text.isBlank c = true) {cs : List Char}
    {cls : List Clause} :
    Written cs cls → Written (c :: cs) cls
  | .blanks hw => .blanks fun d hd => (List.mem_cons.mp hd).elim (· ▸ hc) (hw d)
  | .clause hw hw' hb hr hrest =>
    .clause (w := c :: _) (fun d hd => (List.mem_cons.mp hd).elim (· ▸ hc) (hw d)) hw' hb hr hrest

/-- A written text reads as its clauses. -/
theorem parseTokens_scanFrom_of_written {cs : List Char} {cls : List Clause} (h : Written cs cls) :
    ∀ pos, parseTokens none (scanFrom pos cs) = .ok cls := by
  induction h with
  | @blanks w hw =>
    intro pos
    have h := scanFrom_blanks hw pos []
    rw [List.append_nil] at h
    rw [h]
    rfl
  | @clause w w' body rest conn cl cls hw hw' hb hr _ ih =>
    intro pos
    simp only [List.append_assoc]
    rw [scanFrom_blanks hw]
    cases conn with
    | none =>
      rw [Option.map_none, Option.getD_none, List.nil_append, scanFrom_blanks hw', scanFrom_bracket hb]
      exact parseTokens_clause_eq_ok.mpr ⟨cl, cls, hr, ih _, rfl⟩
    | some k =>
      rw [Option.map_some, Option.getD_some, scanFrom_connective, parseTokens_connective,
        scanFrom_blanks hw', scanFrom_bracket hb]
      exact parseTokens_clause_eq_ok.mpr ⟨cl, cls, hr, ih _, rfl⟩

/-- The text after a connective `k`: blanks, a clause read under `k`, then a written text. -/
def WrittenAfter (k : Connective) (cs : List Char) (cls : List Clause) : Prop :=
  ∃ w body rest cl cls', cs = w ++ '[' :: (body ++ ']' :: rest) ∧ (∀ c ∈ w, Text.isBlank c = true) ∧
    ']' ∉ body ∧ ReadsAs (String.ofList body) k cl ∧ Written rest cls' ∧ cls = cl :: cls'

theorem WrittenAfter.cons_blank {k : Connective} {c : Char} (hc : Text.isBlank c = true) {cs : List Char}
    {cls : List Clause} : WrittenAfter k cs cls → WrittenAfter k (c :: cs) cls := by
  rintro ⟨w, body, rest, cl, cls', rfl, hw, hb, hr, hrest, rfl⟩
  exact ⟨c :: w, body, rest, cl, cls', rfl, fun d hd => (List.mem_cons.mp hd).elim (· ▸ hc) (hw d), hb, hr,
    hrest, rfl⟩

theorem Written.of_after {k : Connective} {w cs : List Char} {cls : List Clause}
    (hw : ∀ c ∈ w, Text.isBlank c = true) (h : WrittenAfter k cs cls) :
    Written (w ++ k.text ++ cs) cls := by
  obtain ⟨w', body, rest, cl, cls', rfl, hw', hb, hr, hrest, rfl⟩ := h
  simpa [List.append_assoc] using @Written.clause w w' body rest (some k) cl cls' hw hw' hb hr hrest

/-- What the clauses read from a text say about it: with no connective pending the text is
written as those clauses; after a connective `k` it starts with a clause read under `k`. -/
theorem written_of_parseTokens {cs : List Char} {pos : Nat} {pending : Option (Connective × Nat)}
    {cls : List Clause} (h : parseTokens pending (scanFrom pos cs) = .ok cls) :
    pending.elim (Written cs cls) fun p => WrittenAfter p.1 cs cls := by
  -- strong induction on the length: a bracket or a connective is read ahead of the text after it
  induction hn : cs.length using Nat.strongRecOn generalizing cs pos pending cls with
  | _ n ih =>
  match cs with
  | [] =>
    obtain ⟨rfl, rfl⟩ := parseTokens_nil_ok h
    exact .blanks (by simp)
  | c :: rest =>
    rw [scanFrom.eq_def] at h
    dsimp only at h
    by_cases hc : Text.isBlank c = true
    · rw [if_pos hc] at h
      have hrest := ih rest.length (by simp only [← hn, List.length_cons]; omega) h rfl
      cases pending with
      | none => exact hrest.cons_blank hc
      | some p => exact WrittenAfter.cons_blank hc hrest
    rw [if_neg hc] at h
    by_cases hb : c = '['
    · subst hb
      rw [if_pos rfl] at h
      by_cases hr : ']' ∈ rest
      · obtain ⟨body, after, rfl, hbody⟩ := exists_first_close hr
        rw [scanClause_close hbody] at h
        obtain ⟨cl, cls', hcl, hafter, rfl⟩ := parseTokens_clause_eq_ok.mp h
        have hlt : after.length < n := by
          simp only [← hn, List.length_cons, List.length_append]
          omega
        have hw : Written after cls' := ih after.length hlt hafter rfl
        cases pending with
        | none =>
          exact @Written.clause [] [] body after none cl cls' (by simp) (by simp) hbody hcl hw
        | some p => exact ⟨[], body, after, cl, cls', rfl, by simp, hbody, hcl, hw, rfl⟩
      · rw [scanClause_open hr] at h
        exact absurd h (parseTokens_illegal _ _)
    rw [if_neg hb] at h
    split at h
    next _ _ after =>
      -- the connective AND
      cases pending with
      | none =>
        rw [show TokenKind.and = Connective.and.kind from rfl, parseTokens_connective] at h
        have hlt : after.length < n := by
          simp only [← hn, List.length_cons]
          omega
        exact Written.of_after (w := []) (by simp) (ih _ hlt h rfl)
      | some p => exact absurd h (parseTokens_connective_pending .and _ p)
    next _ _ after =>
      -- the connective OR
      cases pending with
      | none =>
        rw [show TokenKind.or = Connective.or.kind from rfl, parseTokens_connective] at h
        have hlt : after.length < n := by
          simp only [← hn, List.length_cons]
          omega
        exact Written.of_after (w := []) (by simp) (ih _ hlt h rfl)
      | some p => exact absurd h (parseTokens_connective_pending .or _ p)
    next => exact absurd h (parseTokens_illegal _ _)

/-- The clauses of a filter text are exactly those it is written as. -/
theorem parse_eq_ok_iff {s : String} {cls : List Clause} : parse s = .ok cls ↔ Written s.toList cls :=
  ⟨written_of_parseTokens, fun h => parseTokens_scanFrom_of_written h 0⟩

theorem ReadsAs.column_dotFree {body : String} {conn : Connective} {cl : Clause}
    (h : ReadsAs body conn cl) :
    '.' ∉ cl.column.toList := by
  obtain ⟨_, _, _, _, column, -, href, -, hcol, -⟩ := h
  rw [hcol]
  exact columnCase_dotFree href.column_dotFree

theorem Written.column_dotFree {cs : List Char} {cls : List Clause} (h : Written cs cls) :
    ∀ cl ∈ cls, '.' ∉ cl.column.toList := by
  induction h with
  | blanks => simp
  | clause _ _ _ hr _ ih =>
    intro cl hcl
    rcases List.mem_cons.mp hcl with rfl | hcl
    · exact hr.column_dotFree
    · exact ih cl hcl

/-- The column of a clause is what follows the last dot of its reference, so it has none. -/
theorem parse_column_dotFree {s : String} {cls : List Clause} (h : parse s = .ok cls) :
    ∀ cl ∈ cls, '.' ∉ cl.column.toList :=
  (parse_eq_ok_iff.mp h).column_dotFree

end Filter
end RestQuery
