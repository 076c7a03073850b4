import Mathlib
import RestQuery.Cli.Session
import RestQuery.Proofs.FilterGrammar
import RestQuery.Proofs.Authorization

/-!
# Request lines

A request line is a method, a blank and a target, or a bare target that is
read as `GET`.  The line is trimmed and cut at its first blank; the target
is trimmed too.  Its path, the part before its first `?`, names the route by
its last segment once the slashes around it are dropped, and the text after
that `?` is the query.

**Targets.**  The route of a path is the last run of characters other than
`/` before its trailing slashes (`lastRun`).  Said without the loop: the
path is some text that is empty or ends in `/`, the route, and slashes
(`LastSegment`).  A target asks for a route and a query (`Asks`) when it
splits at its first `?` into a path and the query and the route is the last
segment of that path.  A path of slashes only names no route, and the line
is refused.

**Bare targets.**  A target that starts with `/` and holds no blank reads as
the same request line as `GET` followed by it.  A blank inside the target
is another matter: the line is cut there, and the text before it is read as
a method, which a text starting with `/` never names, so the line is
refused where `GET` followed by the same target is read.

**Results.**
* `lastSegment_iff`: the route the loop finds is the last segment of the path.
* `readTarget_toOption`: a target reads as exactly the route and query it asks for.
* `parse_getPrefixed`, `parse_bare_noBlank`, `parse_bare_blank`: the three ways a target is read.
* `parse_bareTarget`: a bare target and the same target after `GET`.
-/

namespace RestQuery

namespace Text

theorem dropBlank_of_head {cs : List Char} (h : ∀ c, cs.head? = some c → isBlank c = false) :
    dropBlank cs = cs := by
  cases cs with
  | nil => rfl
  | cons c rest => exact List.dropWhile_cons_of_neg (by simp [h c rfl])

/-- What is left after dropping a run starts with a character that does not continue it. -/
theorem head_dropWhile (p : Char → Bool) (cs : List Char) :
    ∀ c, (cs.dropWhile p).head? = some c → p c = false := by
  intro c hc
  have hne : cs.dropWhile p ≠ [] := by
    intro h
    simp [h] at hc
  rw [List.head?_eq_some_head hne, Option.some.injEq] at hc
  rw [← hc]
  exact List.head_dropWhile_not p hne

theorem head_dropBlank (cs : List Char) : ∀ c, (dropBlank cs).head? = some c → isBlank c = false :=
  head_dropWhile isBlank cs

theorem dropBlank_dropBlank (cs : List Char) : dropBlank (dropBlank cs) = dropBlank cs :=
  dropBlank_of_head (head_dropBlank cs)

theorem trim_toList_eq (s : String) :
    (trim s).toList = (dropBlank (dropBlank s.toList).reverse).reverse := by
  simp [trim, trimEnd, trimStart]

/-- A list is what trimming its end keeps, then the blanks trimmed off. -/
theorem dropBlank_reverse_append (cs : List Char) :
    (dropBlank cs.reverse).reverse ++ (cs.reverse.takeWhile isBlank).reverse = cs := by
  rw [← List.reverse_append, dropBlank, List.takeWhile_append_dropWhile, List.reverse_reverse]

/-- Trimming the end of a list keeps something when the list holds a character other than a
blank. -/
theorem dropBlank_reverse_ne_nil {cs : List Char} {c : Char} (hc : c ∈ cs)
    (hb : isBlank c = false) : dropBlank cs.reverse ≠ [] := by
  intro h
  have hall := dropBlank_reverse_append cs
  rw [h, List.reverse_nil, List.nil_append] at hall
  have hmem : c ∈ cs.reverse.takeWhile isBlank := by
    rw [← List.mem_reverse, hall]
    exact hc
  rw [List.mem_takeWhile_imp hmem] at hb
  cases hb

/-- Trimming a trimmed text changes nothing. -/
theorem trim_trim (s : String) : trim (trim s) = trim s := by
  rw [← String.toList_inj, trim_toList_eq, trim_toList_eq]
  -- the end of the trimmed start is cut off, so what is left starts where the trimmed start does
  have hB : ∀ c, (dropBlank (dropBlank s.toList).reverse).reverse.head? = some c →
      isBlank c = false := by
    intro c hc
    apply head_dropBlank s.toList c
    rw [← dropBlank_reverse_append (dropBlank s.toList), List.head?_append, hc]
    rfl
  rw [dropBlank_of_head hB, List.reverse_reverse, dropBlank_dropBlank]

/-- A text that starts with a character other than a blank has nothing to trim at its start. -/
theorem trimStart_of_head {s : String} {c : Char} (hs : s.toList.head? = some c)
    (hc : isBlank c = false) : trimStart s = s := by
  rw [trimStart, dropBlank_of_head fun d hd => by rw [hs, Option.some.injEq] at hd; rwa [← hd],
    String.ofList_toList]

/-- Trimming the end of a text stops inside its last part when that part holds a character
other than a blank. -/
theorem trimEnd_append (u : String) {t : String} (ht : ∃ c ∈ t.toList, isBlank c = false) :
    trimEnd (u ++ t) = u ++ trimEnd t := by
  obtain ⟨c, hc, hb⟩ := ht
  have hne := dropBlank_reverse_ne_nil (List.mem_reverse.mpr hc) hb
  rw [← String.toList_inj]
  simp only [trimEnd, String.toList_append, String.toList_ofList, List.reverse_append, dropBlank,
    List.dropWhile_append]
  rw [if_neg (by simpa [dropBlank] using hne), List.reverse_append, List.reverse_reverse]

theorem trim_of_head {s : String} {c : Char} (hs : s.toList.head? = some c)
    (hc : isBlank c = false) : trim s = trimEnd s := by
  rw [trim, trimStart_of_head hs hc]

theorem head_trimEnd {s : String} {c : Char} (hs : s.toList.head? = some c)
    (hc : isBlank c = false) : (trimEnd s).toList.head? = some c := by
  -- the trimmed end is not empty, for it ends no later than `c`
  have hne : (dropBlank s.toList.reverse).reverse ≠ [] :=
    List.reverse_ne_nil_iff.mpr (dropBlank_reverse_ne_nil (List.mem_of_mem_head? hs) hc)
  rw [← dropBlank_reverse_append s.toList, List.head?_append_of_ne_nil _ hne] at hs
  simpa [trimEnd] using hs

end Text

namespace Cli

open Schema

section Blanks

theorem splitAtBlank_cons (c : Char) (cs : List Char) :
    splitAtBlank (c :: cs) =
      if Text.isBlank c then some ([], cs) else (splitAtBlank cs).map fun p => (c :: p.1, p.2) := by
  unfold splitAtBlank
  rw [List.findIdx?_cons]
  cases hc : Text.isBlank c
  · cases List.findIdx? Text.isBlank cs <;> simp
  · simp

theorem splitAtBlank_eq_none {cs : List Char} :
    splitAtBlank cs = none ↔ ∀ c ∈ cs, Text.isBlank c = false := by
  unfold splitAtBlank
  rw [← List.findIdx?_eq_none_iff]
  cases List.findIdx? Text.isBlank cs <;> simp

/-- What stands before the first blank of a line is read as its method. -/
theorem splitAtBlank_fst {cs m rest : List Char} (h : splitAtBlank cs = some (m, rest)) :
    m = cs.takeWhile fun c => !Text.isBlank c := by
  induction cs generalizing m rest with
  | nil => simp [splitAtBlank] at h
  | cons c cs ih =>
    rw [splitAtBlank_cons] at h
    cases hc : Text.isBlank c
    · simp only [hc, Bool.false_eq_true, if_false, Option.map_eq_some_iff, Prod.mk.injEq,
        Prod.exists] at h
      obtain ⟨m', r', h', rfl, -⟩ := h
      simp [hc, ih h']
    · simp only [hc, if_true, Option.some.injEq, Prod.mk.injEq] at h
      simp [hc, ← h.1]

end Blanks

section Route

/-- The last run of characters other than `/` in a path, before the slashes at its end. -/
def lastRun (path : List Char) : List Char :=
  ((path.reverse.dropWhile (· == '/')).takeWhile (· != '/')).reverse

/-- `route` is the last segment of `path`: the path is a part that is empty or ends in `/`, then
the route, a nonempty text without `/`, then nothing but slashes. -/
def LastSegment (path route : List Char) : Prop :=
  route ≠ [] ∧ '/' ∉ route ∧
    ∃ pre post, path = pre ++ route ++ post ∧ (∀ c ∈ post, c = '/') ∧
      (pre = [] ∨ pre.getLast? = some '/')

/-- A run stops before a first character that does not continue it. -/
theorem takeWhile_append_of_head {p : Char → Bool} (l : List Char) {m : List Char}
    (hm : ∀ x, m.head? = some x → p x = false) : (l ++ m).takeWhile p = l.takeWhile p := by
  induction l with
  | nil =>
    cases m with
    | nil => rfl
    | cons x m => exact List.takeWhile_cons_of_neg (by simp [hm x rfl])
  | cons a l ih => simp [List.takeWhile_cons, ih]

/-- The route the loop finds is the last segment of the path, and it is unique. -/
theorem lastSegment_iff {path route : List Char} :
    LastSegment path route ↔ route ≠ [] ∧ lastRun path = route := by
  constructor
  · rintro ⟨hne, hslash, pre, post, rfl, hpost, hpre⟩
    refine ⟨hne, ?_⟩
    obtain ⟨x, xs, hx⟩ := List.exists_cons_of_ne_nil (List.reverse_ne_nil_iff.mpr hne)
    have hxr : x ∈ route := List.mem_reverse.mp (by rw [hx]; exact List.mem_cons_self)
    have hx' : x ≠ '/' := fun h => hslash (h ▸ hxr)
    have hpost' : ∀ c ∈ post.reverse, (c == '/') = true := fun c hc => by
      simp [hpost c (List.mem_reverse.mp hc)]
    have hroute : ∀ c ∈ route.reverse, (c != '/') = true := fun c hc => by
      have : c ≠ '/' := fun h => hslash (h ▸ List.mem_reverse.mp hc)
      simpa using this
    -- before the route there is nothing or a slash, where the run stops
    have hpre' : ∀ y, pre.reverse.head? = some y → (y != '/') = false := by
      intro y hy
      rcases hpre with rfl | hl
      · simp at hy
      · rw [List.head?_reverse, hl, Option.some.injEq] at hy
        simp [← hy]
    unfold lastRun
    rw [List.reverse_append, List.reverse_append,
      List.dropWhile_append_of_pos hpost', hx, List.cons_append,
      List.dropWhile_cons_of_neg (by simpa using hx'), ← List.cons_append, ← hx,
      takeWhile_append_of_head _ hpre', List.takeWhile_eq_self_iff.mpr hroute,
      List.reverse_reverse]
  · rintro ⟨hne, rfl⟩
    set D := path.reverse.dropWhile (· == '/')
    set T := path.reverse.takeWhile (· == '/')
    set R := D.takeWhile (· != '/')
    set E := D.dropWhile (· != '/')
    have hpath : path = E.reverse ++ R.reverse ++ T.reverse := by
      have h1 : T ++ D = path.reverse := List.takeWhile_append_dropWhile
      have h2 : R ++ E = D := List.takeWhile_append_dropWhile
      rw [← List.reverse_append, ← List.reverse_append, h2, h1, List.reverse_reverse]
    refine ⟨hne, fun h => ?_, E.reverse, T.reverse, hpath, fun c hc => ?_, ?_⟩
    · have := List.mem_takeWhile_imp (List.mem_reverse.mp h)
      simp at this
    · have := List.mem_takeWhile_imp (List.mem_reverse.mp hc)
      simpa using this
    · -- what is left before the route starts, read backwards, at a slash
      cases hE : E with
      | nil => exact Or.inl rfl
      | cons e es =>
        have hhead : (D.dropWhile (· != '/')).head? = some e := by
          rw [show D.dropWhile (· != '/') = E from rfl, hE]
          rfl
        have he' : e = '/' := by simpa using Text.head_dropWhile (· != '/') D e hhead
        right
        simp [he']

/-- The last piece of a split at `sep` is the run after the last `sep`. -/
theorem getLast_splitOnAux (sep : Char) (cs : List Char) :
    ∀ acc : List Char, sep ∉ acc →
      (Text.splitOnAux sep acc cs).getLast? =
        some (((acc.reverse ++ cs).reverse.takeWhile (· != sep)).reverse) := by
  induction cs with
  | nil =>
    intro acc hacc
    have hall : ∀ c ∈ acc, (c != sep) = true := fun c hc => by
      have : c ≠ sep := fun h => hacc (h ▸ hc)
      simpa using this
    simp [Text.splitOnAux, List.takeWhile_eq_self_iff.mpr hall]
  | cons c rest ih =>
    intro acc hacc
    rw [Text.splitOnAux]
    split
    · next hc =>
      -- the run after the last separator is in `rest`, or all of it when it has none
      subst hc
      rw [List.getLast?_cons, ih [] List.not_mem_nil, Option.getD_some]
      simp only [List.reverse_nil, List.nil_append, List.reverse_append, List.reverse_cons,
        List.reverse_reverse, List.append_assoc, List.singleton_append]
      rw [takeWhile_append_of_head _ (by simp)]
    · next hc =>
      rw [ih (c :: acc) (by simp [Ne.symm hc, hacc])]
      simp

/-- Dropping the slashes at the start of a path does not change its last run. -/
theorem takeWhile_trimSlashes (path : List Char) :
    ((path.dropWhile (· == '/')).reverse.dropWhile (· == '/')).takeWhile (· != '/') =
      (path.reverse.dropWhile (· == '/')).takeWhile (· != '/') := by
  set L := path.takeWhile (· == '/')
  set R := path.dropWhile (· == '/')
  have hpath : path.reverse = R.reverse ++ L.reverse := by
    rw [← List.reverse_append, List.takeWhile_append_dropWhile]
  have hL : ∀ c ∈ L.reverse, (c == '/') = true := fun c hc =>
    List.mem_takeWhile_imp (p := fun x => x == '/') (List.mem_reverse.mp hc)
  rw [hpath, List.dropWhile_append]
  split
  · next hD =>
    rw [List.isEmpty_iff.mp hD, List.dropWhile_eq_nil_iff.mpr hL]
  · rw [takeWhile_append_of_head]
    intro y hy
    have := hL y (List.mem_of_mem_head? hy)
    simpa using this

/-- The route a path names is its last run. -/
theorem route_eq (path : String) :
    ((Text.split (trimSlashes path) '/').getLast?).getD "" = String.ofList (lastRun path.toList) := by
  rw [Text.split, List.getLast?_map, Text.splitOn, getLast_splitOnAux '/' _ [] List.not_mem_nil]
  simp only [List.reverse_nil, List.nil_append, Option.map_some, Option.getD_some, trimSlashes,
    String.toList_ofList, List.reverse_reverse]
  rw [takeWhile_trimSlashes]
  rfl

end Route

section Target

/-- `target` splits at its first `?` into `path` and `query`; a target without `?` is all path,
with an empty query. -/
def SplitsAtQuery (target path query : List Char) : Prop :=
  (target = path ++ '?' :: query ∧ '?' ∉ path) ∨ ('?' ∉ target ∧ path = target ∧ query = [])

/-- What a target asks for: it splits at its first `?` into a path and the query, and the route
is the last segment of the path. -/
def Asks (target route query : List Char) : Prop :=
  ∃ path, SplitsAtQuery target path query ∧ LastSegment path route

theorem splitsAtQuery_iff {target path query : List Char} :
    SplitsAtQuery target path query ↔
      (Text.splitOnceChars '?' target).getD (target, []) = (path, query) := by
  cases h : Text.splitOnceChars '?' target with
  | none =>
    have hq := Text.splitOnceChars_eq_none.mp h
    simp only [SplitsAtQuery, Option.getD_none, Prod.mk.injEq]
    constructor
    · rintro (⟨rfl, -⟩ | ⟨-, rfl, rfl⟩)
      · simp at hq
      · exact ⟨rfl, rfl⟩
    · rintro ⟨rfl, rfl⟩
      exact Or.inr ⟨hq, rfl, rfl⟩
  | some pq =>
    obtain ⟨before, after⟩ := pq
    obtain ⟨rfl, hb⟩ := Text.splitOnceChars_eq_some.mp h
    simp only [SplitsAtQuery, Option.getD_some, Prod.mk.injEq]
    constructor
    · rintro (⟨he, hp⟩ | ⟨hq, -, -⟩)
      · have h' := Text.splitOnceChars_eq_some.mpr ⟨he, hp⟩
        rw [h, Option.some.injEq, Prod.mk.injEq] at h'
        exact h'
      · simp at hq
    · rintro ⟨rfl, rfl⟩
      exact Or.inl ⟨rfl, hb⟩

theorem splitOnce_getD (s : String) (sep : Char) :
    (Text.splitOnce s sep).getD (s, "") =
      (String.ofList ((Text.splitOnceChars sep s.toList).getD (s.toList, [])).1,
        String.ofList ((Text.splitOnceChars sep s.toList).getD (s.toList, [])).2) := by
  unfold Text.splitOnce
  cases Text.splitOnceChars sep s.toList <;> simp

/-- The request line of a method and a target, as the reader builds it; a missing route is
reported with the whole `line`. -/
def readTarget (method : Method) (line target : String) : Except Failure RequestLine :=
  let (path, query) := (Text.splitOnce target '?').getD (target, "")
  let route := ((Text.split (trimSlashes path) '/').getLast?).getD ""
  if route.isEmpty then .error { message := "请求缺少路由: " ++ line } else .ok { method, route, query }

/-- A target reads as exactly the route and query it asks for, and fails when it asks for
none. -/
theorem readTarget_toOption (method : Method) (line target : String) (r : RequestLine) :
    (readTarget method line target).toOption = some r ↔
      r.method = method ∧ Asks target.toList r.route.toList r.query.toList := by
  unfold readTarget
  rw [splitOnce_getD]
  dsimp only
  rw [route_eq, String.toList_ofList]
  generalize hpq : (Text.splitOnceChars '?' target.toList).getD (target.toList, []) = pq
  -- the split of a target is unique, so asking is a condition on the route and the query alone
  have hasks : Asks target.toList r.route.toList r.query.toList ↔
      r.query.toList = pq.2 ∧ r.route.toList ≠ [] ∧ lastRun pq.1 = r.route.toList := by
    simp only [Asks, splitsAtQuery_iff, hpq, lastSegment_iff]
    constructor
    · rintro ⟨path, rfl, hne, hrun⟩
      exact ⟨rfl, hne, hrun⟩
    · rintro ⟨hq, hne, hrun⟩
      exact ⟨pq.1, Prod.ext rfl hq.symm, hne, hrun⟩
  rw [hasks]
  cases r with
  | mk m route query =>
    by_cases hrun : lastRun pq.1 = []
    · simp only [hrun, String.ofList_nil]
      simp [Except.toOption]
    · have hrun' : (String.ofList (lastRun pq.1)).isEmpty = false := by
        simpa [String.isEmpty_iff, String.ofList_eq] using hrun
      simp only [hrun', Bool.false_eq_true, if_false, Except.toOption, Option.some.injEq,
        RequestLine.mk.injEq]
      constructor
      · rintro ⟨rfl, rfl, rfl⟩
        simp [hrun]
      · rintro ⟨rfl, hq, -, hr⟩
        refine ⟨rfl, ?_, ?_⟩
        · rw [String.ofList_eq, hr]
        · rw [String.ofList_eq, hq]

/-- Whether a target reads does not depend on the line its failure would quote. -/
theorem readTarget_toOption_line (method : Method) (line line' target : String) :
    (readTarget method line target).toOption = (readTarget method line' target).toOption := by
  unfold readTarget
  dsimp only
  split <;> rfl

end Target

section Reading

theorem parse_of_noBlank {line : String} (h : splitAtBlank (Text.trim line).toList = none) :
    RequestLine.parse line = readTarget .get (Text.trim line) (Text.trim line) := by
  unfold RequestLine.parse readTarget
  dsimp only
  rw [h]
  dsimp only
  simp only [pure_bind]
  split <;> rfl

theorem parse_of_method {line : String} {m t : List Char} {method : Method}
    (h : splitAtBlank (Text.trim line).toList = some (m, t))
    (hm : Method.parse (String.ofList m) = .ok method) :
    RequestLine.parse line = readTarget method (Text.trim line) (Text.trim (String.ofList t)) := by
  unfold RequestLine.parse readTarget
  dsimp only
  rw [h]
  dsimp only
  rw [hm]
  simp only [pure_bind]
  split <;> rfl

theorem parse_of_unknownMethod {line : String} {m t : List Char} {e : RequestError}
    (h : splitAtBlank (Text.trim line).toList = some (m, t))
    (hm : Method.parse (String.ofList m) = .error e) :
    RequestLine.parse line =
      .error { message := "不支持的HTTP方法: " ++ String.ofList m, causes := [e.message] } := by
  unfold RequestLine.parse
  dsimp only
  rw [h]
  dsimp only
  rw [hm]
  rfl

/-- A text that starts with a slash names no method: its upper case starts with the slash. -/
theorem upperText_ne_name {s : String} (hs : s.toList.head? = some '/') (m : Method) :
    Text.Case.upperText s ≠ m.name := by
  obtain ⟨rest, hr⟩ := List.head?_eq_some_iff.mp hs
  have hhead : (Text.Case.upperText s).toList.head? = some '/' := by
    rw [Text.Case.upperText, String.toList_ofList, hr, List.flatMap_cons,
      Text.Case.upper_ascii '/' (by decide)]
    rfl
  intro h
  rw [h] at hhead
  cases m <;> exact absurd hhead (by decide)

theorem trim_getPrefixed {t : String} (ht : t.toList.head? = some '/') :
    Text.trim ("GET " ++ t) = "GET " ++ Text.trim t := by
  have hslash : Text.isBlank '/' = false := by decide
  have hG : ("GET " ++ t).toList.head? = some 'G' := by simp
  rw [Text.trim_of_head hG (by decide),
    Text.trimEnd_append _ ⟨'/', List.mem_of_mem_head? ht, hslash⟩, Text.trim_of_head ht hslash]

/-- After `GET` and a blank, a target that starts with a slash is read for `GET`. -/
theorem parse_getPrefixed (t : String) (ht : t.toList.head? = some '/') :
    RequestLine.parse ("GET " ++ t) = readTarget .get ("GET " ++ Text.trim t) (Text.trim t) := by
  have hsplit : splitAtBlank (Text.trim ("GET " ++ t)).toList =
      some (['G', 'E', 'T'], (Text.trim t).toList) := by
    rw [trim_getPrefixed ht, String.toList_append]
    simp [splitAtBlank_cons, Text.isBlank, Text.blankRanges]
  have hget : Method.parse (String.ofList ['G', 'E', 'T']) = .ok .get := Method.parse_name .get
  rw [parse_of_method hsplit hget, trim_getPrefixed ht, String.ofList_toList, Text.trim_trim]

/-- A target without a blank is read for `GET`. -/
theorem parse_bare_noBlank {t : String}
    (hb : ∀ c ∈ (Text.trim t).toList, Text.isBlank c = false) :
    RequestLine.parse t = readTarget .get (Text.trim t) (Text.trim t) :=
  parse_of_noBlank (splitAtBlank_eq_none.mpr hb)

/-- A target that starts with a slash and holds a blank is cut there, and what stands before
the blank is refused as a method. -/
theorem parse_bare_blank {t : String} (ht : t.toList.head? = some '/')
    (hb : ∃ c ∈ (Text.trim t).toList, Text.isBlank c = true) :
    ∃ causes, RequestLine.parse t = .error
      { message := "不支持的HTTP方法: " ++
          String.ofList ((Text.trim t).toList.takeWhile fun c => !Text.isBlank c), causes } := by
  have hslash : Text.isBlank '/' = false := by decide
  have hhead : (Text.trim t).toList.head? = some '/' := by
    rw [Text.trim_of_head ht hslash]
    exact Text.head_trimEnd ht hslash
  obtain ⟨⟨m, rest⟩, hsplit⟩ : ∃ p, splitAtBlank (Text.trim t).toList = some p := by
    cases h : splitAtBlank (Text.trim t).toList with
    | none =>
      obtain ⟨c, hc, hcb⟩ := hb
      rw [splitAtBlank_eq_none.mp h c hc] at hcb
      cases hcb
    | some p => exact ⟨p, rfl⟩
  have hm := splitAtBlank_fst hsplit
  have hname : (String.ofList m).toList.head? = some '/' := by
    obtain ⟨rest', hr⟩ := List.head?_eq_some_iff.mp hhead
    rw [String.toList_ofList, hm, hr, List.takeWhile_cons_of_pos (by simp [hslash])]
    rfl
  obtain ⟨e, he⟩ := Method.parse_eq_error_iff_upperText.mpr (upperText_ne_name hname)
  exact ⟨[e.message], by rw [parse_of_unknownMethod hsplit he, hm]⟩

/-- A bare target that starts with a slash, and the same target after `GET`: the latter reads
as exactly the route and query the target asks for; without a blank in it the bare target reads
the same, and with one it is refused as an unknown method. -/
theorem parse_bareTarget (t : String) (ht : t.toList.head? = some '/') :
    (∀ r, (RequestLine.parse ("GET " ++ t)).toOption = some r ↔
        r.method = .get ∧ Asks (Text.trim t).toList r.route.toList r.query.toList) ∧
      ((∀ c ∈ (Text.trim t).toList, Text.isBlank c = false) →
        (RequestLine.parse t).toOption = (RequestLine.parse ("GET " ++ t)).toOption) ∧
      ((∃ c ∈ (Text.trim t).toList, Text.isBlank c = true) →
        ∃ causes, RequestLine.parse t = .error
          { message := "不支持的HTTP方法: " ++
              String.ofList ((Text.trim t).toList.takeWhile fun c => !Text.isBlank c), causes }) := by
  refine ⟨fun r => ?_, fun hb => ?_, parse_bare_blank ht⟩
  · rw [parse_getPrefixed t ht, readTarget_toOption]
  · rw [parse_bare_noBlank hb, parse_getPrefixed t ht, readTarget_toOption_line]

theorem orders_bareTarget :
    "/orders".toList.head? = some '/' ∧
      ((∀ r, (RequestLine.parse ("GET " ++ "/orders")).toOption = some r ↔
          r.method = .get ∧ Asks (Text.trim "/orders").toList r.route.toList r.query.toList) ∧
        ((∀ c ∈ (Text.trim "/orders").toList, Text.isBlank c = false) →
          (RequestLine.parse "/orders").toOption = (RequestLine.parse ("GET " ++ "/orders")).toOption) ∧
        ((∃ c ∈ (Text.trim "/orders").toList, Text.isBlank c = true) →
          ∃ causes, RequestLine.parse "/orders" = .error
            { message := "不支持的HTTP方法: " ++
                String.ofList ((Text.trim "/orders").toList.takeWhile fun c => !Text.isBlank c),
              causes })) :=
  ⟨by decide, parse_bareTarget "/orders" (by decide)⟩

/-- With a blank in its filter, a bare target is refused, while the same target after `GET` is
read. -/
theorem spacedTarget_refused :
    (RequestLine.parse "/customers?where=[name,eq,Ann Lee]").toOption.isNone = true ∧
      ((RequestLine.parse "GET /customers?where=[name,eq,Ann Lee]").toOption.map
        fun r => (r.method, r.route, r.query)) = some (.get, "customers", "where=[name,eq,Ann Lee]") := by
  decide

end Reading

end Cli

end RestQuery
