import RestQuery.Proofs.TokenLayout
import RestQuery.Proofs.FailedParse

/-!
# Where a malformed filter is reported

A malformed filter is reported with a byte offset: the start of the token at
which reading the clauses stopped.  The offset counts in the text that was
read, and that is not the `where` value as the client sent it: translation
first trims the value of blanks at both ends and strips a doubled outer
bracket, `[[…]]`, down to a single one.  So the offset of the faulty token
in the client's value is the reported offset plus the bytes of the leading
blanks, plus one when the outer bracket was stripped.

The proof has three parts.  Only reading the filter text can fail as
malformed (`build_raises`), so a request refused for a malformed filter has
a `where` value whose trimmed, unwrapped text reads with that very fault.
A fault of the token reader is reported at the start of one of the tokens
it was given (`parseTokens_error_position`), and each token's start is the
byte offset of its text in the scanned text (`Layout.lexemes`).  Trimming
and unwrapping keep the scanned text as one stretch of the value, after the
leading blanks and the stripped bracket (`trim_toList`,
`stripWrapper_cases`).

**Results.**
* `parseTokens_error_position`: a fault is reported at a token's start.
* `Layout.lexemes`: every token's text and where it starts.
* `trim_toList`: trimming keeps the middle of a text.
* `build_raises`: the only malformed filter a translation reports is the
  fault of its own filter text.
* `translate_faultOffset`: where the token reported for a malformed filter
  stands in the `where` value as sent.
* `wrapped_faultOffset`: `[[a,eq,1]XOR[b,eq,2]]` is reported at byte 8,
  where the value has the first clause's closing bracket; the faulty `XOR`
  starts at byte 9.
-/

namespace RestQuery

namespace Filter

/-- A fault found while reading tokens is reported at the start of one of them, or at the offset
of the connective still waiting for its clause. -/
theorem parseTokens_error_position {m : Malformed} :
    ∀ {pending : Option (Connective × Nat)} {ts : List Token}, parseTokens pending ts = .error m →
      (∃ t ∈ ts, t.span.start = m.position) ∨ ∃ c, pending = some (c, m.position)
  | pending, [], h => by
    cases pending with
    | none => cases h
    | some p =>
      obtain ⟨c, q⟩ := p
      cases h
      exact .inr ⟨c, rfl⟩
  | pending, t :: ts, h => by
    -- the fault is this token's, or a later one's; a connective read here waits at this token
    unfold parseTokens at h
    split at h
    · split at h
      · cases h
        exact .inl ⟨t, List.mem_cons_self .., rfl⟩
      · rcases parseTokens_error_position h with ⟨t', ht', hs⟩ | ⟨c, hc⟩
        · exact .inl ⟨t', List.mem_cons_of_mem _ ht', hs⟩
        · exact .inl ⟨t, List.mem_cons_self .., (Prod.mk.inj (Option.some.inj hc)).2⟩
    · split at h
      · cases h
        exact .inl ⟨t, List.mem_cons_self .., rfl⟩
      · rcases parseTokens_error_position h with ⟨t', ht', hs⟩ | ⟨c, hc⟩
        · exact .inl ⟨t', List.mem_cons_of_mem _ ht', hs⟩
        · exact .inl ⟨t, List.mem_cons_self .., (Prod.mk.inj (Option.some.inj hc)).2⟩
    · rename_i body _
      rcases Sql.bind_eq_error.mp h with hcl | ⟨cl, -, hrest⟩
      · -- a body that does not read is reported at its own clause
        unfold parseClause at hcl
        dsimp only at hcl
        split at hcl
        · split at hcl
          · cases hcl
            exact .inl ⟨t, List.mem_cons_self .., rfl⟩
          · split at hcl
            · cases hcl
              exact .inl ⟨t, List.mem_cons_self .., rfl⟩
            · cases hcl
        · cases hcl
          exact .inl ⟨t, List.mem_cons_self .., rfl⟩
      · rcases Sql.bind_eq_error.mp hrest with hts | ⟨_, -, hpure⟩
        · rcases parseTokens_error_position hts with ⟨t', ht', hs⟩ | ⟨c, hc⟩
          · exact .inl ⟨t', List.mem_cons_of_mem _ ht', hs⟩
          · cases hc
        · cases hpure
    · split at h <;> cases h <;> exact .inl ⟨t, List.mem_cons_self .., rfl⟩

/-- Every token of a layout stands for a stretch `mid` of the text, read as its lexeme with `post`
after it, and starts at the byte offset of what comes before. -/
theorem Layout.lexemes {pos : Nat} {cs : List Char} {ts : List Token} (h : Layout pos cs ts) :
    ∀ t ∈ ts, ∃ pre mid post, cs = pre ++ mid ++ post ∧ Lexeme t.kind mid post ∧
      t.span.start = pos + byteLength pre := by
  induction h with
  | blanks => simp
  | @token pos w mid rest t ts _ hlex hspan _ ih =>
    intro t' ht'
    rcases List.mem_cons.mp ht' with rfl | ht'
    · exact ⟨w, mid, rest, rfl, hlex, by rw [hspan]⟩
    · obtain ⟨pre, mid', post, rfl, hlex', hstart⟩ := ih t' ht'
      refine ⟨w ++ mid ++ pre, mid', post, by simp, hlex', ?_⟩
      rw [hstart]
      simp only [byteLength_append]
      omega

/-- The fault of a filter text is reported at the start of one of its tokens, which stands for a
stretch of the text starting at that byte offset. -/
theorem parse_error_lexeme {s : String} {m : Malformed} (h : parse s = .error m) :
    ∃ t ∈ scan s, t.span.start = m.position ∧
      ∃ pre mid post, s.toList = pre ++ mid ++ post ∧ Lexeme t.kind mid post ∧
        m.position = byteLength pre := by
  rcases parseTokens_error_position h with ⟨t, ht, hpos⟩ | ⟨c, hc⟩
  · obtain ⟨pre, mid, post, hs, hlex, hstart⟩ := (scanFrom_layout 0 s.toList).lexemes t ht
    refine ⟨t, ht, hpos, pre, mid, post, hs, hlex, ?_⟩
    rw [← hpos, hstart, Nat.zero_add]
  · cases hc

end Filter

namespace Text

/-- Trimming keeps the middle of a text: the leading blanks come before it and blanks only after
it. -/
theorem trim_toList (s : String) :
    ∃ trail, s.toList = s.toList.takeWhile isBlank ++ (trim s).toList ++ trail ∧
      ∀ c ∈ trail, isBlank c = true := by
  set x := s.toList.dropWhile isBlank
  have hstart : s.toList = s.toList.takeWhile isBlank ++ x := (List.takeWhile_append_dropWhile).symm
  -- trimming the end drops the leading blanks of the reversed text
  have hend : x = (x.reverse.dropWhile isBlank).reverse ++ (x.reverse.takeWhile isBlank).reverse := by
    rw [← List.reverse_append, List.takeWhile_append_dropWhile, List.reverse_reverse]
  have htrim : (trim s).toList = (x.reverse.dropWhile isBlank).reverse := by
    simp [trim, trimEnd, trimStart, dropBlank, x]
  refine ⟨(x.reverse.takeWhile isBlank).reverse, ?_, fun c hc => ?_⟩
  · rw [htrim, List.append_assoc, ← hend]
    exact hstart
  · rw [List.mem_reverse] at hc
    exact List.all_eq_true.mp List.all_takeWhile c hc

end Text

namespace Request

open Plan Schema

/-- A weaker condition on failures holds of a step whose failures meet a stronger one. -/
theorem Raises.mono {α : Type} {E E' : RequestError → Prop} {b : Build α} (h : Raises E b)
    (hE : ∀ e, E e → E' e) : Raises E' b :=
  fun w e w' hrun => hE e (h w e w' hrun)

theorem Raises.liftExcept {α : Type} {E : RequestError → Prop} {x : Except RequestError α}
    (h : ∀ e, x = .error e → E e) : Raises E (liftExcept x) := by
  intro w e w' hrun
  exact h e (Build.liftExcept_run_error hrun).1

theorem Raises.note {E : RequestError → Prop} (n : Note) : Raises E (note n) := by
  intro w e w' hrun
  cases hrun

theorem Raises.currentTree {E : RequestError → Prop} : Raises E currentTree := by
  intro w e w' hrun
  cases hrun

/-- A failure of translating `p` that is no malformed filter, or the fault of `p`'s own filter
text once it is trimmed and its outer brackets are stripped. -/
def FilterFault (p : Params) (e : RequestError) : Prop :=
  (∀ m, e ≠ .malformedFilter m) ∨
    ∃ v m, present p.filter = some v ∧ Filter.parse (stripWrapper v) = .error m ∧ e = .malformedFilter m

theorem FilterFault.of_unknownPath {p : Params} {e : RequestError} (h : UnknownPath e) :
    FilterFault p e := by
  obtain ⟨path, segment, rfl⟩ := h
  exact .inl fun m => by simp

theorem FilterFault.of_invalidParameter {p : Params} {name value : String} {r : Reason} :
    FilterFault p (.invalidParameter name value r) :=
  .inl fun m => by simp

theorem FilterFault.of_malformedGroup {p : Params} {parameter group : String} :
    FilterFault p (.malformedGroup parameter group) :=
  .inl fun m => by simp

section Steps

variable (tr : Translator) (p : Params)

theorem includeStep_raises : Raises (FilterFault p) (tr.includeStep p) := by
  unfold Translator.includeStep
  split
  · refine Raises.bind ?_ fun _ => Raises.bind Raises.currentTree fun _ => Raises.note _
    refine Raises.sequential.forM (fun path => ?_) _
    show Raises _ ((fun _ => PUnit.unit) <$> resolve tr.registry 0 (Text.trim path))
    refine Raises.sequential.map (Raises.mono ?_ fun e => FilterFault.of_unknownPath)
    rw [resolve_eq]
    exact resolveSegments_raises 0 _
  · exact Raises.pure _

/-- Reading the filter fails as malformed only with the fault of its own text. -/
theorem filterStep_raises : Raises (FilterFault p) (tr.filterStep p) := by
  unfold Translator.filterStep
  split
  · rename_i v hv
    intro w e w' hrun
    unfold Translator.readFilter at hrun
    rw [Build.run_tryCatch, Build.run_map] at hrun
    rcases hx : (parseWhere tr.registry (stripWrapper v)).run w with ⟨e₁ | pf, w₁⟩
    · rw [hx] at hrun
      dsimp only at hrun
      split at hrun
      · -- a malformed text: refused when filters are strict, and then with its own fault
        rename_i m
        have hparse := (parseWhere_run_malformed hx).1
        split at hrun
        · rw [Build.run_throw] at hrun
          cases hrun
          exact .inr ⟨v, m, hv, hparse, rfl⟩
        · rw [Build.run_bind, Build.run_note] at hrun
          cases hrun
      · rw [Build.run_throw] at hrun
        cases hrun
        rcases parseWhere_run_error hx with hu | ⟨⟨m, rfl⟩, -⟩
        · exact FilterFault.of_unknownPath hu
        · rename_i hnot
          exact absurd rfl (hnot m)
    · rw [hx] at hrun
      cases hrun
  · exact Raises.pure _

theorem attributesStep_raises : Raises (FilterFault p) (tr.attributesStep p) := by
  unfold Translator.attributesStep
  split
  · intro w e w' hrun
    rcases parseAttributes_run_error hrun with hu | ⟨_, _, _, _, _, _, rfl, _⟩
    · exact FilterFault.of_unknownPath hu
    · exact FilterFault.of_malformedGroup
  · exact Raises.pure _

theorem aggregateStep_raises : Raises (FilterFault p) (tr.aggregateStep p) := by
  unfold Translator.aggregateStep
  split
  · refine Raises.sequential.map ?_
    intro w e w' hrun
    rcases parseAggregate_run_error hrun with hu | ⟨⟨_, _, _, rfl⟩, -⟩ | ⟨⟨_, rfl⟩, -⟩
    · exact FilterFault.of_unknownPath hu
    · exact FilterFault.of_invalidParameter
    · exact FilterFault.of_invalidParameter
  · exact Raises.pure _

theorem orderStep_raises : Raises (FilterFault p) (tr.orderStep p) := by
  unfold Translator.orderStep
  split
  · intro w e w' hrun
    rcases parseOrder_run_error hrun with hu | ⟨_, _, _, _, _, _, _, ⟨rfl, -⟩ | ⟨⟨_, rfl⟩, -⟩⟩
    · exact FilterFault.of_unknownPath hu
    · exact FilterFault.of_malformedGroup
    · exact FilterFault.of_invalidParameter
  · exact Raises.pure _

theorem parseCount_raises (name : String) (o : Option String) :
    Raises (FilterFault p) (liftExcept (o.mapM (parseCount name))) := by
  refine Raises.liftExcept fun e he => ?_
  cases o with
  | none => cases he
  | some v =>
    unfold parseCount at he
    simp only [Option.mapM_some] at he
    split at he
    · cases he
    · cases he
      exact FilterFault.of_invalidParameter

theorem parseSwitch_raises (name : String) (o : Option String) :
    Raises (FilterFault p) (liftExcept (o.mapM (parseSwitch name))) := by
  refine Raises.liftExcept fun e he => ?_
  cases o with
  | none => cases he
  | some v =>
    unfold parseSwitch at he
    simp only [Option.mapM_some] at he
    split at he
    · cases he
    · cases he
    · cases he
    · cases he
    · cases he
      exact FilterFault.of_invalidParameter

/-- Building a plan fails as malformed only with the fault of the request's own filter text. -/
theorem build_raises (model : Model) : Raises (FilterFault p) (tr.build model p) := by
  unfold Translator.build
  refine Raises.bind (includeStep_raises tr p) fun _ => ?_
  refine Raises.bind (filterStep_raises tr p) fun _ => ?_
  refine Raises.bind (attributesStep_raises tr p) fun _ => ?_
  refine Raises.bind (aggregateStep_raises tr p) fun _ => ?_
  refine Raises.bind (orderStep_raises tr p) fun _ => ?_
  refine Raises.bind (parseCount_raises p "limit" _) fun _ => ?_
  refine Raises.bind (parseCount_raises p "offset" _) fun _ => ?_
  refine Raises.bind (parseSwitch_raises p "raw" _) fun _ => ?_
  refine Raises.bind (parseSwitch_raises p "count" _) fun _ => ?_
  refine Raises.bind Raises.currentTree fun _ => ?_
  exact Raises.bind (Raises.note _) fun _ => Raises.pure _

end Steps

/-- A request refused for a malformed filter has a `where` value whose trimmed text, its outer
brackets stripped, reads with that fault. -/
theorem translate_malformed_source {tr : Translator} {route : String} {p : Params}
    {m : Filter.Malformed} (h : (tr.translate route p).1 = .error (.malformedFilter m)) :
    ∃ v, present p.filter = some v ∧ Filter.parse (stripWrapper v) = .error m := by
  rw [translate_fst] at h
  cases hmodel : tr.registry.modelForRoute route with
  | error e =>
    -- a route that names no model is not found, which is no malformed filter
    rw [hmodel] at h
    cases h
    unfold Registry.modelForRoute at hmodel
    dsimp only at hmodel
    split at hmodel <;> cases hmodel
  | ok model =>
    rw [hmodel] at h
    change ((tr.build model p).run { tree := IncludeTree.new model.name }).1 = _ at h
    rcases hrun : (tr.build model p).run { tree := IncludeTree.new model.name } with ⟨_ | _, w'⟩
    · rw [hrun] at h
      cases h
      rcases build_raises tr p model _ _ _ hrun with hnot | ⟨v, m', hv, hparse, he⟩
      · exact absurd rfl (hnot m)
      · cases he
        exact ⟨v, hv, hparse⟩
    · rw [hrun] at h
      cases h

/-- Where the token reported for a malformed filter stands in the `where` value `w` as the client
sent it.  The text read is `w` trimmed, its doubled outer bracket stripped, and it reads with the
reported fault; the fault is reported at the start of one of its tokens, `t`, whose text `mid` starts
at that byte offset of the read text.  In `w` the read text follows `front`, the leading blanks and,
when the outer bracket was stripped, that bracket, so `mid` starts at byte
`byteLength front + m.position` of `w`. -/
theorem translate_faultOffset {tr : Translator} {route : String} {p : Params} {w : String}
    {m : Filter.Malformed} (hw : p.filter = some w)
    (h : (tr.translate route p).1 = .error (.malformedFilter m)) :
    Filter.parse (stripWrapper (Text.trim w)) = .error m ∧
    ∃ (t : Filter.Token) (front pre mid post back : List Char),
      t ∈ Filter.scan (stripWrapper (Text.trim w)) ∧ t.span.start = m.position ∧
      (stripWrapper (Text.trim w)).toList = pre ++ mid ++ post ∧ Filter.Lexeme t.kind mid post ∧
      m.position = Filter.byteLength pre ∧
      w.toList = front ++ pre ++ mid ++ post ++ back ∧
      Filter.byteLength front = Filter.byteLength (w.toList.takeWhile Text.isBlank) +
        (if stripWrapper (Text.trim w) = Text.trim w then 0 else 1) := by
  obtain ⟨v, hv, hparse⟩ := translate_malformed_source h
  have hvw : v = Text.trim w := by
    rw [hw] at hv
    simp only [present] at hv
    split at hv
    · cases hv
    · exact (Option.some.inj hv).symm
  subst hvw
  refine ⟨hparse, ?_⟩
  obtain ⟨t, ht, hpos, pre, mid, post, hsplit, hlex, hbytes⟩ := Filter.parse_error_lexeme hparse
  obtain ⟨trail, htrim, -⟩ := Text.trim_toList w
  rcases stripWrapper_cases (Text.trim w) with heq | ⟨inner, hwrapped, hstrip⟩
  · -- nothing stripped: the read text follows the leading blanks
    refine ⟨t, w.toList.takeWhile Text.isBlank, pre, mid, post, trail, ht, hpos, hsplit, hlex, hbytes,
      ?_, by simp [heq]⟩
    refine htrim.trans ?_
    rw [← heq, hsplit]
    simp
  · -- the stripped bracket stands between the leading blanks and the read text
    have hinner : inner = pre ++ mid ++ post := by rw [← hsplit, hstrip, String.toList_ofList]
    have hne : stripWrapper (Text.trim w) ≠ Text.trim w := by
      intro he
      have hlen := congrArg (fun s => s.toList.length) he
      simp only [hstrip, String.toList_ofList, hwrapped, List.length_cons, List.length_append] at hlen
      omega
    refine ⟨t, w.toList.takeWhile Text.isBlank ++ ['['], pre, mid, post, ']' :: trail, ht, hpos, hsplit,
      hlex, hbytes, ?_, ?_⟩
    · refine htrim.trans ?_
      rw [hwrapped, hinner]
      simp
    · rw [if_neg hne, Filter.byteLength_append]
      rfl

/-- A strict translator refuses a request whose filter text is malformed with the fault of that
text, once the include paths have resolved. -/
theorem translate_refuse_malformed {tr : Translator} {route : String} {p : Params} {v : String}
    {m : Filter.Malformed} (hs : tr.strictFilters = true) (hv : present p.filter = some v)
    (hm : Filter.parse (stripWrapper v) = .error m) :
    (tr.translate route p).1 =
      (tr.translate route { includes := p.includes }).1.bind fun _ => .error (.malformedFilter m) := by
  rw [translate_fst, translate_fst]
  cases tr.registry.modelForRoute route with
  | error e => rfl
  | ok model => exact build_refuse_malformed tr model hv hm hs _

/-- The strict translator of the built-in shop. -/
def strictShop : Translator := { shop with strictFilters := true }

/-- The wrapped filter `[[a,eq,1]XOR[b,eq,2]]` is refused at byte 8 of its unwrapped text, where
`XOR` starts. -/
theorem wrappedXor_refused :
    (strictShop.translate "customers" { filter := some "[[a,eq,1]XOR[b,eq,2]]" }).1 =
      .error (.malformedFilter ⟨8, .unknownConnective "XOR[b,eq,2]"⟩) := by
  have hv : present (some "[[a,eq,1]XOR[b,eq,2]]") = some "[[a,eq,1]XOR[b,eq,2]]" := by decide
  have hm : Filter.parse (stripWrapper "[[a,eq,1]XOR[b,eq,2]]") =
      .error ⟨8, .unknownConnective "XOR[b,eq,2]"⟩ := by
    have h : (match Filter.parse (stripWrapper "[[a,eq,1]XOR[b,eq,2]]") with
        | .error e => decide (e = ⟨8, .unknownConnective "XOR[b,eq,2]"⟩)
        | .ok _ => false) = true := by
      decide +kernel
    revert h
    cases Filter.parse (stripWrapper "[[a,eq,1]XOR[b,eq,2]]") <;> simp
  have hok : (strictShop.translate "customers" { includes := none }).1.isOk = true := by
    decide +kernel
  rw [translate_refuse_malformed rfl hv hm]
  cases hres : (strictShop.translate "customers" { includes := none }).1 with
  | error e =>
    rw [hres] at hok
    cases hok
  | ok r => rfl

/-- The fault of the wrapped filter `[[a,eq,1]XOR[b,eq,2]]` is found at its `XOR`, which starts at
byte 9 of the value as sent, one byte after the stripped outer bracket. -/
theorem wrapped_faultToken :
    ({ filter := some "[[a,eq,1]XOR[b,eq,2]]" } : Params).filter = some "[[a,eq,1]XOR[b,eq,2]]" ∧
    (strictShop.translate "customers" { filter := some "[[a,eq,1]XOR[b,eq,2]]" }).1 =
      .error (.malformedFilter ⟨8, .unknownConnective "XOR[b,eq,2]"⟩) ∧
    Filter.parse (stripWrapper (Text.trim "[[a,eq,1]XOR[b,eq,2]]")) =
      .error ⟨8, .unknownConnective "XOR[b,eq,2]"⟩ ∧
    ∃ (t : Filter.Token) (front pre mid post back : List Char),
      t ∈ Filter.scan (stripWrapper (Text.trim "[[a,eq,1]XOR[b,eq,2]]")) ∧ t.span.start = 8 ∧
      (stripWrapper (Text.trim "[[a,eq,1]XOR[b,eq,2]]")).toList = pre ++ mid ++ post ∧
      Filter.Lexeme t.kind mid post ∧ 8 = Filter.byteLength pre ∧
      "[[a,eq,1]XOR[b,eq,2]]".toList = front ++ pre ++ mid ++ post ++ back ∧
      Filter.byteLength front = Filter.byteLength ("[[a,eq,1]XOR[b,eq,2]]".toList.takeWhile Text.isBlank) +
        (if stripWrapper (Text.trim "[[a,eq,1]XOR[b,eq,2]]") = Text.trim "[[a,eq,1]XOR[b,eq,2]]"
          then 0 else 1) :=
  ⟨rfl, wrappedXor_refused, translate_faultOffset rfl wrappedXor_refused⟩

/-- A wrapped filter is reported one byte before its faulty token: `[[a,eq,1]XOR[b,eq,2]]` is
refused as malformed at byte 8, where the value as sent has the closing bracket of its first
clause, while the unknown connective `XOR` starts at byte 9. -/
theorem wrapped_faultOffset :
    (strictShop.translate "customers" { filter := some "[[a,eq,1]XOR[b,eq,2]]" }).1 =
      .error (.malformedFilter ⟨8, .unknownConnective "XOR[b,eq,2]"⟩) ∧
    "[[a,eq,1]XOR[b,eq,2]]".toList.take 9 = "[[a,eq,1]".toList ∧
    Filter.byteLength "[[a,eq,1]".toList = 9 ∧
    "[[a,eq,1]XOR[b,eq,2]]".toList.drop 8 = "]XOR[b,eq,2]]".toList ∧
    "[[a,eq,1]XOR[b,eq,2]]".toList.drop 9 = "XOR[b,eq,2]]".toList :=
  ⟨wrappedXor_refused, rfl, rfl, rfl, rfl⟩

end Request
end RestQuery
