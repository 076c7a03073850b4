import RestQuery.Proofs.InBounds
import Mathlib.Data.List.Chain

/-!
# How a filter text is laid out in tokens

Scanning a filter text reads it from left to right and loses nothing but
blanks: the text is blanks, the text of the first token, blanks, the text
of the second, and so on, ending in blanks.  A connective stands for its
word, a clause for its body between brackets, the body holding no closing
bracket, and an illegal token for all that is left of the text, from which
no token can be read: an opening bracket that is never closed, or a
character that starts neither a clause nor a connective.  Each token's span
is the pair of byte offsets of its text, so spans follow one another, each
one non-empty, between characters and within the text.  Nothing follows an
illegal token, so it is the last one.

`Layout` states this as a relation between a text and its tokens.  The
proof has one step lemma, `scanFrom_first`, which reads the first token of
a text that starts with a character that is not blank, and one run lemma,
`scanFrom_layout`, by strong induction on the length of the text, since
each token's text is read ahead of the text after it.  Scanning always
ends: `scanFrom` recurses on ever shorter texts.

**Results.**
* `scanFrom_first`, `scanFrom_layout`: a text is laid out in its tokens.
* `Layout.spans`, `Layout.chain`, `Layout.illegal_last`: what a layout says
  of the spans and of illegal tokens.
* `scan_layout`: all of this for a whole filter text, with the offsets as
  positions of the string.
-/

namespace RestQuery
namespace Filter

/-- A text from which no token can be read: an opening bracket that is never closed, or a first
character that is not blank and starts neither a clause nor a connective. -/
def Stuck (cs : List Char) : Prop :=
  (∃ r, cs = '[' :: r ∧ ']' ∉ r) ∨
  (∃ c r, cs = c :: r ∧ Text.isBlank c = false ∧ c ≠ '[' ∧ ¬ ['A', 'N', 'D'] <+: cs ∧
    ¬ ['O', 'R'] <+: cs)

/-- The text `mid` of a token of kind `k`, followed by `post` in the filter: a connective's word, a
clause's body between brackets with no closing bracket inside, or, for an illegal token, all that is
left of the text, from which no token can be read. -/
def Lexeme : TokenKind → List Char → List Char → Prop
  | .and, mid, _ => mid = ['A', 'N', 'D']
  | .or, mid, _ => mid = ['O', 'R']
  | .clause body, mid, _ => mid = '[' :: body.toList ++ [']'] ∧ ']' ∉ body.toList
  | .illegal rest, mid, post => mid = rest.toList ∧ post = [] ∧ Stuck mid

/-- How the text `cs`, whose first character stands at byte `pos`, is cut into the tokens `ts`:
blanks, then the text of the first token at the byte offsets of its span, then the rest cut the
same way; blanks alone follow the last token. -/
inductive Layout : Nat → List Char → List Token → Prop
  | blanks {pos : Nat} {w : List Char} : (∀ c ∈ w, Text.isBlank c = true) → Layout pos w []
  | token {pos : Nat} {w mid rest : List Char} {t : Token} {ts : List Token} :
      (∀ c ∈ w, Text.isBlank c = true) → Lexeme t.kind mid rest →
      t.span = ⟨pos + byteLength w, pos + byteLength w + byteLength mid⟩ →
      Layout (pos + byteLength w + byteLength mid) rest ts → Layout pos (w ++ mid ++ rest) (t :: ts)

theorem Stuck.ne_nil {cs : List Char} (h : Stuck cs) : cs ≠ [] := by
  rintro rfl
  rcases h with ⟨r, hr, -⟩ | ⟨c, r, hr, -⟩ <;> cases hr

/-- Every token stands for some text. -/
theorem Lexeme.ne_nil {k : TokenKind} {mid post : List Char} (h : Lexeme k mid post) : mid ≠ [] := by
  cases k with
  | and => rw [h]; simp
  | or => rw [h]; simp
  | clause body => rw [h.1]; simp
  | illegal rest => exact h.2.2.ne_nil

theorem byteLength_pos {cs : List Char} (h : cs ≠ []) : 0 < byteLength cs := by
  obtain ⟨c, cs, rfl⟩ := List.exists_cons_of_ne_nil h
  rw [byteLength_cons]
  have := Char.utf8Size_pos c
  omega

section Step

variable {c : Char} {r : List Char}

/-- A text that starts neither a clause nor a connective is one illegal token. -/
theorem scanFrom_stuck (hc : Text.isBlank c = false) (hb : c ≠ '[') (hand : ¬ ['A', 'N', 'D'] <+: c :: r)
    (hor : ¬ ['O', 'R'] <+: c :: r) (pos : Nat) :
    scanFrom pos (c :: r) =
      [⟨.illegal (String.ofList (c :: r)), ⟨pos, pos + byteLength (c :: r)⟩⟩] := by
  rw [scanFrom.eq_def]
  dsimp only
  rw [if_neg (by simp [hc]), if_neg hb]
  split
  · exact absurd ⟨_, rfl⟩ hand
  · exact absurd ⟨_, rfl⟩ hor
  · rfl

/-- The first token of a text that starts with a character that is not blank: the token stands for
the text `mid` at the start, at the byte offsets of its span, and the scan goes on after it. -/
theorem scanFrom_first (hc : Text.isBlank c = false) (pos : Nat) :
    ∃ t mid rest, c :: r = mid ++ rest ∧ Lexeme t.kind mid rest ∧
      t.span = ⟨pos, pos + byteLength mid⟩ ∧
      scanFrom pos (c :: r) = t :: scanFrom (pos + byteLength mid) rest := by
  by_cases hb : c = '['
  · subst hb
    by_cases hr : ']' ∈ r
    · -- a clause, up to the first closing bracket
      obtain ⟨body, after, rfl, hbody⟩ := exists_first_close hr
      have hlen : byteLength ('[' :: body ++ [']']) = 1 + byteLength body + 1 := by
        simp [byteLength_append, utf8Size_open, utf8Size_close, Nat.add_comm]
      refine ⟨⟨.clause (String.ofList body), ⟨pos, pos + 1 + byteLength body + 1⟩⟩, '[' :: body ++ [']'],
        after, by simp, ⟨by simp, by simpa using hbody⟩, by rw [hlen]; simp only [Nat.add_assoc], ?_⟩
      rw [scanFrom_bracket hbody, hlen, ← Nat.add_assoc, ← Nat.add_assoc]
    · -- an opening bracket never closed
      have hlen : byteLength ('[' :: r) = 1 + byteLength r := by rw [byteLength_cons, utf8Size_open]
      refine ⟨⟨.illegal (String.ofList ('[' :: r)), ⟨pos, pos + byteLength ('[' :: r)⟩⟩, '[' :: r, [],
        by simp, ⟨by simp, rfl, .inl ⟨r, rfl, hr⟩⟩, rfl, ?_⟩
      rw [scanFrom.eq_def]
      dsimp only
      rw [if_neg (by simp [hc]), if_pos rfl, scanClause_open hr, hlen, ← Nat.add_assoc]
      rfl
  · by_cases hand : ['A', 'N', 'D'] <+: c :: r
    · obtain ⟨after, hafter⟩ := hand
      refine ⟨⟨.and, ⟨pos, pos + 3⟩⟩, ['A', 'N', 'D'], after, hafter.symm, rfl, rfl, ?_⟩
      rw [← hafter, show ['A', 'N', 'D'] = Connective.and.text from rfl, scanFrom_connective]
      rfl
    · by_cases hor : ['O', 'R'] <+: c :: r
      · obtain ⟨after, hafter⟩ := hor
        refine ⟨⟨.or, ⟨pos, pos + 2⟩⟩, ['O', 'R'], after, hafter.symm, rfl, rfl, ?_⟩
        rw [← hafter, show ['O', 'R'] = Connective.or.text from rfl, scanFrom_connective]
        rfl
      · refine ⟨⟨.illegal (String.ofList (c :: r)), ⟨pos, pos + byteLength (c :: r)⟩⟩, c :: r, [],
          by simp, ⟨by simp, rfl, .inr ⟨c, r, rfl, hc, hb, hand, hor⟩⟩, rfl, ?_⟩
        rw [scanFrom_stuck hc hb hand hor]
        rfl

end Step

/-- Scanning lays a text out in its tokens.  The induction is on the length of the text: the blanks
in front are skipped, and the first token's text is read ahead of what follows it. -/
theorem scanFrom_layout (pos : Nat) (cs : List Char) : Layout pos cs (scanFrom pos cs) := by
  induction hn : cs.length using Nat.strongRecOn generalizing cs pos with
  | _ n ih =>
  have hw : ∀ c ∈ cs.takeWhile Text.isBlank, Text.isBlank c = true :=
    List.all_eq_true.mp List.all_takeWhile
  have hcs := List.takeWhile_append_dropWhile (p := Text.isBlank) (l := cs)
  rw [← hcs, scanFrom_blanks hw]
  cases hrest : cs.dropWhile Text.isBlank with
  | nil =>
    rw [List.append_nil]
    exact .blanks hw
  | cons c r =>
    have hc : Text.isBlank c = false := by
      have := List.head_dropWhile_not Text.isBlank (l := cs) (by simp [hrest])
      simpa [hrest] using this
    obtain ⟨t, mid, rest, hsplit, hlex, hspan, hscan⟩ := scanFrom_first (r := r) hc
      (pos + byteLength (cs.takeWhile Text.isBlank))
    rw [hscan, hsplit, ← List.append_assoc]
    have hlt : rest.length < n := by
      have hmid := List.length_pos_iff.mpr hlex.ne_nil
      have hlen := congrArg List.length hcs
      rw [hrest, hsplit] at hlen
      simp only [List.length_append] at hlen
      omega
    exact .token hw hlex hspan (ih rest.length hlt _ rest rfl)

/-- A layout of no text has no token. -/
theorem Layout.eq_nil_of_nil {pos : Nat} {cs : List Char} {ts : List Token} (h : Layout pos cs ts)
    (hcs : cs = []) : ts = [] := by
  cases h with
  | blanks => rfl
  | token _ hlex =>
    have hmid := hlex.ne_nil
    simp_all

/-- Every token of a layout stands between its start and its end, and spans a stretch that is not
empty. -/
theorem Layout.spans {pos : Nat} {cs : List Char} {ts : List Token} (h : Layout pos cs ts) :
    ∀ t ∈ ts, pos ≤ t.span.start ∧ t.span.start < t.span.stop ∧ t.span.stop ≤ pos + byteLength cs := by
  induction h with
  | blanks => simp
  | @token pos w mid rest t ts _ hlex hspan _ ih =>
    have hmid := byteLength_pos hlex.ne_nil
    intro t' ht'
    rcases List.mem_cons.mp ht' with rfl | ht'
    · rw [hspan, byteLength_append, byteLength_append]
      dsimp only
      omega
    · obtain ⟨h1, h2, h3⟩ := ih t' ht'
      rw [byteLength_append, byteLength_append]
      omega

/-- The spans of a layout follow one another: each token ends before the next one starts. -/
theorem Layout.chain {pos : Nat} {cs : List Char} {ts : List Token} (h : Layout pos cs ts) :
    ts.IsChain fun a b => a.span.stop ≤ b.span.start := by
  induction h with
  | blanks => exact .nil
  | @token pos w mid rest t ts _ _ hspan htail ih =>
    refine List.isChain_cons.mpr ⟨fun t' ht' => ?_, ih⟩
    rw [hspan]
    exact (htail.spans t' (List.mem_of_mem_head? ht')).1

/-- An illegal token is the last token of a layout. -/
theorem Layout.illegal_last {pos : Nat} {cs : List Char} {ts : List Token} (h : Layout pos cs ts) :
    ∀ (i : Nat) (hi : i < ts.length) (x : String), ts[i].kind = .illegal x → i + 1 = ts.length := by
  induction h with
  | blanks => simp
  | @token pos w mid rest t ts _ hlex _ htail ih =>
    intro i hi x hx
    cases i with
    | zero =>
      -- nothing is left after an illegal token, so no token follows it
      simp only [List.getElem_cons_zero] at hx
      rw [hx] at hlex
      obtain ⟨-, rfl, -⟩ := hlex
      simp [htail.eq_nil_of_nil rfl]
    | succ i =>
      simp only [List.length_cons] at hi ⊢
      have := ih i (by omega) x (by simpa using hx)
      omega

/-- Where each token stands in the text: its span is the byte offsets of the text before it and of
that text with its own. -/
theorem Layout.offsets {pos : Nat} {cs : List Char} {ts : List Token} (h : Layout pos cs ts) :
    ∀ t ∈ ts, ∃ pre mid post, cs = pre ++ mid ++ post ∧ t.span.start = pos + byteLength pre ∧
      t.span.stop = pos + byteLength (pre ++ mid) := by
  induction h with
  | blanks => simp
  | @token pos w mid rest t ts _ _ hspan _ ih =>
    intro t' ht'
    rcases List.mem_cons.mp ht' with rfl | ht'
    · refine ⟨w, mid, rest, rfl, by rw [hspan], ?_⟩
      rw [hspan, byteLength_append]
      dsimp only
      omega
    · obtain ⟨pre, mid', post, rfl, hstart, hstop⟩ := ih t' ht'
      refine ⟨w ++ mid ++ pre, mid', post, by simp, ?_, ?_⟩
      · rw [hstart]
        simp only [byteLength_append]
        omega
      · rw [hstop]
        simp only [byteLength_append]
        omega

end Filter

namespace Text

theorem utf8ByteSize_ofList (cs : List Char) : (String.ofList cs).utf8ByteSize = Filter.byteLength cs := by
  induction cs with
  | nil => rfl
  | cons c cs ih => rw [String.ofList_cons, String.utf8ByteSize_append, String.utf8ByteSize_singleton, ih]; rfl

/-- The byte offset of the end of a prefix of a text's characters is a position between two of its
characters. -/
theorem isValid_byteLength {s : String} {pre post : List Char} (h : s.toList = pre ++ post) :
    String.Pos.Raw.IsValid s ⟨Filter.byteLength pre⟩ := by
  refine String.Pos.Raw.isValid_iff_exists_append.mpr ⟨String.ofList pre, String.ofList post, ?_, ?_⟩
  · rw [← String.ofList_append, ← h, String.ofList_toList]
  · simp [String.rawEndPos, utf8ByteSize_ofList]

end Text

open RestQuery.Filter in
/-- Scanning a filter text `s` lays it out in its tokens: `s` is blanks, then the text of each token
in turn followed by blanks, with nothing after an illegal token.  A connective stands for its word,
a clause for its body in brackets with no closing bracket inside, and an illegal token for all that
is left of `s`, which either opens a clause that is never closed or starts with none of `[`, `AND`
and `OR`.  Each span is the pair of byte offsets of its token's text: spans are not empty and follow
one another, both ends of each are positions between characters of `s` and within it, and an illegal
token is the last one. -/
theorem scan_layout (s : String) :
    Layout 0 s.toList (scan s) ∧
    (scan s).IsChain (fun a b => a.span.stop ≤ b.span.start) ∧
    (∀ t ∈ scan s, t.span.start < t.span.stop ∧ t.span.stop ≤ s.utf8ByteSize ∧
      String.Pos.Raw.IsValid s ⟨t.span.start⟩ ∧ String.Pos.Raw.IsValid s ⟨t.span.stop⟩) ∧
    ∀ (i : Nat) (hi : i < (scan s).length) (x : String),
      (scan s)[i].kind = .illegal x → i + 1 = (scan s).length := by
  have hlay := scanFrom_layout 0 s.toList
  refine ⟨hlay, hlay.chain, fun t ht => ?_, hlay.illegal_last⟩
  obtain ⟨-, hlt, hle⟩ := hlay.spans t ht
  obtain ⟨pre, mid, post, hcs, hstart, hstop⟩ := hlay.offsets t ht
  have hsize : s.utf8ByteSize = byteLength s.toList := by
    rw [← Text.utf8ByteSize_ofList, String.ofList_toList]
  refine ⟨hlt, by omega, ?_, ?_⟩
  · rw [hstart, Nat.zero_add]
    exact @Text.isValid_byteLength s pre (mid ++ post) (by simp [hcs])
  · rw [hstop, Nat.zero_add]
    exact @Text.isValid_byteLength s (pre ++ mid) post hcs

end RestQuery
