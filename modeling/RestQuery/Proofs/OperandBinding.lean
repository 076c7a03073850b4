import RestQuery.Sql.Value

/-!
# How an operand is bound

An operand text is bound as a signed 64-bit integer when it reads as one, as
a binary64 number when it has a decimal point and reads as a decimal, and as
its own text otherwise; a numeral written with leading zeros, such as a
postal code, is kept as text before either reading is tried.

Which numerals count as written with leading zeros is decided on the first
two characters: a `0` followed by anything but a decimal point.  A numeral
with leading zeros in the usual sense (`leadingZeros`: an optional sign,
`0`, and another digit) is caught by this test only when it has no sign.
Every other text that the test catches reads neither as an integer nor,
when it has a decimal point, as a decimal, so for unsigned texts the two
tests bind alike.  A signed one such as `-01234` escapes the test and is
bound as the integer `-1234`.

**Results.**
* `parseInt64_eq_some_iff`, `parseInt64_out_of_range`: what reads as a
  signed 64-bit integer; a numeral out of range reads as nothing, never as
  a wrapped or clamped value.
* `ofText_eq_bigint_iff`, `ofText_eq_double_iff`, `ofText_cases`: the three
  ways a text is bound, under the test the binding makes.
* `ofText_binding`: the binding of every text without a sign in front of
  its leading zeros, stated with `leadingZeros`.
* `signedPostalCode_bound`: `-01234` is bound as an integer.
-/

namespace RestQuery

namespace Number

/-- A list of digits reads as its value, and anything else as nothing. -/
theorem numeral?_eq_some_iff {ds : List Char} {n : Nat} :
    numeral? ds = some n ↔ ds ≠ [] ∧ (∀ d ∈ ds, isDigit d = true) ∧ digitsValue ds = n := by
  unfold numeral?
  split
  · rename_i h
    simp only [Option.some.injEq]
    exact ⟨fun hn => ⟨h.1, List.all_eq_true.mp h.2, hn⟩, fun hn => hn.2.2⟩
  · rename_i h
    simp only [reduceCtorEq, false_iff]
    rintro ⟨hne, hall, -⟩
    exact h ⟨hne, List.all_eq_true.mpr hall⟩

theorem numeral?_of_not_digit {ds : List Char} {c : Char} (hc : c ∈ ds) (hd : isDigit c = false) :
    numeral? ds = none := by
  cases h : numeral? ds with
  | none => rfl
  | some n =>
    have := (numeral?_eq_some_iff.mp h).2.1 c hc
    rw [hd] at this
    cases this

/-- Digits read through a map: they form a numeral, and the value is the map of theirs. -/
theorem numeral?_map_eq_some {ds : List Char} {f : Nat → Int} {v : Int}
    (h : (numeral? ds).map f = some v) :
    ds ≠ [] ∧ (∀ d ∈ ds, isDigit d = true) ∧ v = f (digitsValue ds) := by
  obtain ⟨k, hk, rfl⟩ := Option.map_eq_some_iff.mp h
  obtain ⟨hne, hall, rfl⟩ := numeral?_eq_some_iff.mp hk
  exact ⟨hne, hall, rfl⟩

/-- `s` is an integer numeral of value `v`: an optional sign and one or more digits. -/
def IntegerText (s : String) (v : Int) : Prop :=
  ∃ ds : List Char, ds ≠ [] ∧ (∀ d ∈ ds, isDigit d = true) ∧
    (s.toList = ds ∧ v = digitsValue ds ∨ s.toList = '+' :: ds ∧ v = digitsValue ds ∨
      s.toList = '-' :: ds ∧ v = -(digitsValue ds : Int))

theorem isDigit_plus : isDigit '+' = false := rfl

theorem isDigit_minus : isDigit '-' = false := rfl

theorem isDigit_dot : isDigit '.' = false := rfl

/-- A numeral has one value: its sign and digits are read off the text. -/
theorem IntegerText.unique {s : String} {v w : Int} (hv : IntegerText s v) (hw : IntegerText s w) :
    v = w := by
  obtain ⟨ds, hne, hall, hv⟩ := hv
  obtain ⟨es, hne', hall', hw⟩ := hw
  -- an unsigned numeral starts with a digit, so it never reads as a signed one
  have hsign : ∀ {xs ys : List Char} {c : Char}, isDigit c = false → xs ≠ [] →
      (∀ d ∈ xs, isDigit d = true) → xs ≠ c :: ys := by
    rintro xs ys c hc hne hall rfl
    rw [hall c (List.mem_cons_self ..)] at hc
    cases hc
  rcases hv with ⟨hs, rfl⟩ | ⟨hs, rfl⟩ | ⟨hs, rfl⟩ <;>
    rcases hw with ⟨hs', rfl⟩ | ⟨hs', rfl⟩ | ⟨hs', rfl⟩ <;> rw [hs] at hs'
  · rw [hs']
  · exact absurd hs' (hsign isDigit_plus hne hall)
  · exact absurd hs' (hsign isDigit_minus hne hall)
  · exact absurd hs'.symm (hsign isDigit_plus hne' hall')
  · cases hs'; rfl
  · cases hs'
  · exact absurd hs'.symm (hsign isDigit_minus hne' hall')
  · cases hs'
  · cases hs'; rfl

/-- A numeral holds no decimal point. -/
theorem IntegerText.dot_not_mem {s : String} {v : Int} (h : IntegerText s v) : '.' ∉ s.toList := by
  obtain ⟨ds, -, hall, hform⟩ := h
  have hds : '.' ∉ ds := fun hd => by
    have := hall '.' hd
    rw [isDigit_dot] at this
    cases this
  rcases hform with ⟨hs, -⟩ | ⟨hs, -⟩ | ⟨hs, -⟩ <;> rw [hs] <;> simpa using hds

/-- A text reads as a signed 64-bit integer exactly when it is a numeral whose value lies from
`-2^63` to below `2^63`. -/
theorem parseInt64_eq_some_iff {s : String} {n : Int} :
    parseInt64 s = some n ↔ IntegerText s n ∧ -(Nat.pow 2 63 : Int) ≤ n ∧ n < Nat.pow 2 63 := by
  unfold parseInt64
  constructor
  · intro h
    obtain ⟨v, hv, hn⟩ := Option.bind_eq_some_iff.mp h
    split at hn
    · rename_i hr
      cases hn
      split at hv
      · rename_i ds hs
        obtain ⟨hne, hall, rfl⟩ := numeral?_map_eq_some hv
        exact ⟨⟨ds, hne, hall, .inr (.inl ⟨hs, rfl⟩)⟩, hr⟩
      · rename_i ds hs
        obtain ⟨hne, hall, rfl⟩ := numeral?_map_eq_some hv
        exact ⟨⟨ds, hne, hall, .inr (.inr ⟨hs, rfl⟩)⟩, hr⟩
      · obtain ⟨hne, hall, rfl⟩ := numeral?_map_eq_some hv
        exact ⟨⟨s.toList, hne, hall, .inl ⟨rfl, rfl⟩⟩, hr⟩
    · cases hn
  · rintro ⟨⟨ds, hne, hall, hform⟩, hr⟩
    have hk : numeral? ds = some (digitsValue ds) := numeral?_eq_some_iff.mpr ⟨hne, hall, rfl⟩
    rcases hform with ⟨hs, rfl⟩ | ⟨hs, rfl⟩ | ⟨hs, rfl⟩
    · -- an unsigned numeral starts with a digit, so neither sign pattern applies
      obtain ⟨d, ds', rfl⟩ := List.exists_cons_of_ne_nil hne
      have hd := hall d (List.mem_cons_self ..)
      rw [hs]
      split
      · rename_i h; cases h; cases hd
      · rename_i h; cases h; cases hd
      · rw [hk, Option.map_some, Option.bind_some]
        exact if_pos hr
    · rw [hs]
      show ((numeral? ds).map Int.ofNat).bind _ = _
      rw [hk, Option.map_some, Option.bind_some]
      exact if_pos hr
    · rw [hs]
      show ((numeral? ds).map fun n => -(Int.ofNat n)).bind _ = _
      rw [hk, Option.map_some, Option.bind_some]
      exact if_pos hr

/-- A numeral out of the range of 64-bit integers reads as no integer: it is neither wrapped nor
clamped into the range. -/
theorem parseInt64_out_of_range {s : String} {v : Int} (h : IntegerText s v)
    (hv : v < -(Nat.pow 2 63 : Int) ∨ (Nat.pow 2 63 : Int) ≤ v) : parseInt64 s = none := by
  cases hp : parseInt64 s with
  | none => rfl
  | some n =>
    obtain ⟨hn, hlo, hhi⟩ := parseInt64_eq_some_iff.mp hp
    rw [h.unique hn] at hv
    omega

/-- A text that starts with `0` and then a character that is no digit reads as no integer. -/
theorem parseInt64_zero_nondigit {s : String} {c : Char} {rest : List Char}
    (hs : s.toList = '0' :: c :: rest) (hc : isDigit c = false) : parseInt64 s = none := by
  cases h : parseInt64 s with
  | none => rfl
  | some n =>
    obtain ⟨⟨ds, -, hall, hform⟩, -⟩ := parseInt64_eq_some_iff.mp h
    rw [hs] at hform
    rcases hform with ⟨rfl, -⟩ | ⟨h', -⟩ | ⟨h', -⟩
    · have := hall c (by simp)
      rw [hc] at this
      cases this
    · cases h'
    · cases h'

/-- An exponent holding a decimal point reads as nothing. -/
theorem exponentValue?_of_dot {cs : List Char} (h : '.' ∈ cs) : exponentValue? cs = none := by
  unfold exponentValue?
  split
  · rename_i ds
    have : '.' ∈ ds := by simpa using h
    simp [numeral?_of_not_digit this isDigit_dot]
  · rename_i ds
    have : '.' ∈ ds := by simpa using h
    simp [numeral?_of_not_digit this isDigit_dot]
  · simp [numeral?_of_not_digit h isDigit_dot]

/-- A text that starts with `0` and then a character that is neither a digit nor a decimal point,
and that holds a decimal point further on, reads as no decimal: after `0` only an exponent may
follow, and an exponent holds no point. -/
theorem parseDecimal_zero_nondigit {s : String} {c : Char} {rest : List Char}
    (hs : s.toList = '0' :: c :: rest) (hc : isDigit c = false) (hcd : c ≠ '.')
    (hdot : '.' ∈ s.toList) : parseDecimal s = none := by
  have hrest : '.' ∈ rest := by
    rw [hs] at hdot
    simp only [List.mem_cons] at hdot
    rcases hdot with h | h | h
    · cases h
    · exact absurd h.symm hcd
    · exact h
  have hsplit : splitMantissa ('0' :: c :: rest) = (['0'], [], c :: rest) := by
    have hw : ('0' :: c :: rest).takeWhile isDigit = ['0'] := by
      simp [hc, show isDigit '0' = true from rfl]
    have hd : ('0' :: c :: rest).dropWhile isDigit = c :: rest := by
      simp [hc, show isDigit '0' = true from rfl]
    unfold splitMantissa
    rw [hw, hd]
    split
    · rename_i h; cases h; exact absurd rfl hcd
    · rfl
  have hparts : decimalParts? ('0' :: c :: rest) = none := by
    unfold decimalParts?
    rw [hsplit]
    simp only [List.append_nil, reduceCtorEq, if_false, Option.map_eq_none_iff]
    split
    · exact exponentValue?_of_dot hrest
    · rfl
  unfold parseDecimal
  rw [hs]
  show Option.map _ (decimalParts? ('0' :: c :: rest)) = none
  rw [hparts, Option.map_none]

end Number

namespace Sql
namespace Value

open Number

/-- A numeral written with leading zeros, as a postal code is: an optional sign, `0`, and another
digit. -/
def leadingZeros (raw : String) : Bool :=
  match raw.toList with
  | '0' :: d :: _ => isDigit d
  | s :: '0' :: d :: _ => (s == '+' || s == '-') && isDigit d
  | _ => false

/-- A sign in front of leading zeros: `-01234`, `+007`. -/
def signedLeadingZeros (raw : String) : Bool :=
  match raw.toList with
  | s :: '0' :: d :: _ => (s == '+' || s == '-') && isDigit d
  | _ => false

/-- A text is bound as the integer `n` exactly when the test for leading zeros lets it through
and it reads as `n`. -/
theorem ofText_eq_bigint_iff {raw : String} {n : Int} :
    ofText raw = .bigint n ↔ zeroPadded raw = false ∧ parseInt64 raw = some n := by
  cases hz : zeroPadded raw
  · unfold ofText
    rw [hz, if_neg Bool.false_ne_true]
    cases parseInt64 raw with
    | some i => simp
    | none =>
      simp only [reduceCtorEq, and_false, iff_false]
      split
      · split <;> simp
      · simp
  · simp [ofText_zero_padded raw hz]

/-- A text is bound as the binary64 number `x` exactly when the test for leading zeros lets it
through, it reads as no integer, it holds a decimal point and it reads as the decimal `x`. -/
theorem ofText_eq_double_iff {raw : String} {x : Binary64} :
    ofText raw = .double x ↔
      zeroPadded raw = false ∧ parseInt64 raw = none ∧ '.' ∈ raw.toList ∧ parseDecimal raw = some x := by
  cases hz : zeroPadded raw
  · unfold ofText
    rw [hz, if_neg Bool.false_ne_true]
    cases parseInt64 raw with
    | some i => simp
    | none =>
      by_cases hdot : '.' ∈ raw.toList
      · simp only [List.contains_iff_mem, hdot, if_true, true_and]
        cases parseDecimal raw <;> simp
      · simp [hdot]
  · simp [ofText_zero_padded raw hz]

/-- Every text is bound as an integer, a binary64 number, or itself. -/
theorem ofText_cases (raw : String) :
    (∃ n, ofText raw = .bigint n) ∨ (∃ x, ofText raw = .double x) ∨ ofText raw = .string raw := by
  unfold ofText
  split
  · exact .inr (.inr rfl)
  · split
    · exact .inl ⟨_, rfl⟩
    · split
      · split
        · exact .inr (.inl ⟨_, rfl⟩)
        · exact .inr (.inr rfl)
      · exact .inr (.inr rfl)

/-- A text that the test for leading zeros catches, without leading zeros in the usual sense,
reads neither as an integer nor, when it holds a decimal point, as a decimal. -/
theorem zeroPadded_unread {raw : String} (hz : zeroPadded raw = true) (hl : leadingZeros raw = false) :
    parseInt64 raw = none ∧ ('.' ∈ raw.toList → parseDecimal raw = none) := by
  unfold zeroPadded at hz
  unfold leadingZeros at hl
  split at hz
  · rename_i c rest hs
    rw [hs] at hl
    have hcd : c ≠ '.' := by simpa using hz
    have hc : isDigit c = false := hl
    exact ⟨parseInt64_zero_nondigit hs hc, parseDecimal_zero_nondigit hs hc hcd⟩
  · cases hz

/-- Without a sign, the test for leading zeros that the binding makes catches every numeral with
leading zeros. -/
theorem zeroPadded_of_leadingZeros {raw : String} (hs : signedLeadingZeros raw = false)
    (hl : leadingZeros raw = true) : zeroPadded raw = true := by
  unfold leadingZeros at hl
  unfold zeroPadded
  split at hl
  · rename_i d rest h
    rw [h]
    have hd : d ≠ '.' := by rintro rfl; cases hl
    simpa using hd
  · rename_i s d rest _ h
    have hsigned : signedLeadingZeros raw = true := by
      unfold signedLeadingZeros
      rw [h]
      exact hl
    rw [hs] at hsigned
    cases hsigned
  · cases hl

/-- How every operand text without a sign in front of leading zeros is bound: as the integer `n`
exactly when it has no leading zeros and reads as the signed 64-bit integer `n`; as the binary64
number `x` exactly when it has no leading zeros, reads as no integer, holds a decimal point and
reads as the decimal `x`; and as its own text otherwise.  In particular a numeral out of the range
of 64-bit integers, which reads as no integer (`parseInt64_eq_some_iff`), is bound as text unless it
is a decimal. -/
theorem ofText_binding (raw : String) (hs : signedLeadingZeros raw = false) :
    (∀ n, ofText raw = .bigint n ↔ leadingZeros raw = false ∧ parseInt64 raw = some n) ∧
    (∀ x, ofText raw = .double x ↔
      leadingZeros raw = false ∧ parseInt64 raw = none ∧ '.' ∈ raw.toList ∧ parseDecimal raw = some x) ∧
    ((∃ n, ofText raw = .bigint n) ∨ (∃ x, ofText raw = .double x) ∨ ofText raw = .string raw) ∧
    (∀ v, IntegerText raw v → v < -(Nat.pow 2 63 : Int) ∨ (Nat.pow 2 63 : Int) ≤ v →
      ofText raw = .string raw) := by
  -- the binding tests `zeroPadded`; where it differs from `leadingZeros`, neither reading succeeds
  have hagree : ∀ {P : Prop}, (zeroPadded raw = true → leadingZeros raw = false → ¬ P) →
      ((zeroPadded raw = false ∧ P) ↔ (leadingZeros raw = false ∧ P)) := by
    intro P hP
    cases hz : zeroPadded raw <;> cases hl : leadingZeros raw
    · simp
    · simp [zeroPadded_of_leadingZeros hs hl] at hz
    · simpa using hP hz hl
    · simp
  refine ⟨fun n => ?_, fun x => ?_, ofText_cases raw, fun v hv hout => ?_⟩
  · rw [ofText_eq_bigint_iff]
    refine hagree fun hz hl hn => ?_
    rw [(zeroPadded_unread hz hl).1] at hn
    cases hn
  · rw [ofText_eq_double_iff]
    refine hagree fun hz hl ⟨_, hdot, hx⟩ => ?_
    rw [(zeroPadded_unread hz hl).2 hdot] at hx
    cases hx
  · rcases ofText_cases raw with ⟨n, hn⟩ | ⟨x, hx⟩ | h
    · rw [ofText_eq_bigint_iff, parseInt64_out_of_range hv hout] at hn
      cases hn.2
    · exact absurd (ofText_eq_double_iff.mp hx).2.2.1 hv.dot_not_mem
    · exact h

/-- A postal code is bound as text. -/
theorem postalCode_binding :
    signedLeadingZeros "01234" = false ∧
    (∀ n, ofText "01234" = .bigint n ↔ leadingZeros "01234" = false ∧ parseInt64 "01234" = some n) ∧
    (∀ x, ofText "01234" = .double x ↔
      leadingZeros "01234" = false ∧ parseInt64 "01234" = none ∧ '.' ∈ "01234".toList ∧
        parseDecimal "01234" = some x) ∧
    ((∃ n, ofText "01234" = .bigint n) ∨ (∃ x, ofText "01234" = .double x) ∨
      ofText "01234" = .string "01234") ∧
    (∀ v, IntegerText "01234" v → v < -(Nat.pow 2 63 : Int) ∨ (Nat.pow 2 63 : Int) ≤ v →
      ofText "01234" = .string "01234") :=
  ⟨rfl, ofText_binding "01234" rfl⟩

/-- A postal code written with a sign is bound as an integer, its leading zeros lost. -/
theorem signedPostalCode_bound : leadingZeros "-01234" = true ∧ ofText "-01234" = .bigint (-1234) :=
  ⟨rfl, rfl⟩

end Value
end Sql
end RestQuery
