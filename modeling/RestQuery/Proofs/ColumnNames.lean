import Mathlib
import RestQuery.Naming

/-!
# Column names from camel case

A client may name the stored column `unit_price` by its camel-case form
`unitPrice`: `columnCase` writes a name that starts with an ASCII small
letter in snake case and keeps every other name.  This module says what it
writes, when it keeps a name, and which snake-case names come back from
their camel-case form.

**Snake spelling.**  Read with the character before each, a name is written
piece by piece (`snakeSpelling`): a `_` before an ASCII capital that follows
an ASCII small letter or digit (a capital that opens a word), then the
character in ASCII lower case.  `columnCase` writes the snake spelling of
every name that starts with an ASCII small letter, whether or not a capital
in it opens a word, so it keeps such a name exactly when it has no ASCII
capital at all.  `mixed_Case` is no camel-case name, since its capital
follows an underscore, and still comes out as `mixed_case`.

**Round trip.**  `snakeToCamel` writes each word after the first with its
first character in upper case.  Back in snake case, the underscore before a
word returns only when the word starts with a letter (a digit has no
capital) and the character before it is a small letter or a digit, which a
word of one letter, now a capital, is not.  So `a_1` comes back as `a1` and
`a_b_c` as `a_bc`, and a snake-case name comes back exactly when every word
after the first starts with a letter and every word between the first and
the last has two characters or more.

**Results.**
* `snakeChars_eq_flatMap`: the character loop writes the snake spelling.
* `snakeChars_noCapital`: no ASCII capital is written.
* `columnCase_spelling`: which names are kept, and what is written for the others.
* `columnCase_snakeToCamel_iff`: which snake-case names come back from camel case.
-/

namespace RestQuery
namespace Naming

section Ascii

@[simp] theorem isAsciiUpper_eq_isUpper (c : Char) : isAsciiUpper c = c.isUpper := by
  simp [isAsciiUpper, Char.isUpper, Char.le_def]

@[simp] theorem isAsciiLower_eq_isLower (c : Char) : isAsciiLower c = c.isLower := by
  simp [isAsciiLower, Char.isLower, Char.le_def]

@[simp] theorem isAsciiDigit_eq_isDigit (c : Char) : isAsciiDigit c = c.isDigit := by
  simp [isAsciiDigit, Char.isDigit, Char.le_def]

/-- A character of a snake-case word: an ASCII small letter or a digit. -/
def isWordChar (c : Char) : Bool :=
  isAsciiLower c || isAsciiDigit c

theorem not_isUpper_of_isDigit {c : Char} (h : c.isDigit = true) : c.isUpper = false := by
  simp [Char.isDigit, Char.isUpper, UInt32.le_iff_toNat_le] at h ⊢
  omega

theorem isWordChar_not_upper {c : Char} (h : isWordChar c = true) : c.isUpper = false := by
  simp only [isWordChar, isAsciiLower_eq_isLower, isAsciiDigit_eq_isDigit, Bool.or_eq_true] at h
  rcases h with h | h
  · exact Bool.eq_false_iff.mpr (Char.not_isUpper_of_isLower h)
  · exact not_isUpper_of_isDigit h

theorem isWordChar_ne_underscore {c : Char} (h : isWordChar c = true) : c ≠ '_' := by
  rintro rfl
  exact absurd h (by decide)

/-- A word character is ASCII, so upper case maps it alone. -/
theorem isWordChar_ascii {c : Char} (h : isWordChar c = true) : c.toNat < 0x80 := by
  simp [isWordChar, Char.isLower, Char.isDigit, UInt32.le_iff_toNat_le] at h
  omega

/-- Raising a word character and lowering it again gives it back. -/
theorem toLower_toUpper_of_isWordChar {c : Char} (h : isWordChar c = true) :
    c.toUpper.toLower = c := by
  rw [Char.toLower_toUpper_eq_toLower]
  exact Char.toLower_eq_of_not_isUpper (by simp [isWordChar_not_upper h])

/-- A word character raised is a capital exactly when it is a small letter. -/
theorem isUpper_toUpper_of_isWordChar {c : Char} (h : isWordChar c = true) :
    c.toUpper.isUpper = c.isLower := by
  rw [Char.isUpper_toUpper_eq_isAlpha, Char.isAlpha, isWordChar_not_upper h, Bool.false_or]

end Ascii

section Spelling

/-- Whether `c`, written after `prev`, opens a word: an ASCII capital right after an ASCII small
letter or a digit. -/
def opensWord (prev : Option Char) (c : Char) : Bool :=
  isAsciiUpper c && prev.any isWordChar

/-- What a character becomes after `prev`: a `_` if it opens a word, then the character in ASCII
lower case. -/
def snakePiece (prev : Option Char) (c : Char) : List Char :=
  (if opensWord prev c then ['_'] else []) ++ [c.toLower]

/-- Each character of `cs` with the one before it, `prev` standing before the first. -/
def withPrev (prev : Option Char) (cs : List Char) : List (Option Char × Char) :=
  (prev :: cs.map some).zip cs

/-- The snake spelling of a name, piece by piece. -/
def snakeSpelling (cs : List Char) : List Char :=
  (withPrev none cs).flatMap fun x => snakePiece x.1 x.2

/-- Whether a name starts with an ASCII small letter. -/
def startsLower (s : String) : Bool :=
  s.toList.head?.any isAsciiLower

/-- Whether a name is camel case: it starts with an ASCII small letter and a capital in it opens
a word. -/
def isCamel (s : String) : Bool :=
  startsLower s && (withPrev none s.toList).any fun x => opensWord x.1 x.2

@[simp] theorem withPrev_nil (prev : Option Char) : withPrev prev [] = [] := rfl

@[simp] theorem withPrev_cons (prev : Option Char) (c : Char) (cs : List Char) :
    withPrev prev (c :: cs) = (prev, c) :: withPrev (some c) cs := rfl

theorem snakeChars_cons (prev : Option Char) (c : Char) (cs : List Char) :
    snakeChars prev (c :: cs) = snakePiece prev c ++ snakeChars (some c) cs := by
  by_cases hc : c.isUpper = true
  · cases prev with
    | none => simp [snakeChars, snakePiece, opensWord, hc]
    | some p => by_cases hp : isWordChar p = true <;> simp_all [snakeChars, snakePiece, opensWord, isWordChar]
  · have hl : c.toLower = c := Char.toLower_eq_of_not_isUpper hc
    cases prev <;> simp [snakeChars, snakePiece, opensWord, hc, hl]

/-- The character loop of `columnCase` writes the snake spelling, whatever character stands
before the list. -/
theorem snakeChars_eq_flatMap (prev : Option Char) (cs : List Char) :
    snakeChars prev cs = (withPrev prev cs).flatMap fun x => snakePiece x.1 x.2 := by
  induction cs generalizing prev with
  | nil => rfl
  | cons c cs ih => rw [snakeChars_cons, ih, withPrev_cons, List.flatMap_cons]

theorem snakePiece_noCapital (prev : Option Char) (c : Char) :
    ∀ d ∈ snakePiece prev c, isAsciiUpper d = false := by
  intro d hd
  simp only [snakePiece, List.mem_append, List.mem_ite_nil_right, List.mem_singleton] at hd
  rcases hd with ⟨-, rfl⟩ | rfl
  · decide
  · simp

/-- No ASCII capital is written. -/
theorem snakeChars_noCapital (prev : Option Char) (cs : List Char) :
    ∀ d ∈ snakeChars prev cs, isAsciiUpper d = false := by
  intro d hd
  rw [snakeChars_eq_flatMap, List.mem_flatMap] at hd
  obtain ⟨x, -, hx⟩ := hd
  exact snakePiece_noCapital x.1 x.2 d hx

/-- The loop changes nothing exactly when there is no ASCII capital to lower. -/
theorem snakeChars_eq_self_iff (prev : Option Char) (cs : List Char) :
    snakeChars prev cs = cs ↔ ∀ c ∈ cs, isAsciiUpper c = false := by
  constructor
  · intro h
    rw [← h]
    exact snakeChars_noCapital prev cs
  · intro h
    induction cs generalizing prev with
    | nil => rfl
    | cons c cs ih =>
      have hc : c.isUpper = false := by simpa using h c List.mem_cons_self
      have hl : c.toLower = c := Char.toLower_eq_of_not_isUpper (by simp [hc])
      have hpiece : snakePiece prev c = [c] := by
        simp [snakePiece, opensWord, hc, hl]
      rw [snakeChars_cons, hpiece, ih (some c) fun d hd => h d (List.mem_cons_of_mem c hd)]
      rfl

theorem columnCase_eq (s : String) :
    columnCase s = if startsLower s then String.ofList (snakeChars none s.toList) else s := by
  unfold columnCase startsLower
  split
  · next c rest hs => simp [hs]
  · next hs => simp [hs]

/-- A name is kept exactly when it does not start with an ASCII small letter or has no ASCII
capital; every name that starts with an ASCII small letter is written in its snake spelling,
whether or not it is camel case. -/
theorem columnCase_spelling (s : String) :
    (columnCase s = s ↔ startsLower s = false ∨ ∀ c ∈ s.toList, isAsciiUpper c = false) ∧
      columnCase s = if startsLower s then String.ofList (snakeSpelling s.toList) else s := by
  rw [columnCase_eq, snakeChars_eq_flatMap]
  refine ⟨?_, rfl⟩
  cases hs : startsLower s
  · simp
  · simp only [if_true, String.ofList_eq, Bool.true_eq_false, false_or, ← snakeChars_eq_flatMap]
    exact snakeChars_eq_self_iff none s.toList

/-- `mixed_Case` is no camel-case name, its capital following an underscore, and is lowered
all the same. -/
theorem mixedCase_lowered :
    isCamel "mixed_Case" = false ∧ columnCase "mixed_Case" = "mixed_case" := by
  decide

end Spelling

section RoundTrip

/-- A lower snake-case name: words of ASCII small letters and digits joined by single
underscores, the first word beginning with a small letter. -/
structure SnakeName where
  first : List Char
  rest : List (List Char)
  first_starts : first.head?.any isAsciiLower = true
  first_chars : ∀ c ∈ first, isWordChar c = true
  rest_words : ∀ v ∈ rest, v ≠ [] ∧ ∀ c ∈ v, isWordChar c = true

/-- The characters of a snake-case name: its first word, then each later word after an
underscore. -/
def SnakeName.chars (n : SnakeName) : List Char :=
  n.first ++ n.rest.flatMap ('_' :: ·)

/-- A snake-case name as text. -/
def SnakeName.text (n : SnakeName) : String :=
  String.ofList n.chars

/-- A word with its first character in upper case. -/
def capitalWord : List Char → List Char
  | [] => []
  | c :: cs => c.toUpper :: cs

/-- The words after the first, written back in snake case from camel case; `prev` is the camel
character before them.  A word gets its underscore back when it starts with a small letter
after a small letter or a digit. -/
def rejoin (prev : Option Char) : List (List Char) → List Char
  | [] => []
  | v :: vs =>
    (if v.head?.any isAsciiLower && prev.any isWordChar then '_' :: v else v) ++
      rejoin (capitalWord v).getLast? vs

theorem camelChars_cons_of_ne {c : Char} (h : c ≠ '_') (cs : List Char) :
    camelChars (c :: cs) = c :: camelChars cs := by
  cases cs <;> simp [camelChars, h]

theorem camelChars_word_append {w : List Char} (hw : ∀ c ∈ w, isWordChar c = true)
    (r : List Char) : camelChars (w ++ r) = w ++ camelChars r := by
  induction w with
  | nil => rfl
  | cons c w ih =>
    rw [List.cons_append, camelChars_cons_of_ne (isWordChar_ne_underscore (hw c List.mem_cons_self)),
      ih fun d hd => hw d (List.mem_cons_of_mem c hd)]
    rfl

/-- An underscore and a word come out as the word with its first character raised. -/
theorem camelChars_underscore_word {v : List Char} (hv : v ≠ [] ∧ ∀ c ∈ v, isWordChar c = true)
    (r : List Char) : camelChars ('_' :: (v ++ r)) = capitalWord v ++ camelChars r := by
  obtain ⟨hne, hchars⟩ := hv
  cases v with
  | nil => exact absurd rfl hne
  | cons d v =>
    have hd : Text.Case.upper d = [d.toUpper] :=
      Text.Case.upper_ascii d (isWordChar_ascii (hchars d List.mem_cons_self))
    rw [List.cons_append, camelChars, hd, camelChars_word_append fun c hc =>
      hchars c (List.mem_cons_of_mem d hc)]
    rfl

theorem camelChars_words (vs : List (List Char))
    (hvs : ∀ v ∈ vs, v ≠ [] ∧ ∀ c ∈ v, isWordChar c = true) :
    camelChars (vs.flatMap ('_' :: ·)) = vs.flatMap capitalWord := by
  induction vs with
  | nil => rfl
  | cons v vs ih =>
    rw [List.flatMap_cons, List.cons_append, camelChars_underscore_word (hvs v List.mem_cons_self),
      ih fun u hu => hvs u (List.mem_cons_of_mem v hu), List.flatMap_cons]

/-- The camel case of a snake-case name: its first word, then the later words raised. -/
theorem camelChars_snakeName (n : SnakeName) :
    camelChars n.chars = n.first ++ n.rest.flatMap capitalWord := by
  rw [SnakeName.chars, camelChars_word_append n.first_chars, camelChars_words n.rest n.rest_words]

theorem snakeChars_append (prev : Option Char) (xs ys : List Char) :
    snakeChars prev (xs ++ ys) = snakeChars prev xs ++ snakeChars (xs.getLast?.or prev) ys := by
  induction xs generalizing prev with
  | nil => rfl
  | cons c xs ih =>
    rw [List.cons_append, snakeChars_cons, snakeChars_cons, ih, List.append_assoc]
    cases xs <;> rfl

/-- Word characters hold no capital, so the loop keeps them as they are. -/
theorem snakeChars_of_wordChars (prev : Option Char) {w : List Char}
    (hw : ∀ c ∈ w, isWordChar c = true) : snakeChars prev w = w :=
  (snakeChars_eq_self_iff prev w).mpr fun c hc => by simp [isWordChar_not_upper (hw c hc)]

/-- A raised word goes back to the word, after an underscore when it opens a word. -/
theorem snakeChars_capitalWord (prev : Option Char) {v : List Char}
    (hv : v ≠ [] ∧ ∀ c ∈ v, isWordChar c = true) :
    snakeChars prev (capitalWord v) =
      if v.head?.any isAsciiLower && prev.any isWordChar then '_' :: v else v := by
  obtain ⟨hne, hchars⟩ := hv
  cases v with
  | nil => exact absurd rfl hne
  | cons d v =>
    have hd := hchars d List.mem_cons_self
    rw [capitalWord, snakeChars_cons,
      snakeChars_of_wordChars _ fun c hc => hchars c (List.mem_cons_of_mem d hc)]
    simp only [snakePiece, opensWord, isAsciiUpper_eq_isUpper, isUpper_toUpper_of_isWordChar hd,
      toLower_toUpper_of_isWordChar hd, List.head?_cons, Option.any_some, isAsciiLower_eq_isLower]
    split <;> rfl

theorem snakeChars_words (prev : Option Char) (vs : List (List Char))
    (hvs : ∀ v ∈ vs, v ≠ [] ∧ ∀ c ∈ v, isWordChar c = true) :
    snakeChars prev (vs.flatMap capitalWord) = rejoin prev vs := by
  induction vs generalizing prev with
  | nil => rfl
  | cons v vs ih =>
    have hv := hvs v List.mem_cons_self
    have hlast : (capitalWord v).getLast?.or prev = (capitalWord v).getLast? := by
      cases v with
      | nil => exact absurd rfl hv.1
      | cons d v => simp [capitalWord, List.getLast?_cons]
    rw [List.flatMap_cons, snakeChars_append, snakeChars_capitalWord prev hv, hlast,
      ih _ fun u hu => hvs u (List.mem_cons_of_mem v hu), rejoin]

/-- Whether the words keep their underscores: the first keeps it exactly when the condition at
its head holds and the rest keep theirs. -/
theorem rejoin_cons_eq_iff (prev : Option Char) {v : List Char} (vs : List (List Char))
    (hv : v ≠ [] ∧ ∀ c ∈ v, isWordChar c = true) :
    rejoin prev (v :: vs) = (v :: vs).flatMap ('_' :: ·) ↔
      (v.head?.any isAsciiLower && prev.any isWordChar) = true ∧
        rejoin (capitalWord v).getLast? vs = vs.flatMap ('_' :: ·) := by
  rw [rejoin, List.flatMap_cons]
  split
  · next hk => simp [hk]
  · next hk =>
    -- without its underscore the word starts with a word character, not with `_`
    simp only [hk, Bool.false_eq_true, false_and, iff_false]
    cases v with
    | nil => exact absurd rfl hv.1
    | cons d v =>
      intro h
      have := (List.cons.inj h).1
      exact isWordChar_ne_underscore (hv.2 d List.mem_cons_self) this

/-- After a word that starts with a small letter, the last camel character is a word character
exactly when the word has two characters or more: a word of one letter ends in a capital. -/
theorem getLast_capitalWord_isWordChar {v : List Char} (hv : ∀ c ∈ v, isWordChar c = true)
    (hl : v.head?.any isAsciiLower = true) :
    (capitalWord v).getLast?.any isWordChar = true ↔ 2 ≤ v.length := by
  cases v with
  | nil => simp at hl
  | cons d v =>
    simp only [List.head?_cons, Option.any_some, isAsciiLower_eq_isLower] at hl
    cases v with
    | nil =>
      have hup : d.toUpper.isUpper = true := by
        rw [isUpper_toUpper_of_isWordChar (hv d List.mem_cons_self), hl]
      simp only [capitalWord, List.getLast?_singleton, Option.any_some, List.length_singleton,
        Nat.not_ofNat_le_one, iff_false, Bool.not_eq_true]
      cases hw : isWordChar d.toUpper
      · rfl
      · exact absurd hup (by simp [isWordChar_not_upper hw])
    | cons e v =>
      have hlast : ((e :: v).getLast (List.cons_ne_nil e v)) ∈ d :: e :: v :=
        List.mem_cons_of_mem d (List.getLast_mem _)
      simp only [capitalWord, List.getLast?_cons_cons, List.getLast?_eq_some_getLast (List.cons_ne_nil e v),
        Option.any_some, List.length_cons, hv _ hlast, true_iff]
      omega

/-- After a word character, the later words keep their underscores exactly when each starts
with a small letter and each but the last has two characters or more. -/
theorem rejoin_eq_iff {prev : Option Char} (hp : prev.any isWordChar = true)
    (vs : List (List Char)) (hvs : ∀ v ∈ vs, v ≠ [] ∧ ∀ c ∈ v, isWordChar c = true) :
    rejoin prev vs = vs.flatMap ('_' :: ·) ↔
      (∀ v ∈ vs, v.head?.any isAsciiLower = true) ∧ ∀ v ∈ vs.dropLast, 2 ≤ v.length := by
  induction vs generalizing prev with
  | nil => simp [rejoin]
  | cons v vs ih =>
    have hv := hvs v List.mem_cons_self
    have hvs' : ∀ u ∈ vs, u ≠ [] ∧ ∀ c ∈ u, isWordChar c = true :=
      fun u hu => hvs u (List.mem_cons_of_mem v hu)
    rw [rejoin_cons_eq_iff prev vs hv, hp, Bool.and_true]
    by_cases hl : v.head?.any isAsciiLower = true
    · cases vs with
      | nil => simp [rejoin, hl]
      | cons u us =>
        by_cases h2 : 2 ≤ v.length
        · -- the next word follows a word character, so the rest is the same question
          have hp' := (getLast_capitalWord_isWordChar hv.2 hl).mpr h2
          rw [ih hp' hvs']
          simp [hl, h2]
        · -- the next word follows a capital and loses its underscore
          have hp' : (capitalWord v).getLast?.any isWordChar = false := by
            simpa using mt (getLast_capitalWord_isWordChar hv.2 hl).mp h2
          rw [rejoin_cons_eq_iff _ us (hvs' u List.mem_cons_self), hp']
          simp [h2]
    · simp [hl]

/-- A snake-case name comes back from its camel-case form exactly when every word after the
first starts with a small letter and every word between the first and the last has two
characters or more. -/
theorem columnCase_snakeToCamel_iff (n : SnakeName) :
    columnCase (snakeToCamel n.text) = n.text ↔
      (∀ v ∈ n.rest, v.head?.any isAsciiLower = true) ∧ ∀ v ∈ n.rest.dropLast, 2 ≤ v.length := by
  have hfirst : n.first ≠ [] := by
    intro h
    simpa [h] using n.first_starts
  have hcamel : (snakeToCamel n.text).toList = n.first ++ n.rest.flatMap capitalWord := by
    rw [snakeToCamel, SnakeName.text, String.toList_ofList, String.toList_ofList,
      camelChars_snakeName]
  have hstarts : startsLower (snakeToCamel n.text) = true := by
    obtain ⟨d, w, hw⟩ := List.exists_cons_of_ne_nil hfirst
    have hd := n.first_starts
    rw [hw] at hd
    simpa [startsLower, hcamel, hw] using hd
  have hprev : n.first.getLast?.any isWordChar = true := by
    rw [List.getLast?_eq_some_getLast hfirst, Option.any_some]
    exact n.first_chars _ (List.getLast_mem hfirst)
  rw [columnCase_eq, if_pos hstarts, hcamel, snakeChars_append,
    snakeChars_of_wordChars none n.first_chars, Option.or_none,
    snakeChars_words _ n.rest n.rest_words, SnakeName.text, String.ofList_eq, String.toList_ofList,
    SnakeName.chars, List.append_cancel_left_eq]
  exact rejoin_eq_iff hprev n.rest n.rest_words

/-- `a_1` and `a_b_c` are lower snake-case names that do not come back from camel case: a digit
has no capital, and a word of one letter ends in one. -/
theorem roundTrip_drops_underscores :
    columnCase (snakeToCamel "a_1") = "a1" ∧ columnCase (snakeToCamel "a_b_c") = "a_bc" := by
  decide

end RoundTrip

end Naming
end RestQuery
