/-!
# Reading UTF-8 bytes

Bytes are read as UTF-8 text, and what is not UTF-8 is replaced rather than
refused: every maximal piece of bytes that begins a sequence but cannot be
completed becomes one replacement character `U+FFFD`, and reading goes on at
the first byte that does not fit.  A byte that can begin no sequence is a
piece of its own.

A sequence is a lead byte and the number of continuation bytes it calls
for.  The first continuation byte has a narrowed range after the leads
`E0`, `ED`, `F0` and `F4`; this rules out overlong forms, surrogates and
values past `10FFFF`.

**Results.**
* `decode_ascii`: ASCII bytes are read one character each.
-/

namespace RestQuery
namespace Text
namespace Utf8

/-- The character that stands for bytes that are not UTF-8. -/
def replacement : Char := '�'

/-- The shape of a sequence begun by a byte: the number of continuation bytes, the
range of the first of them, and the value bits of the lead byte; none for a byte
that begins no sequence. -/
def leadShape (b : Nat) : Option (Nat × Nat × Nat × Nat) :=
  if b < 0x80 then some (0, 0, 0, b)
  else if 0xC2 ≤ b ∧ b ≤ 0xDF then some (1, 0x80, 0xBF, b % 32)
  else if b = 0xE0 then some (2, 0xA0, 0xBF, b % 16)
  else if b = 0xED then some (2, 0x80, 0x9F, b % 16)
  else if 0xE1 ≤ b ∧ b ≤ 0xEF then some (2, 0x80, 0xBF, b % 16)
  else if b = 0xF0 then some (3, 0x90, 0xBF, b % 8)
  else if 0xF1 ≤ b ∧ b ≤ 0xF3 then some (3, 0x80, 0xBF, b % 8)
  else if b = 0xF4 then some (3, 0x80, 0x8F, b % 8)
  else none

/-- Reads up to `need` continuation bytes, the first within `lo`–`hi`; gives how many
fitted and the value they complete. -/
def continuation : Nat → Nat → Nat → Nat → List UInt8 → Nat × Nat
  | 0, _, _, acc, _ => (0, acc)
  | _ + 1, _, _, acc, [] => (0, acc)
  | need + 1, lo, hi, acc, b :: rest =>
    if lo ≤ b.toNat ∧ b.toNat ≤ hi then
      let (k, v) := continuation need 0x80 0xBF (acc * 64 + (b.toNat - 0x80)) rest
      (k + 1, v)
    else (0, acc)

/-- The text of a list of bytes, with replacement characters for what is not UTF-8. -/
def decode : List UInt8 → List Char
  | [] => []
  | b :: rest =>
    match leadShape b.toNat with
    | none => replacement :: decode rest
    | some (need, lo, hi, bits) =>
      let (k, v) := continuation need lo hi bits rest
      (if k = need then Char.ofNat v else replacement) :: decode (rest.drop k)
termination_by bs => bs.length
decreasing_by
  · simp
  · simp only [List.length_drop, List.length_cons]
    omega

/-- The UTF-8 bytes of a text. -/
def encode (s : String) : List UInt8 :=
  s.toList.flatMap String.utf8EncodeChar

theorem decode_ascii (b : UInt8) (rest : List UInt8) (h : b.toNat < 0x80) :
    decode (b :: rest) = Char.ofNat b.toNat :: decode rest := by
  rw [decode]
  simp [leadShape, h, continuation]

end Utf8
end Text
end RestQuery
