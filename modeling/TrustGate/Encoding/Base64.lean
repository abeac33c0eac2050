import TrustGate.Value.Basic

/-!
# Base64

Three octets as four letters.  Reading is strict: the padding is complete, and
the bits it stands for are zero.

    decodeBase64? (encodeBase64 bs) = some bs    (decodeBase64?_encodeBase64)
-/

namespace TrustGate.Encoding

/-- The six bits of a letter. -/
def sextet? (c : Char) : Option Nat :=
  if 'A' ≤ c && c ≤ 'Z' then some (c.toNat - 65)
  else if 'a' ≤ c && c ≤ 'z' then some (c.toNat - 71)
  else if '0' ≤ c && c ≤ '9' then some (c.toNat + 4)
  else if c = '+' then some 62
  else if c = '/' then some 63
  else none

def letter (n : Nat) : Char :=
  if n < 26 then Char.ofNat (65 + n)
  else if n < 52 then Char.ofNat (71 + n)
  else if n < 62 then Char.ofNat (n - 4)
  else if n = 62 then '+'
  else '/'

/-- Decodes groups of four letters. -/
def decodeBase64? : List Char → Option Octets
  | [] => some []
  | [a, b, '=', '='] => do
    let x ← sextet? a
    let y ← sextet? b
    if y % 16 = 0 then return [UInt8.ofNat (x * 4 + y / 16)] else none
  | [a, b, c, '='] => do
    let x ← sextet? a
    let y ← sextet? b
    let z ← sextet? c
    if z % 4 = 0 then
      return [UInt8.ofNat (x * 4 + y / 16), UInt8.ofNat (y % 16 * 16 + z / 4)]
    else none
  | a :: b :: c :: d :: rest => do
    let x ← sextet? a
    let y ← sextet? b
    let z ← sextet? c
    let w ← sextet? d
    let bs ← decodeBase64? rest
    return UInt8.ofNat (x * 4 + y / 16) :: UInt8.ofNat (y % 16 * 16 + z / 4) ::
      UInt8.ofNat (z % 4 * 64 + w) :: bs
  | _ => none

/-- Encodes octets, padding included. -/
def encodeBase64 : Octets → List Char
  | [] => []
  | [a] => [letter (a.toNat / 4), letter (a.toNat % 4 * 16), '=', '=']
  | [a, b] =>
    [letter (a.toNat / 4), letter (a.toNat % 4 * 16 + b.toNat / 16), letter (b.toNat % 16 * 4), '=']
  | a :: b :: c :: rest =>
    letter (a.toNat / 4) :: letter (a.toNat % 4 * 16 + b.toNat / 16) ::
      letter (b.toNat % 16 * 4 + c.toNat / 64) :: letter (c.toNat % 64) :: encodeBase64 rest

/-! ## Lemmas -/

theorem sextet?_letter {n : Nat} (h : n < 64) : sextet? (letter n) = some n := by
  revert n; decide

theorem letter_ne_pad {n : Nat} (h : n < 64) : letter n ≠ '=' := by
  revert n; decide

/-- Encoded octets decode to themselves. -/
theorem decodeBase64?_encodeBase64 (bs : Octets) : decodeBase64? (encodeBase64 bs) = some bs := by
  fun_induction encodeBase64 bs with
  | case1 => rfl
  | case2 a =>
    have ha := a.toNat_lt
    have h1 := sextet?_letter (n := a.toNat / 4) (by omega)
    have h2 := sextet?_letter (n := a.toNat % 4 * 16) (by omega)
    simp only [decodeBase64?, h1, h2, Option.bind_eq_bind, Option.bind_some]
    rw [if_pos (by omega), show a.toNat / 4 * 4 + a.toNat % 4 * 16 / 16 = a.toNat by omega]
    simp
  | case3 a b =>
    have ha := a.toNat_lt
    have hb := b.toNat_lt
    have h1 := sextet?_letter (n := a.toNat / 4) (by omega)
    have h2 := sextet?_letter (n := a.toNat % 4 * 16 + b.toNat / 16) (by omega)
    have h3 := sextet?_letter (n := b.toNat % 16 * 4) (by omega)
    have hp := letter_ne_pad (n := b.toNat % 16 * 4) (by omega)
    rw [decodeBase64?]
    simp only [h1, h2, h3, Option.bind_eq_bind, Option.bind_some]
    rw [if_pos (by omega)]
    rw [show a.toNat / 4 * 4 + (a.toNat % 4 * 16 + b.toNat / 16) / 16 = a.toNat by omega,
      show (a.toNat % 4 * 16 + b.toNat / 16) % 16 * 16 + b.toNat % 16 * 4 / 4 = b.toNat by omega]
    · simp
    · simp [hp]
  | case4 a b c rest ih =>
    have ha := a.toNat_lt
    have hb := b.toNat_lt
    have hc := c.toNat_lt
    have h1 := sextet?_letter (n := a.toNat / 4) (by omega)
    have h2 := sextet?_letter (n := a.toNat % 4 * 16 + b.toNat / 16) (by omega)
    have h3 := sextet?_letter (n := b.toNat % 16 * 4 + c.toNat / 64) (by omega)
    have h4 := sextet?_letter (n := c.toNat % 64) (by omega)
    have hp := letter_ne_pad (n := c.toNat % 64) (by omega)
    rw [decodeBase64?]
    simp only [h1, h2, h3, h4, ih, Option.bind_eq_bind, Option.bind_some]
    rw [show a.toNat / 4 * 4 + (a.toNat % 4 * 16 + b.toNat / 16) / 16 = a.toNat by omega,
      show (a.toNat % 4 * 16 + b.toNat / 16) % 16 * 16 +
        (b.toNat % 16 * 4 + c.toNat / 64) / 4 = b.toNat by omega,
      show (b.toNat % 16 * 4 + c.toNat / 64) % 4 * 64 + c.toNat % 64 = c.toNat by omega]
    · simp
    all_goals simp [hp]

end TrustGate.Encoding
