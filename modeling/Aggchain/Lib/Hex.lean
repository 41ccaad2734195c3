import Aggchain.Lib.Numeral

/-!
# Hexadecimal texts of byte strings

Two digits for a byte, the high one first.  They are written in lower case and read in either case;
what was written is read back (`decode_encode`).
-/

namespace Hex

/-- The text of a byte string. -/
def encode (bytes : List UInt8) : List Char :=
  bytes.flatMap (fun b => [Nat.digitChar (b.toNat / 16), Nat.digitChar (b.toNat % 16)])

/-- The byte string of a text. -/
def decode : List Char → Option (List UInt8)
  | [] => some []
  | [_] => none
  | high :: low :: rest => do
    let high ← Net.toDigit 16 high
    let low ← Net.toDigit 16 low
    let bytes ← decode rest
    pure (UInt8.ofNat (high * 16 + low) :: bytes)

/-- Drop a leading `0x`. -/
def stripPrefix : List Char → List Char
  | '0' :: 'x' :: rest => rest
  | text => text

theorem decode_encode (bytes : List UInt8) : decode (encode bytes) = some bytes := by
  induction bytes with
  | nil => rfl
  | cons b bytes ih =>
    have hb := b.toNat_lt
    have hhigh : Net.toDigit 16 (Nat.digitChar (b.toNat / 16)) = some (b.toNat / 16) :=
      Net.toDigit_digitChar (by omega) (by omega)
    have hlow : Net.toDigit 16 (Nat.digitChar (b.toNat % 16)) = some (b.toNat % 16) :=
      Net.toDigit_digitChar (by omega) (by omega)
    have hbyte : b.toNat / 16 * 16 + b.toNat % 16 = b.toNat := by omega
    show decode (_ :: _ :: encode bytes) = _
    rw [decode, hhigh, hlow, ih]
    simp only [bind, Option.bind_some, hbyte, UInt8.ofNat_toNat]
    rfl

end Hex
