import DryccBuilder.Go.Strings

/-!
# Hexadecimal encoding

`encoding/hex` writes each byte as two lowercase hexadecimal digits, the high half first:
`hex.Encode(dst, src)` fills `dst`, of `hex.EncodedLen(len(src))` bytes. This module gives the
encoding as what `dst` holds after it, the length and the alphabet of what it writes, and
`Bytes n`, Go's fixed-size `[n]byte` arrays, such as the `[md5.Size]byte` of `md5.Sum`.
-/

namespace Go

/-- A `[n]byte` array. -/
structure Bytes (n : ℕ) where
  /-- The bytes, in order. -/
  toList : List UInt8
  length_eq : toList.length = n

namespace Hex

/-- `hextable`: the digits. -/
def hextable : GoString := lit "0123456789abcdef"

/-- The two digits `hex.Encode` writes for a byte: `hextable[v>>4]`, then `hextable[v&0x0f]`. -/
def hexByte (v : UInt8) : GoString :=
  [hextable.getD (v >>> 4).toNat 0, hextable.getD (v &&& 0x0f).toNat 0]

/-- `hex.EncodedLen(n)`. -/
def encodedLen (n : ℕ) : ℕ := n * 2

/-- `hex.Encode(dst, src)`: what `dst` holds after it. -/
def encode (src : List UInt8) : GoString := src.flatMap hexByte

example : encode [0xfa, 0x61] = lit "fa61" := by decide

@[simp]
theorem length_hexByte (v : UInt8) : (hexByte v).length = 2 := rfl

theorem length_encode (src : List UInt8) : (encode src).length = encodedLen src.length := by
  induction src with
  | nil => rfl
  | cons v src ih =>
    simp only [encode, List.flatMap_cons, List.length_append, length_hexByte] at ih ⊢
    rw [ih, encodedLen, encodedLen, List.length_cons]
    ring

theorem getD_hextable_mem {n : ℕ} (h : n < 16) : hextable.getD n 0 ∈ hextable := by
  have hlen : hextable.length = 16 := by decide
  rw [List.getD_eq_getElem _ _ (hlen ▸ h)]
  exact List.getElem_mem _

/-- Both digits of a byte are digits of `hextable`. -/
theorem mem_hextable_of_mem_hexByte {v c : UInt8} (h : c ∈ hexByte v) : c ∈ hextable := by
  have hhigh : (v >>> 4).toNat < 16 := by
    have hdiv : (v >>> 4).toNat = v.toNat / 16 := by
      rw [UInt8.toNat_shiftRight, Nat.shiftRight_eq_div_pow]
      rfl
    have := v.toNat_lt
    omega
  have hlow : (v &&& 0x0f).toNat < 16 := by
    rw [UInt8.toNat_and]
    exact lt_of_le_of_lt Nat.and_le_right (by decide)
  simp only [hexByte, List.mem_cons, List.not_mem_nil, or_false] at h
  rcases h with rfl | rfl
  exacts [getD_hextable_mem hhigh, getD_hextable_mem hlow]

/-- Every byte of an encoding is a digit of `hextable`. -/
theorem mem_hextable_of_mem_encode {src : List UInt8} {c : UInt8} (h : c ∈ encode src) :
    c ∈ hextable := by
  obtain ⟨v, -, hv⟩ := List.mem_flatMap.mp h
  exact mem_hextable_of_mem_hexByte hv

end Hex

end Go
