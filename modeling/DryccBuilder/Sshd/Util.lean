import DryccBuilder.Go.Builtin
import DryccBuilder.Go.Hex
import DryccBuilder.Sshd.Server

/-!
# Key fingerprints

`fingerprint` (`pkg/sshd/util.go`) names a public key by the MD5 sum of its wire form, in colon
notation: the sixteen bytes of the sum as pairs of lowercase hexadecimal digits, joined by `:`.
The server looks the key of an SSH session up by this name among the keys the controller
stores for the app's users.

## The model

`md5.Sum` is a parameter `md5Sum`: what is proved needs only that a sum is sixteen bytes
(`Bytes 16`). A key is what `fingerprint` reads of it, `key.Marshal()`. `hex.Encode` leaves in
`buf` what `Hex.encode` gives. The loop fills `fp := make([]byte, len(buf)+15)` with
`fp[j] = ...; j++`, which is `storeNext`; a write past the end of `fp` would panic, and the
loop is `none` there.

## What is proved

`fingerprint_colon_hex`: for every key the loop runs to its end without a write out of range,
its index `j` ending at the length of `fp`, so that every byte of `fp` is written; and `fp` is
the colon notation of the sum (`colonHex`): 47 bytes, a `:` at each position `3i+2`, every
other byte a digit of `hextable`, and so no zero byte left by `make`.

The invariant of the loop (`fingerprintLoop_filled`): after `i` turns, `fp` holds
`colonPrefix buf i`, the digits `buf[0], ..., buf[i-1]` with a colon before each even index
but the first, and is zero after them.
-/

namespace DryccBuilder.Sshd

open Go

/-- An `ssh.PublicKey`, by what `fingerprint` reads of it. -/
structure PublicKey where
  /-- `key.Marshal()`: the key in wire format. -/
  marshal : GoString

/-- One turn of the loop of `fingerprint`, at `i` with `(j, fp)`: a colon before every even
index but the first, then `buf[i]`, in range since `i < len(buf)`. -/
def fingerprintStep (buf : GoString) (st : ℕ × GoString) (i : ℕ) :
    Option (ℕ × GoString) := do
  let st ← if i > 0 ∧ i % 2 = 0 then storeNext st (byte ":") else pure st
  storeNext st (buf.getD i 0)

/-- The loop of `fingerprint`: from `i, j := 0, 0` over `fp := make([]byte, len(buf)+15)`,
for every `i < len(buf)`. -/
def fingerprintLoop (buf : GoString) : Option (ℕ × GoString) :=
  (List.range buf.length).foldlM (fingerprintStep buf) (0, List.replicate (buf.length + 15) 0)

section Fingerprint

variable (md5Sum : GoString → Bytes 16)

/-- `fingerprint(key)`: `string(fp)` after the loop over the digits of `md5.Sum(key.Marshal())`. -/
def fingerprint (key : PublicKey) : Option GoString :=
  let hash := md5Sum key.marshal
  let buf := Hex.encode hash.toList
  (fingerprintLoop buf).map Prod.snd

/-- The colon notation of a sum: its bytes as pairs of hexadecimal digits, joined by `:`. -/
def colonHex (hash : List UInt8) : GoString := join (hash.map Hex.hexByte) (lit ":")

example : colonHex [0xfa, 0x61, 0x1a] = lit "fa:61:1a" := by decide

/-! ### The loop -/

/-- What the turn at `i` writes. -/
def fingerprintPiece (buf : GoString) (i : ℕ) : GoString :=
  (if i > 0 ∧ i % 2 = 0 then [byte ":"] else []) ++ [buf.getD i 0]

/-- What the first `i` turns write. -/
def colonPrefix (buf : GoString) (i : ℕ) : GoString :=
  (List.range i).flatMap (fingerprintPiece buf)

@[simp]
theorem colonPrefix_zero (buf : GoString) : colonPrefix buf 0 = [] := rfl

theorem colonPrefix_succ (buf : GoString) (i : ℕ) :
    colonPrefix buf (i + 1) = colonPrefix buf i ++ fingerprintPiece buf i := by
  simp [colonPrefix, List.range_succ]

/-- A colon for every even index but the first: `(i - 1) / 2` of them before index `i`. -/
theorem length_colonPrefix (buf : GoString) (i : ℕ) :
    (colonPrefix buf i).length = i + (i - 1) / 2 := by
  induction i with
  | zero => rfl
  | succ i ih =>
    rw [colonPrefix_succ, List.length_append, ih, fingerprintPiece]
    split_ifs with h <;> simp only [List.length_append, List.length_singleton, List.length_nil] <;>
      omega

/-- A turn writes its piece, byte after byte. -/
theorem fingerprintStep_eq_foldlM (buf : GoString) (st : ℕ × GoString) (i : ℕ) :
    fingerprintStep buf st i = (fingerprintPiece buf i).foldlM storeNext st := by
  unfold fingerprintStep fingerprintPiece
  split_ifs <;> simp [List.foldlM_cons, Option.bind_eq_bind]

/-- **The loop invariant**: after `i` turns, `fp` holds what they wrote and is zero after it,
and `j` is where it ends; no turn writes out of range while what they write fits in `fp`. -/
theorem fingerprintLoop_filled (buf : GoString) (n : ℕ) {i : ℕ}
    (hi : (colonPrefix buf i).length ≤ n) :
    (List.range i).foldlM (fingerprintStep buf) (filled [] n 0) =
      some (filled (colonPrefix buf i) n 0) := by
  induction i with
  | zero => rfl
  | succ i ih =>
    have hle : (colonPrefix buf i).length ≤ n := by
      rw [colonPrefix_succ, List.length_append] at hi
      omega
    rw [List.range_succ, List.foldlM_append, ih hle]
    simp only [List.foldlM_cons, List.foldlM_nil, Option.bind_eq_bind, Option.bind_some,
      fingerprintStep_eq_foldlM]
    rw [foldlM_storeNext_filled 0 _ (by rwa [← colonPrefix_succ]), colonPrefix_succ]
    rfl

/-! ### The colon notation -/

/-- The first `i` turns read only the first `i` digits of `buf`. -/
theorem colonPrefix_append {buf : GoString} (rest : GoString) {i : ℕ} (h : i ≤ buf.length) :
    colonPrefix (buf ++ rest) i = colonPrefix buf i := by
  induction i with
  | zero => rfl
  | succ i ih =>
    rw [colonPrefix_succ, colonPrefix_succ, ih (by omega)]
    simp only [fingerprintPiece, List.getD_append _ _ _ _ (by omega : i < buf.length)]

theorem encode_append_singleton (hash : List UInt8) (v : UInt8) :
    Hex.encode (hash ++ [v]) = Hex.encode hash ++ Hex.hexByte v := by
  simp [Hex.encode]

theorem colonHex_append_singleton (hash : List UInt8) (v : UInt8) :
    colonHex (hash ++ [v]) =
      colonHex hash ++ (if hash = [] then [] else lit ":") ++ Hex.hexByte v := by
  simp only [colonHex, List.map_append, List.map_singleton, join_append_singleton,
    List.map_eq_nil_iff]

/-- The turns over the digits of a sum write its colon notation: the pair of digits of each
byte, a colon before every pair but the first. -/
theorem colonPrefix_encode (hash : List UInt8) :
    colonPrefix (Hex.encode hash) (2 * hash.length) = colonHex hash := by
  induction hash using List.reverseRecOn with
  | nil => rfl
  | append_singleton hs v ih =>
    have hlen : (Hex.encode hs).length = 2 * hs.length := by
      rw [Hex.length_encode, Hex.encodedLen, Nat.mul_comm]
    rw [List.length_append, List.length_singleton,
      show 2 * (hs.length + 1) = 2 * hs.length + 1 + 1 by ring, colonPrefix_succ,
      colonPrefix_succ, encode_append_singleton, colonPrefix_append _ hlen.ge, ih,
      colonHex_append_singleton, List.append_assoc, List.append_assoc]
    congr 1
    -- the last byte's two turns: its high digit, after a colon unless it is the first byte,
    -- then its low digit
    have hcolon : lit ":" = [byte ":"] := by decide
    have hodd : ¬ (2 * hs.length + 1 > 0 ∧ (2 * hs.length + 1) % 2 = 0) := by omega
    have heven : (2 * hs.length > 0 ∧ 2 * hs.length % 2 = 0) ↔ hs ≠ [] := by
      rw [← List.length_pos_iff]
      omega
    have hhigh : (Hex.encode hs ++ Hex.hexByte v).getD (2 * hs.length) 0 =
        (Hex.hexByte v).getD 0 0 := by
      rw [List.getD_append_right _ _ _ _ hlen.le, hlen, Nat.sub_self]
    have hlow : (Hex.encode hs ++ Hex.hexByte v).getD (2 * hs.length + 1) 0 =
        (Hex.hexByte v).getD 1 0 := by
      rw [List.getD_append_right _ _ _ _ (by omega), hlen, Nat.add_sub_cancel_left]
    simp only [fingerprintPiece, if_neg hodd, hhigh, hlow, List.nil_append, hcolon, heven,
      ite_not]
    split <;> rfl

/-! ### The fingerprint -/

theorem colonPrefix_prefix (buf : GoString) {i k : ℕ} (h : i ≤ k) :
    colonPrefix buf i <+: colonPrefix buf k := by
  induction k, h using Nat.le_induction with
  | base => exact List.prefix_refl _
  | succ k _ ih =>
    rw [colonPrefix_succ]
    exact ih.trans (List.prefix_append _ _)

/-- The turn at the even index `2i+2` writes its colon at `3i+2`, after `2i+2` digits and `i`
colons. -/
theorem getElem?_colonPrefix_colon (buf : GoString) {i k : ℕ} (h : 2 * i + 3 ≤ k) :
    (colonPrefix buf k)[3 * i + 2]? = some (byte ":") := by
  obtain ⟨t, ht⟩ := colonPrefix_prefix buf h
  have hstart : (colonPrefix buf (2 * i + 2)).length = 3 * i + 2 := by
    rw [length_colonPrefix]
    omega
  have hcolon : 2 * i + 2 > 0 ∧ (2 * i + 2) % 2 = 0 := by omega
  rw [← ht, colonPrefix_succ, List.append_assoc, List.getElem?_append_right hstart.le, hstart,
    Nat.sub_self, fingerprintPiece, if_pos hcolon]
  rfl

/-- A turn writes a colon or a digit of `buf`. -/
theorem mem_colonPrefix {buf : GoString} {i : ℕ} (h : i ≤ buf.length) {c : UInt8}
    (hc : c ∈ colonPrefix buf i) : c = byte ":" ∨ c ∈ buf := by
  obtain ⟨k, hk, hc⟩ := List.mem_flatMap.mp hc
  rw [List.mem_range] at hk
  rw [fingerprintPiece, List.mem_append, List.mem_singleton] at hc
  rcases hc with hc | rfl
  · left
    split_ifs at hc
    · exact List.mem_singleton.mp hc
    · cases hc
  · right
    rw [List.getD_eq_getElem _ _ (by omega)]
    exact List.getElem_mem _

theorem length_encode_sum {hash : List UInt8} (hhash : hash.length = 16) :
    (Hex.encode hash).length = 32 := by
  rw [Hex.length_encode, hhash]
  rfl

/-- The loop over the 32 digits of a sum runs its 32 turns over the 47 bytes of `fp` and fills
them. -/
theorem fingerprintLoop_sum {hash : List UInt8} (hhash : hash.length = 16) :
    fingerprintLoop (Hex.encode hash) = some (47, colonPrefix (Hex.encode hash) 32) := by
  have hlen : (colonPrefix (Hex.encode hash) 32).length = 47 := length_colonPrefix _ 32
  rw [fingerprintLoop, length_encode_sum hhash, show 32 + 15 = 47 from rfl, ← filled_nil,
    fingerprintLoop_filled _ 47 hlen.le, filled, hlen, Nat.sub_self, List.replicate_zero,
    List.append_nil]

/-- `fingerprint` returns the colon notation of the sum, and never panics. -/
theorem fingerprint_eq (key : PublicKey) :
    fingerprint md5Sum key = some (colonHex (md5Sum key.marshal).toList) := by
  have hhash := (md5Sum key.marshal).length_eq
  simp only [fingerprint]
  rw [fingerprintLoop_sum hhash, ← colonPrefix_encode, hhash]
  rfl

theorem length_colonHex {hash : List UInt8} (hhash : hash.length = 16) :
    (colonHex hash).length = 47 := by
  rw [← colonPrefix_encode, hhash]
  exact length_colonPrefix _ 32

/-- **The fingerprint in colon notation.** For every key, the loop writes every byte of
`fp := make([]byte, len(buf)+15)` (its index `j` ends at `len(fp)`) and never out of range;
`fp` is the sixteen bytes of the sum as pairs of digits joined by `:`, 47 bytes with a colon at
each `3i+2`, and no byte of it is a zero left by `make`. -/
theorem fingerprint_colon_hex (key : PublicKey) :
    ∃ fp, fingerprintLoop (Hex.encode (md5Sum key.marshal).toList) = some (fp.length, fp) ∧
      fingerprint md5Sum key = some fp ∧ fp = colonHex (md5Sum key.marshal).toList ∧
      fp.length = 47 ∧ (∀ i < 15, fp[3 * i + 2]? = some (byte ":")) ∧
      (∀ c ∈ fp, c = byte ":" ∨ c ∈ Hex.hextable) ∧ (0 : UInt8) ∉ fp := by
  rw [fingerprint_eq]
  have hhash := (md5Sum key.marshal).length_eq
  generalize (md5Sum key.marshal).toList = hash at hhash
  -- the colon notation is what the loop writes over the 32 digits
  have hwritten : colonHex hash = colonPrefix (Hex.encode hash) 32 := by
    rw [← colonPrefix_encode, hhash]
  have hdigits : ∀ c ∈ colonHex hash, c = byte ":" ∨ c ∈ Hex.hextable := fun c hc =>
    (mem_colonPrefix (length_encode_sum hhash).ge (hwritten ▸ hc)).imp_right
      Hex.mem_hextable_of_mem_encode
  refine ⟨colonHex hash, ?_, rfl, rfl, length_colonHex hhash, fun i hi => ?_, hdigits,
    fun h0 => ?_⟩
  · rw [fingerprintLoop_sum hhash, length_colonHex hhash, hwritten]
  · rw [hwritten]
    exact getElem?_colonPrefix_colon _ (by omega)
  · rcases hdigits 0 h0 with h | h
    · exact absurd h (by decide)
    · exact absurd h (by decide)

end Fingerprint

end DryccBuilder.Sshd
