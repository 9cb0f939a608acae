import Mathlib.Data.UInt
import Mathlib.Data.Nat.Defs

/-!
# Byte order on a little-endian host

`mptcp.c` keeps every option field as the integer the host reads from the
packet bytes, and converts with `ntohs`, `htons`, `htonl` and `htobe64`. The
model fixes the host packetdrill runs on, an x86-64 Linux machine: it is
little-endian, so each of these conversions reverses the bytes, and
`unsigned long` is 8 bytes wide (the HMAC key buffers of
`mptcp_subtype_mp_join` store two keys through `unsigned long *`).

Everything is derived from two functions on `ℕ`: `leBytes n x`, the `n`
bytes of `x` lowest address first, and `leValue`, its inverse.

Results:
* `leValue_leBytes`, `leBytes_leValue`: the two are inverse on `n`-byte values.
* `bswap_bswap`: reversing the bytes twice is the identity.
* `htons_htons`, `htonl_htonl`, `htobe64_htobe64`: each conversion is an
  involution, so `ntohs = htons` and `ntohl = htonl`.
* `wire32_htonl`: the bytes of a field written with `htonl x` are the bytes of
  `x` in reverse order.
-/

namespace PacketdrillMptcp

/-! ## Bytes of a number -/

/-- The `n` bytes of `x` as a little-endian host stores them, lowest address
first. -/
def leBytes : ℕ → ℕ → List UInt8
  | 0, _ => []
  | n + 1, x => UInt8.ofNat (x % 256) :: leBytes n (x / 256)

/-- The number a little-endian host reads from the bytes `bs`. -/
def leValue : List UInt8 → ℕ
  | [] => 0
  | b :: bs => b.toNat + 256 * leValue bs

/-- The value of `x` with its `n` bytes in reverse order. -/
def bswap (n x : ℕ) : ℕ := leValue (leBytes n x).reverse

theorem uint8_toNat_ofNat (n : ℕ) : (UInt8.ofNat n).toNat = n % 256 := BitVec.toNat_ofNat ..

theorem uint8_toNat_lt (b : UInt8) : b.toNat < 256 := b.toBitVec.isLt

theorem uint8_ext {a b : UInt8} (h : a.toNat = b.toNat) : a = b :=
  UInt8.eq_of_toBitVec_eq (BitVec.eq_of_toNat_eq h)

@[simp] theorem length_leBytes (n x : ℕ) : (leBytes n x).length = n := by
  induction n generalizing x <;> simp [leBytes, *]

theorem leValue_leBytes (n x : ℕ) : leValue (leBytes n x) = x % 256 ^ n := by
  induction n generalizing x with
  | zero => simp [leBytes, leValue, Nat.mod_one]
  | succ n ih =>
    rw [leBytes, leValue, ih, uint8_toNat_ofNat, Nat.mod_mod, pow_succ, mul_comm _ 256, Nat.mod_mul]

theorem leValue_lt (bs : List UInt8) : leValue bs < 256 ^ bs.length := by
  induction bs with
  | nil => simp [leValue]
  | cons b bs ih =>
    have := uint8_toNat_lt b
    rw [leValue, List.length_cons, pow_succ]
    omega

theorem leBytes_leValue (bs : List UInt8) : leBytes bs.length (leValue bs) = bs := by
  induction bs with
  | nil => rfl
  | cons b bs ih =>
    have hb := uint8_toNat_lt b
    have hdiv : (b.toNat + 256 * leValue bs) / 256 = leValue bs := by omega
    rw [List.length_cons, leBytes, leValue, hdiv, ih]
    congr 1
    exact uint8_ext (by rw [uint8_toNat_ofNat]; omega)

/-- Two values below `256 ^ n` with the same `n` bytes are equal. -/
theorem leBytes_injective {n x y : ℕ} (hx : x < 256 ^ n) (hy : y < 256 ^ n)
    (h : leBytes n x = leBytes n y) : x = y := by
  rw [← Nat.mod_eq_of_lt hx, ← Nat.mod_eq_of_lt hy, ← leValue_leBytes, ← leValue_leBytes, h]

theorem bswap_lt (n x : ℕ) : bswap n x < 256 ^ n := by
  simpa using leValue_lt (leBytes n x).reverse

theorem leBytes_bswap (n x : ℕ) : leBytes n (bswap n x) = (leBytes n x).reverse := by
  simpa using leBytes_leValue (leBytes n x).reverse

theorem bswap_bswap {n x : ℕ} (h : x < 256 ^ n) : bswap n (bswap n x) = x := by
  rw [bswap, leBytes_bswap, List.reverse_reverse, leValue_leBytes, Nat.mod_eq_of_lt h]

/-! ## Fixed-width fields -/

theorem uint16_toNat_ofNat (n : ℕ) : (UInt16.ofNat n).toNat = n % 256 ^ 2 := BitVec.toNat_ofNat ..
theorem uint32_toNat_ofNat (n : ℕ) : (UInt32.ofNat n).toNat = n % 256 ^ 4 := BitVec.toNat_ofNat ..
theorem uint64_toNat_ofNat (n : ℕ) : (UInt64.ofNat n).toNat = n % 256 ^ 8 := BitVec.toNat_ofNat ..

theorem uint16_toNat_lt (x : UInt16) : x.toNat < 256 ^ 2 := x.toBitVec.isLt
theorem uint32_toNat_lt (x : UInt32) : x.toNat < 256 ^ 4 := x.toBitVec.isLt
theorem uint64_toNat_lt (x : UInt64) : x.toNat < 256 ^ 8 := x.toBitVec.isLt

theorem uint16_ext {x y : UInt16} (h : x.toNat = y.toNat) : x = y :=
  UInt16.eq_of_toBitVec_eq (BitVec.eq_of_toNat_eq h)
theorem uint32_ext {x y : UInt32} (h : x.toNat = y.toNat) : x = y :=
  UInt32.eq_of_toBitVec_eq (BitVec.eq_of_toNat_eq h)
theorem uint64_ext {x y : UInt64} (h : x.toNat = y.toNat) : x = y :=
  UInt64.eq_of_toBitVec_eq (BitVec.eq_of_toNat_eq h)

theorem uint8_toNat_add (a b : UInt8) : (a + b).toNat = (a.toNat + b.toNat) % 256 := BitVec.toNat_add ..
theorem uint16_toNat_sub (a b : UInt16) : (a - b).toNat = (256 ^ 2 - b.toNat + a.toNat) % 256 ^ 2 :=
  BitVec.toNat_sub ..

/-- `htons`, and `ntohs`: the two bytes of a 16-bit field swapped. -/
def htons (x : UInt16) : UInt16 := UInt16.ofNat (bswap 2 x.toNat)

/-- `htonl`, and `ntohl`: the four bytes of a 32-bit field reversed. -/
def htonl (x : UInt32) : UInt32 := UInt32.ofNat (bswap 4 x.toNat)

/-- `htobe64`: the eight bytes of a 64-bit field reversed. -/
def htobe64 (x : UInt64) : UInt64 := UInt64.ofNat (bswap 8 x.toNat)

/-- `ntohs` is the same byte swap as `htons`. -/
abbrev ntohs := htons

/-- `ntohl` is the same byte swap as `htonl`. -/
abbrev ntohl := htonl

theorem htons_toNat (x : UInt16) : (htons x).toNat = bswap 2 x.toNat := by
  rw [htons, uint16_toNat_ofNat, Nat.mod_eq_of_lt (bswap_lt 2 _)]

theorem htonl_toNat (x : UInt32) : (htonl x).toNat = bswap 4 x.toNat := by
  rw [htonl, uint32_toNat_ofNat, Nat.mod_eq_of_lt (bswap_lt 4 _)]

theorem htobe64_toNat (x : UInt64) : (htobe64 x).toNat = bswap 8 x.toNat := by
  rw [htobe64, uint64_toNat_ofNat, Nat.mod_eq_of_lt (bswap_lt 8 _)]

@[simp] theorem htons_htons (x : UInt16) : htons (htons x) = x :=
  uint16_ext (by rw [htons_toNat, htons_toNat, bswap_bswap (uint16_toNat_lt x)])

@[simp] theorem htonl_htonl (x : UInt32) : htonl (htonl x) = x :=
  uint32_ext (by rw [htonl_toNat, htonl_toNat, bswap_bswap (uint32_toNat_lt x)])

@[simp] theorem htobe64_htobe64 (x : UInt64) : htobe64 (htobe64 x) = x :=
  uint64_ext (by rw [htobe64_toNat, htobe64_toNat, bswap_bswap (uint64_toNat_lt x)])

/-- The four bytes a 32-bit field holding `x` puts on the wire. -/
def wire32 (x : UInt32) : List UInt8 := leBytes 4 x.toNat

/-- The eight bytes a 64-bit field holding `x` puts on the wire. -/
def wire64 (x : UInt64) : List UInt8 := leBytes 8 x.toNat

theorem wire32_htonl (x : UInt32) : wire32 (htonl x) = (wire32 x).reverse := by
  rw [wire32, htonl_toNat, leBytes_bswap, wire32]

theorem wire64_htobe64 (x : UInt64) : wire64 (htobe64 x) = (wire64 x).reverse := by
  rw [wire64, htobe64_toNat, leBytes_bswap, wire64]

theorem wire32_injective {x y : UInt32} (h : wire32 x = wire32 y) : x = y :=
  uint32_ext (leBytes_injective (uint32_toNat_lt x) (uint32_toNat_lt y) h)

example : htonl 0x01020304 = 0x04030201 := by decide

end PacketdrillMptcp
