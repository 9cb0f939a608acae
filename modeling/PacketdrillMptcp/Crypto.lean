import PacketdrillMptcp.ByteOrder

/-!
# SHA-1 and HMAC-SHA1

`mptcp.c` calls four crypto helpers that are not in the repository:
`sha1_least_32bits` (the token of a key), `sha1_least_64bits` (the initial
data sequence number of a key), `hmac_sha1_truncat_64` and `hmac_sha1`. They
are modelled here on top of an executable SHA-1, so that the model of the
engine runs on concrete packets. No proof about the engine looks inside them.
-/

namespace PacketdrillMptcp

/-- The `n` bytes of `x`, most significant first. -/
def beBytes (n x : ℕ) : List UInt8 := (leBytes n x).reverse

/-- The number whose bytes, most significant first, are `bs`. -/
def beValue (bs : List UInt8) : ℕ := leValue bs.reverse

/-- Rotate a 32-bit word left by `n` bits. -/
def rotl (x : UInt32) (n : UInt32) : UInt32 := (x <<< n) ||| (x >>> (32 - n))

/-- The first `n` big-endian 32-bit words of `bs`. -/
def sha1Words : ℕ → List UInt8 → List UInt32
  | 0, _ => []
  | n + 1, bs => UInt32.ofNat (beValue (bs.take 4)) :: sha1Words n (bs.drop 4)

/-- Extend the message schedule `w` by `n` words. -/
def sha1Schedule : ℕ → List UInt32 → List UInt32
  | 0, w => w
  | n + 1, w =>
    let t := w.length
    sha1Schedule n
      (w ++ [rotl (w.getD (t - 3) 0 ^^^ w.getD (t - 8) 0 ^^^ w.getD (t - 14) 0 ^^^ w.getD (t - 16) 0) 1])

/-- Round `t` of the SHA-1 compression function on the working variables. -/
def sha1Round (v : UInt32 × UInt32 × UInt32 × UInt32 × UInt32) (tw : ℕ × UInt32) :
    UInt32 × UInt32 × UInt32 × UInt32 × UInt32 :=
  let (a, b, c, d, e) := v
  let (t, w) := tw
  let (f, k) :=
    if t < 20 then ((b &&& c) ||| (~~~b &&& d), (0x5A827999 : UInt32))
    else if t < 40 then (b ^^^ c ^^^ d, 0x6ED9EBA1)
    else if t < 60 then ((b &&& c) ||| (b &&& d) ||| (c &&& d), 0x8F1BBCDC)
    else (b ^^^ c ^^^ d, 0xCA62C1D6)
  (rotl a 5 + f + e + k + w, a, rotl b 30, c, d)

/-- The SHA-1 compression function on one 64-byte block. -/
def sha1Block (h : UInt32 × UInt32 × UInt32 × UInt32 × UInt32) (block : List UInt8) :
    UInt32 × UInt32 × UInt32 × UInt32 × UInt32 :=
  let (a, b, c, d, e) := ((List.range 80).zip (sha1Schedule 64 (sha1Words 16 block))).foldl sha1Round h
  let (h0, h1, h2, h3, h4) := h
  (h0 + a, h1 + b, h2 + c, h3 + d, h4 + e)

/-- The message, the `0x80` byte, zeros, and the bit length as 8 big-endian
bytes: a multiple of 64 bytes. -/
def sha1Pad (m : List UInt8) : List UInt8 :=
  m ++ [0x80] ++ List.replicate ((119 - m.length % 64) % 64) 0 ++ beBytes 8 (8 * m.length)

/-- `bs` cut into `n` blocks of 64 bytes. -/
def sha1Blocks : ℕ → List UInt8 → List (List UInt8)
  | 0, _ => []
  | n + 1, bs => bs.take 64 :: sha1Blocks n (bs.drop 64)

/-- Modelled from the spec: `sha1(bytes) → [u8;20]` of the crypto interface
(§6); the library is not in the repository. -/
def sha1 (m : List UInt8) : List UInt8 :=
  let p := sha1Pad m
  let (h0, h1, h2, h3, h4) := (sha1Blocks (p.length / 64) p).foldl sha1Block
    (0x67452301, 0xEFCDAB89, 0x98BADCFE, 0x10325476, 0xC3D2E1F0)
  [h0, h1, h2, h3, h4].flatMap fun h => beBytes 4 h.toNat

/-- Modelled from the spec: `hmac_sha1(key, msg) → [u8;20]` of the crypto
interface, HMAC over SHA-1 with 64-byte blocks. `mptcp.c` calls it with a
16-byte key and an 8-byte message. -/
def hmacSha1 (key msg : List UInt8) : List UInt8 :=
  let k := key ++ List.replicate (64 - key.length) 0
  sha1 (k.map (· ^^^ 0x5c) ++ sha1 (k.map (· ^^^ 0x36) ++ msg))

/-- Modelled from the spec: `sha1_least_32bits(key)`, the token of a key: the
least significant 32 bits of the SHA-1 digest of the key's 8 bytes in network
order. -/
def sha1Least32bits (key : UInt64) : UInt32 :=
  UInt32.ofNat (beValue ((sha1 (beBytes 8 key.toNat)).drop 16))

/-- Modelled from the spec: `sha1_least_64bits(key)`, the initial data
sequence number of a key: the least significant 64 bits of the same digest. -/
def sha1Least64bits (key : UInt64) : UInt64 :=
  UInt64.ofNat (beValue ((sha1 (beBytes 8 key.toNat)).drop 12))

/-- Modelled from the spec: `hmac_sha1_truncat_64(key, 16, msg, 8)`, the
leading 64 bits of the HMAC tag. -/
def hmacSha1Truncat64 (key msg : List UInt8) : UInt64 :=
  UInt64.ofNat (beValue ((hmacSha1 key msg).take 8))

end PacketdrillMptcp
