import Mathlib.Data.List.Basic

/-! SHA-256 and HMAC over byte lists, in natural-number arithmetic that the kernel evaluates. -/

namespace Sha256

def wordSize : Nat := 4294967296

/-- `f n`; the match makes the kernel compute `n` before it goes on. -/
def strict {α : Type} (n : Nat) (f : Nat → α) : α :=
  match n with
  | 0 => f 0
  | k + 1 => f (Nat.succ k)

def rotr (n x : Nat) : Nat := ((x >>> n) ||| (x <<< (32 - n))) % wordSize

def ch (x y z : Nat) : Nat := (x &&& y) ^^^ ((4294967295 ^^^ x) &&& z)

def maj (x y z : Nat) : Nat := (x &&& y) ^^^ (x &&& z) ^^^ (y &&& z)

def bigSigma0 (x : Nat) : Nat := rotr 2 x ^^^ rotr 13 x ^^^ rotr 22 x

def bigSigma1 (x : Nat) : Nat := rotr 6 x ^^^ rotr 11 x ^^^ rotr 25 x

def smallSigma0 (x : Nat) : Nat := rotr 7 x ^^^ rotr 18 x ^^^ (x >>> 3)

def smallSigma1 (x : Nat) : Nat := rotr 17 x ^^^ rotr 19 x ^^^ (x >>> 10)

def roundConstants : List Nat := [
  0x428a2f98, 0x71374491, 0xb5c0fbcf, 0xe9b5dba5, 0x3956c25b, 0x59f111f1, 0x923f82a4, 0xab1c5ed5,
  0xd807aa98, 0x12835b01, 0x243185be, 0x550c7dc3, 0x72be5d74, 0x80deb1fe, 0x9bdc06a7, 0xc19bf174,
  0xe49b69c1, 0xefbe4786, 0x0fc19dc6, 0x240ca1cc, 0x2de92c6f, 0x4a7484aa, 0x5cb0a9dc, 0x76f988da,
  0x983e5152, 0xa831c66d, 0xb00327c8, 0xbf597fc7, 0xc6e00bf3, 0xd5a79147, 0x06ca6351, 0x14292967,
  0x27b70a85, 0x2e1b2138, 0x4d2c6dfc, 0x53380d13, 0x650a7354, 0x766a0abb, 0x81c2c92e, 0x92722c85,
  0xa2bfe8a1, 0xa81a664b, 0xc24b8b70, 0xc76c51a3, 0xd192e819, 0xd6990624, 0xf40e3585, 0x106aa070,
  0x19a4c116, 0x1e376c08, 0x2748774c, 0x34b0bcb5, 0x391c0cb3, 0x4ed8aa4a, 0x5b9cca4f, 0x682e6ff3,
  0x748f82ee, 0x78a5636f, 0x84c87814, 0x8cc70208, 0x90befffa, 0xa4506ceb, 0xbef9a3f7, 0xc67178f2]

structure Digest where
  a : Nat
  b : Nat
  c : Nat
  d : Nat
  e : Nat
  f : Nat
  g : Nat
  h : Nat
  deriving DecidableEq, Repr

def initialDigest : Digest :=
  ⟨0x6a09e667, 0xbb67ae85, 0x3c6ef372, 0xa54ff53a, 0x510e527f, 0x9b05688c, 0x1f83d9ab, 0x5be0cd19⟩

/-- The message schedule, from a window of the sixteen words that come next. -/
def schedule : Nat → List Nat → List Nat
  | n + 1, w0 :: ws =>
      strict ((smallSigma1 (ws.getD 13 0) + ws.getD 8 0 + smallSigma0 (ws.getD 0 0) + w0) %
        wordSize) fun next ↦ w0 :: schedule n (ws ++ [next])
  | _, _ => []

def rounds : List Nat → List Nat → Digest → Digest
  | k :: ks, w :: ws, ⟨a, b, c, d, e, f, g, h⟩ =>
      strict (h + bigSigma1 e + ch e f g + k + w) fun t1 ↦
      strict ((t1 + (bigSigma0 a + maj a b c)) % wordSize) fun a' ↦
      strict ((d + t1) % wordSize) fun e' ↦
      rounds ks ws ⟨a', a, b, c, e', e, f, g⟩
  | _, _, s => s

def compress (s : Digest) (block : List Nat) : Digest :=
  match s, rounds roundConstants (schedule 64 block) s with
  | ⟨a, b, c, d, e, f, g, h⟩, ⟨a', b', c', d', e', f', g', h'⟩ =>
      strict ((a + a') % wordSize) fun a ↦ strict ((b + b') % wordSize) fun b ↦
      strict ((c + c') % wordSize) fun c ↦ strict ((d + d') % wordSize) fun d ↦
      strict ((e + e') % wordSize) fun e ↦ strict ((f + f') % wordSize) fun f ↦
      strict ((g + g') % wordSize) fun g ↦ strict ((h + h') % wordSize) fun h ↦
      ⟨a, b, c, d, e, f, g, h⟩

/-- The bit `1`, zeros up to the last eight bytes of a block, and the length in bits. -/
def padding (length : Nat) : List Nat :=
  128 :: List.replicate ((119 - length % 64) % 64) 0 ++
    (List.range 8).map fun i ↦ (8 * length) >>> (56 - 8 * i) % 256

def words : List Nat → List Nat
  | a :: b :: c :: d :: bytes =>
      strict (((a * 256 + b) * 256 + c) * 256 + d) fun w ↦ w :: words bytes
  | _ => []

def absorb (s : Digest) : List Nat → Digest
  | w0 :: w1 :: w2 :: w3 :: w4 :: w5 :: w6 :: w7 :: w8 :: w9 :: w10 :: w11 :: w12 :: w13 :: w14 ::
      w15 :: ws =>
      absorb (compress s
        [w0, w1, w2, w3, w4, w5, w6, w7, w8, w9, w10, w11, w12, w13, w14, w15]) ws
  | _ => s

def Digest.words (s : Digest) : List Nat := [s.a, s.b, s.c, s.d, s.e, s.f, s.g, s.h]

def digest (bytes : List Nat) : Digest :=
  absorb initialDigest (words (bytes ++ padding bytes.length))

def Digest.bytes (s : Digest) : List Nat :=
  s.words.flatMap fun w ↦ [w >>> 24, w >>> 16 % 256, w >>> 8 % 256, w % 256]

/-! ## Texts -/

/-- `n` in base sixteen, padded with zeros to `width` digits. -/
def hexText (width n : Nat) : String :=
  let digits := Nat.toDigits 16 n
  String.ofList (List.replicate (width - digits.length) '0' ++ digits)

def Digest.hex (s : Digest) : String := String.join (s.words.map (hexText 8))

def utf8Char (n : Nat) : List Nat :=
  if n < 128 then [n]
  else if n < 2048 then [192 + n / 64, 128 + n % 64]
  else if n < 65536 then [224 + n / 4096, 128 + n / 64 % 64, 128 + n % 64]
  else [240 + n / 262144, 128 + n / 4096 % 64, 128 + n / 64 % 64, 128 + n % 64]

def utf8 (s : String) : List Nat := s.toList.flatMap fun c ↦ utf8Char c.toNat

def hexdigest (bytes : List Nat) : String := (digest bytes).hex

def hmacHexdigest (key message : List Nat) : String :=
  let short := if key.length > 64 then (digest key).bytes else key
  let block := short ++ List.replicate (64 - short.length) 0
  hexdigest (block.map (· ^^^ 0x5c) ++ (digest (block.map (· ^^^ 0x36) ++ message)).bytes)

example : hexdigest (utf8 "abc") =
    "ba7816bf8f01cfea414140de5dae2223b00361a396177a9cb410ff61f20015ad" := by decide +kernel

end Sha256
