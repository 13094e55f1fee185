/-
RouteAccess/Digest/Sha2.lean

The SHA-2 family of digests.  The members share one compression of blocks of
sixteen words; they differ in the width of a word, in the distances of their
rotations, in where they start and in how much of the result they keep.  The
tables of the narrow members are the upper halves of those of the wide ones.
-/

namespace RouteAccess

namespace Sha2

/-! ### Tables -/

/-- The fractional parts of the cube roots of the first eighty primes. -/
def cubeRoots : List (BitVec 64) :=
  [0x428A2F98D728AE22, 0x7137449123EF65CD, 0xB5C0FBCFEC4D3B2F, 0xE9B5DBA58189DBBC,
   0x3956C25BF348B538, 0x59F111F1B605D019, 0x923F82A4AF194F9B, 0xAB1C5ED5DA6D8118,
   0xD807AA98A3030242, 0x12835B0145706FBE, 0x243185BE4EE4B28C, 0x550C7DC3D5FFB4E2,
   0x72BE5D74F27B896F, 0x80DEB1FE3B1696B1, 0x9BDC06A725C71235, 0xC19BF174CF692694,
   0xE49B69C19EF14AD2, 0xEFBE4786384F25E3, 0x0FC19DC68B8CD5B5, 0x240CA1CC77AC9C65,
   0x2DE92C6F592B0275, 0x4A7484AA6EA6E483, 0x5CB0A9DCBD41FBD4, 0x76F988DA831153B5,
   0x983E5152EE66DFAB, 0xA831C66D2DB43210, 0xB00327C898FB213F, 0xBF597FC7BEEF0EE4,
   0xC6E00BF33DA88FC2, 0xD5A79147930AA725, 0x06CA6351E003826F, 0x142929670A0E6E70,
   0x27B70A8546D22FFC, 0x2E1B21385C26C926, 0x4D2C6DFC5AC42AED, 0x53380D139D95B3DF,
   0x650A73548BAF63DE, 0x766A0ABB3C77B2A8, 0x81C2C92E47EDAEE6, 0x92722C851482353B,
   0xA2BFE8A14CF10364, 0xA81A664BBC423001, 0xC24B8B70D0F89791, 0xC76C51A30654BE30,
   0xD192E819D6EF5218, 0xD69906245565A910, 0xF40E35855771202A, 0x106AA07032BBD1B8,
   0x19A4C116B8D2D0C8, 0x1E376C085141AB53, 0x2748774CDF8EEB99, 0x34B0BCB5E19B48A8,
   0x391C0CB3C5C95A63, 0x4ED8AA4AE3418ACB, 0x5B9CCA4F7763E373, 0x682E6FF3D6B2B8A3,
   0x748F82EE5DEFB2FC, 0x78A5636F43172F60, 0x84C87814A1F0AB72, 0x8CC702081A6439EC,
   0x90BEFFFA23631E28, 0xA4506CEBDE82BDE9, 0xBEF9A3F7B2C67915, 0xC67178F2E372532B,
   0xCA273ECEEA26619C, 0xD186B8C721C0C207, 0xEADA7DD6CDE0EB1E, 0xF57D4F7FEE6ED178,
   0x06F067AA72176FBA, 0x0A637DC5A2C898A6, 0x113F9804BEF90DAE, 0x1B710B35131C471B,
   0x28DB77F523047D84, 0x32CAAB7B40C72493, 0x3C9EBE0A15C9BEBC, 0x431D67C49C100D4C,
   0x4CC5D4BECB3E42B6, 0x597F299CFC657E2A, 0x5FCB6FAB3AD6FAEC, 0x6C44198C4A475817]

/-- The fractional parts of the square roots of the first eight primes. -/
def squareRoots : List (BitVec 64) :=
  [0x6A09E667F3BCC908, 0xBB67AE8584CAA73B, 0x3C6EF372FE94F82B, 0xA54FF53A5F1D36F1,
   0x510E527FADE682D1, 0x9B05688C2B3E6C1F, 0x1F83D9ABFB41BD6B, 0x5BE0CD19137E2179]

/-- The fractional parts of the square roots of the next eight primes. -/
def laterSquareRoots : List (BitVec 64) :=
  [0xCBBB9D5DC1059ED8, 0x629A292A367CD507, 0x9159015A3070DD17, 0x152FECD8F70E5939,
   0x67332667FFC00B31, 0x8EB44A8768581511, 0xDB0C2E0D64F98FA7, 0x47B5481DBEFA4FA4]

/-- The upper half of a wide word. -/
def upperHalf (x : BitVec 64) : BitVec 32 :=
  (x >>> 32).setWidth 32

/-! ### Members of the family -/

/-- What tells the members with words of `w` bits apart. -/
structure Member (w : Nat) where
  /-- bytes in a word -/
  wordBytes : Nat
  /-- one constant for each round -/
  constants : List (BitVec w)
  /-- the eight words to start from -/
  start : List (BitVec w)
  /-- distances of the two mixings of registers -/
  mixA : Nat × Nat × Nat
  mixE : Nat × Nat × Nat
  /-- distances of the two mixings of the schedule; the last is a shift -/
  mix0 : Nat × Nat × Nat
  mix1 : Nat × Nat × Nat
  /-- bytes of the result that are kept -/
  kept : Nat

/-- The member with results of 256 bits. -/
def sha256 : Member 32 where
  wordBytes := 4
  constants := (cubeRoots.take 64).map upperHalf
  start := squareRoots.map upperHalf
  mixA := (2, 13, 22)
  mixE := (6, 11, 25)
  mix0 := (7, 18, 3)
  mix1 := (17, 19, 10)
  kept := 32

/-- The member with results of 512 bits. -/
def sha512 : Member 64 where
  wordBytes := 8
  constants := cubeRoots
  start := squareRoots
  mixA := (28, 34, 39)
  mixE := (14, 18, 41)
  mix0 := (1, 8, 7)
  mix1 := (19, 61, 6)
  kept := 64

/-- The member with results of 384 bits. -/
def sha384 : Member 64 :=
  { sha512 with start := laterSquareRoots, kept := 48 }

/-! ### Bytes and words -/

/-- The number that bytes are, the first one counting most. -/
def natOf (bytes : List UInt8) : Nat :=
  bytes.foldl (fun n b => n * 256 + b.toNat) 0

/-- The last `count` bytes of a number, the first one counting most. -/
def bytesOf : Nat → Nat → List UInt8
  | 0, _ => []
  | count + 1, n => bytesOf count (n / 256) ++ [UInt8.ofNat n]

/-- The first `count` pieces of `size` items. -/
def chunks {α : Type} (size : Nat) : Nat → List α → List (List α)
  | 0, _ => []
  | count + 1, xs => xs.take size :: chunks size count (xs.drop size)

variable {w : Nat}

/-- Bytes in a block. -/
def Member.blockBytes (m : Member w) : Nat := 16 * m.wordBytes

/-- The message with a one bit, zeros and its length, so that blocks are full. -/
def Member.pad (m : Member w) (message : List UInt8) : List UInt8 :=
  let used := message.length + 1 + 2 * m.wordBytes
  let zeros := (m.blockBytes - used % m.blockBytes) % m.blockBytes
  message ++ 0x80 :: List.replicate zeros 0 ++ bytesOf (2 * m.wordBytes) (8 * message.length)

/-! ### Compression -/

/-- The eight registers. -/
structure Registers (w : Nat) where
  a : BitVec w
  b : BitVec w
  c : BitVec w
  d : BitVec w
  e : BitVec w
  f : BitVec w
  g : BitVec w
  h : BitVec w

/-- The registers that eight words are. -/
def Registers.ofWords (words : List (BitVec w)) : Registers w :=
  let word := fun i => words.getD i 0
  ⟨word 0, word 1, word 2, word 3, word 4, word 5, word 6, word 7⟩

/-- The registers as words. -/
def Registers.words (r : Registers w) : List (BitVec w) :=
  [r.a, r.b, r.c, r.d, r.e, r.f, r.g, r.h]

/-- Three rotations of a word, combined. -/
def rotations (by3 : Nat × Nat × Nat) (x : BitVec w) : BitVec w :=
  x.rotateRight by3.1 ^^^ x.rotateRight by3.2.1 ^^^ x.rotateRight by3.2.2

/-- Two rotations and a shift of a word, combined. -/
def rotationsAndShift (by3 : Nat × Nat × Nat) (x : BitVec w) : BitVec w :=
  x.rotateRight by3.1 ^^^ x.rotateRight by3.2.1 ^^^ (x >>> by3.2.2)

/-- One round, with its constant and its word of the schedule. -/
def Member.round (m : Member w) (k word : BitVec w) (r : Registers w) : Registers w :=
  let choice := (r.e &&& r.f) ^^^ (~~~r.e &&& r.g)
  let majority := (r.a &&& r.b) ^^^ (r.a &&& r.c) ^^^ (r.b &&& r.c)
  let t₁ := r.h + rotations m.mixE r.e + choice + k + word
  let t₂ := rotations m.mixA r.a + majority
  ⟨t₁ + t₂, r.a, r.b, r.c, r.d + t₁, r.e, r.f, r.g⟩

/-- The next word of the schedule after sixteen words of it. -/
def Member.nextWord (m : Member w) (window : List (BitVec w)) : BitVec w :=
  let word := fun i => window.getD i 0
  rotationsAndShift m.mix1 (word 14) + word 9 + rotationsAndShift m.mix0 (word 1) + word 0

/-- The rounds with the given constants, from sixteen words of the schedule on. -/
def Member.rounds (m : Member w) :
    List (BitVec w) → List (BitVec w) → Registers w → Registers w
  | [], _, r => r
  | k :: constants, window, r =>
    m.rounds constants (window.drop 1 ++ [m.nextWord window]) (m.round k (window.getD 0 0) r)

/-- The registers after one more block. -/
def Member.compress (m : Member w) (r : Registers w) (block : List UInt8) : Registers w :=
  let window := (chunks m.wordBytes 16 block).map fun bytes => BitVec.ofNat w (natOf bytes)
  let r' := m.rounds m.constants window r
  Registers.ofWords (List.zipWith (· + ·) r.words r'.words)

/-- The digest of a message. -/
def Member.digest (m : Member w) (message : List UInt8) : List UInt8 :=
  let padded := m.pad message
  let blocks := chunks m.blockBytes (padded.length / m.blockBytes) padded
  let r := blocks.foldl m.compress (Registers.ofWords m.start)
  (r.words.flatMap fun x => bytesOf m.wordBytes x.toNat).take m.kept

end Sha2

end RouteAccess
