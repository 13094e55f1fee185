/-
RouteAccess/Proofs/Text/Base64.lean

What is written with 64 letters is read back (`decode_encode`).  The reader is followed
letter by letter through one group; whole groups are an induction on the bytes, and the
last group, of one byte or two, is the one that is filled up.
-/
import RouteAccess.Text.Base64

namespace RouteAccess

namespace Base64

/-! ### Letters -/

theorem value?_letter {n : Nat} (h : n < 64) : value? (letter n) = some n := by
  have hall : ∀ n : Fin 64, value? (letter n) = some n.val := by decide
  exact hall ⟨n, h⟩

theorem letter_ne_filler {n : Nat} (h : n < 64) : letter n ≠ filler := by
  have hall : ∀ n : Fin 64, letter n ≠ filler := by decide
  exact hall ⟨n, h⟩

/-- Every letter is among those of words in ASCII: no point, and no byte of a longer
character. -/
theorem letter_ascii {n : Nat} (h : n < 64) : letter n ≠ 46 ∧ (letter n).toNat < 128 := by
  have hall : ∀ n : Fin 64, letter n ≠ 46 ∧ (letter n).toNat < 128 := by decide
  exact hall ⟨n, h⟩

/-- What is written has letters of the alphabet only. -/
theorem exists_letter_of_mem_encode (bytes : List UInt8) :
    ∀ b ∈ encode bytes, ∃ n < 64, letter n = b := by
  induction bytes using encode.induct with
  | case1 => simp [encode]
  | case2 a =>
    -- the pieces of six bits are numbers below 64
    have ha := a.toNat_lt
    simp only [encode, List.forall_mem_cons]
    exact ⟨⟨_, by omega, rfl⟩, ⟨_, by omega, rfl⟩, by simp⟩
  | case3 a b =>
    have ha := a.toNat_lt
    have hb := b.toNat_lt
    simp only [encode, List.forall_mem_cons]
    exact ⟨⟨_, by omega, rfl⟩, ⟨_, by omega, rfl⟩, ⟨_, by omega, rfl⟩, by simp⟩
  | case4 a b c rest ih =>
    have ha := a.toNat_lt
    have hb := b.toNat_lt
    have hc := c.toNat_lt
    simp only [encode, List.forall_mem_cons]
    exact ⟨⟨_, by omega, rfl⟩, ⟨_, by omega, rfl⟩, ⟨_, by omega, rfl⟩, ⟨_, by omega, rfl⟩, ih⟩

/-! ### One letter of a group -/

section Steps

variable {v : Nat} (hv : v < 64) (left : Nat) (rest : List UInt8)
include hv

theorem decodeFrom_first :
    decodeFrom ⟨0, left, 0⟩ (letter v :: rest) = decodeFrom ⟨1, v, 0⟩ rest := by
  rw [decodeFrom, if_neg (letter_ne_filler hv), value?_letter hv]
  rfl

theorem decodeFrom_second :
    decodeFrom ⟨1, left, 0⟩ (letter v :: rest) =
      (decodeFrom ⟨2, v % 16, 0⟩ rest).map (UInt8.ofNat (left * 4 + v / 16) :: ·) := by
  rw [decodeFrom, if_neg (letter_ne_filler hv), value?_letter hv]
  rfl

theorem decodeFrom_third :
    decodeFrom ⟨2, left, 0⟩ (letter v :: rest) =
      (decodeFrom ⟨3, v % 4, 0⟩ rest).map (UInt8.ofNat (left * 16 + v / 4) :: ·) := by
  rw [decodeFrom, if_neg (letter_ne_filler hv), value?_letter hv]
  rfl

theorem decodeFrom_fourth :
    decodeFrom ⟨3, left, 0⟩ (letter v :: rest) =
      (decodeFrom {} rest).map (UInt8.ofNat (left * 64 + v) :: ·) := by
  rw [decodeFrom, if_neg (letter_ne_filler hv), value?_letter hv]
  rfl

end Steps

/-! ### Reading back -/

theorem ofNat_eq_of_toNat {n : Nat} {a : UInt8} (h : n = a.toNat) : UInt8.ofNat n = a := by
  rw [h, UInt8.ofNat_toNat]

/-- The letters for bytes, filled up to whole groups, stand for these bytes. -/
theorem decode_encode (bytes : List UInt8) : decode (encode bytes) = some bytes := by
  rw [decode]
  induction bytes using encode.induct with
  | case1 => rfl
  | case2 a =>
    have ha := a.toNat_lt
    have hfill : fill (encode [a]) = encode [a] ++ [filler, filler] := rfl
    have hbyte₁ : UInt8.ofNat (a.toNat / 4 * 4 + a.toNat % 4 * 16 / 16) = a :=
      ofNat_eq_of_toNat (by omega)
    rw [hfill, encode, List.cons_append, decodeFrom_first (by omega), List.cons_append,
      decodeFrom_second (by omega), hbyte₁]
    rfl
  | case3 a b =>
    have ha := a.toNat_lt
    have hb := b.toNat_lt
    obtain ⟨n, hn⟩ : ∃ n, n = a.toNat * 256 + b.toNat := ⟨_, rfl⟩
    have hfill : fill (encode [a, b]) = encode [a, b] ++ [filler] := rfl
    have hbyte₁ : UInt8.ofNat (n / 1024 * 4 + n / 16 % 64 / 16) = a :=
      ofNat_eq_of_toNat (by omega)
    have hbyte₂ : UInt8.ofNat (n / 16 % 64 % 16 * 16 + n % 16 * 4 / 4) = b :=
      ofNat_eq_of_toNat (by omega)
    rw [hfill]
    simp only [encode, ← hn, List.cons_append]
    rw [decodeFrom_first (by omega), decodeFrom_second (by omega), decodeFrom_third (by omega),
      hbyte₁, hbyte₂]
    rfl
  | case4 a b c rest ih =>
    have ha := a.toNat_lt
    have hb := b.toNat_lt
    have hc := c.toNat_lt
    obtain ⟨n, hn⟩ : ∃ n, n = (a.toNat * 256 + b.toNat) * 256 + c.toNat := ⟨_, rfl⟩
    -- a whole group of letters does not change how many fillers there are
    have hfill : fill (encode (a :: b :: c :: rest)) =
        letter (n / 262144) :: letter (n / 4096 % 64) :: letter (n / 64 % 64) ::
          letter (n % 64) :: fill (encode rest) := by
      have hlength : ((encode rest).length + 1 + 1 + 1 + 1) % 4 = (encode rest).length % 4 := by
        omega
      simp only [fill, encode, ← hn, List.length_cons, List.cons_append, hlength]
    have hbyte₁ : UInt8.ofNat (n / 262144 * 4 + n / 4096 % 64 / 16) = a :=
      ofNat_eq_of_toNat (by omega)
    have hbyte₂ : UInt8.ofNat (n / 4096 % 64 % 16 * 16 + n / 64 % 64 / 4) = b :=
      ofNat_eq_of_toNat (by omega)
    have hbyte₃ : UInt8.ofNat (n / 64 % 64 % 4 * 64 + n % 64) = c :=
      ofNat_eq_of_toNat (by omega)
    rw [hfill, decodeFrom_first (by omega), decodeFrom_second (by omega),
      decodeFrom_third (by omega), decodeFrom_fourth (by omega), ih, hbyte₁, hbyte₂, hbyte₃]
    rfl

end Base64

end RouteAccess
