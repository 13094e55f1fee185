/-
RouteAccess/Proofs/Json/Texts.lean

A text that was written between quotes is read back, whatever its characters are.  Each
character is written as itself, as an escape of one letter, as a 16-bit unit, or as a pair
of them, and a reader finds parts that spell this character wherever they stand
(`Spells`); no half of a pair is left alone.
-/
import RouteAccess.Json.Reader
import RouteAccess.Json.Writer

namespace RouteAccess

namespace Json

/-! ### Digits -/

theorem hexValue?_hexDigit {n : Nat} (h : n < 16) : Text.hexValue? (Text.hexDigit n) = some n := by
  have hall : ∀ n : Fin 16, Text.hexValue? (Text.hexDigit n) = some n.val := by decide
  exact hall ⟨n, h⟩

/-- A unit that was written is read back. -/
theorem units_escapeUnit {n : Nat} (h : n < 0x10000) (rest : List Char) :
    units (escapeUnit n ++ rest) = (units rest).map fun r => (.unit n :: r.1, r.2) := by
  -- four digits of sixteen values each give any unit
  have hdigits : Text.hexDigits 4 n = [Text.hexDigit (n / 16 / 16 / 16 % 16),
      Text.hexDigit (n / 16 / 16 % 16), Text.hexDigit (n / 16 % 16), Text.hexDigit (n % 16)] := rfl
  have hvalue : ((n / 16 / 16 / 16 % 16 * 16 + n / 16 / 16 % 16) * 16 + n / 16 % 16) * 16 + n % 16
      = n := by
    omega
  have hunit : hexUnit? (Text.hexDigit (n / 16 / 16 / 16 % 16)) (Text.hexDigit (n / 16 / 16 % 16))
      (Text.hexDigit (n / 16 % 16)) (Text.hexDigit (n % 16)) = some n := by
    simp [hexUnit?, hexValue?_hexDigit (Nat.mod_lt _ (by decide)), hvalue]
  rw [escapeUnit, hdigits]
  simp only [List.cons_append, List.nil_append, units, hunit]
  cases units rest <;> rfl

/-! ### Characters -/

/-- Whether parts of a text spell a character, whatever parts follow. -/
structure Spells (us : List TextUnit) (c : Char) : Prop where
  join : ∀ rest, joinUnits (us ++ rest) = c :: joinUnits rest
  lone : ∀ rest, hasLone (us ++ rest) = hasLone rest

theorem spells_char (c : Char) : Spells [.char c] c :=
  ⟨fun _ => by simp [joinUnits], fun _ => by simp [hasLone]⟩

theorem toNat_lt (c : Char) : c.toNat < 0x110000 := by
  rcases c.valid with h | h
  · exact Nat.lt_trans h (by decide)
  · exact h.2

/-- A character is no half of a pair. -/
theorem not_isHalf (c : Char) : Surrogate.isHalf c.toNat = false := by
  have houtside : c.toNat < 0xD800 ∨ 0xDFFF < c.toNat := c.valid.imp_right And.left
  simp only [Surrogate.isHalf, Bool.and_eq_false_iff, decide_eq_false_iff_not]
  omega

/-- A character of the basic plane is spelled by its own unit, as it is no half of a pair. -/
theorem spells_unit (c : Char) : Spells [.unit c.toNat] c := by
  have hhalf := not_isHalf c
  have hhigh : Surrogate.isHigh c.toNat = false := by
    simp only [Surrogate.isHalf, Surrogate.isHigh, Bool.and_eq_false_iff,
      decide_eq_false_iff_not] at hhalf ⊢
    omega
  have hchars : Surrogate.charsOf c.toNat = [c] := by
    simp [Surrogate.charsOf, hhalf, Char.ofNat_toNat]
  constructor
  -- whatever comes next, the unit is joined with nothing, being no first half
  · rintro (_ | ⟨k | k, rest⟩) <;>
      simp only [List.cons_append, List.nil_append, joinUnits, hchars, hhigh, Bool.false_and,
        Bool.false_eq_true, if_false]
  · rintro (_ | ⟨k | k, rest⟩) <;>
      simp only [List.cons_append, List.nil_append, hasLone, hhalf, hhigh, Bool.false_and,
        Bool.false_eq_true, if_false, Bool.false_or]

/-- Two units that spell a character beyond the basic plane. -/
theorem spells_pair {c : Char} (h : 0x10000 ≤ c.toNat) :
    Spells [.unit (0xD800 + (c.toNat - 0x10000) / 0x400),
      .unit (0xDC00 + (c.toNat - 0x10000) % 0x400)] c := by
  have hbound := toNat_lt c
  -- the distance from the end of the basic plane is cut into two parts of ten bits
  have hhigh : Surrogate.isHigh (0xD800 + (c.toNat - 0x10000) / 0x400) = true := by
    simp only [Surrogate.isHigh, Bool.and_eq_true, decide_eq_true_eq]
    omega
  have hlow : Surrogate.isLow (0xDC00 + (c.toNat - 0x10000) % 0x400) = true := by
    simp only [Surrogate.isLow, Bool.and_eq_true, decide_eq_true_eq]
    omega
  have hpair : Surrogate.pair (0xD800 + (c.toNat - 0x10000) / 0x400)
      (0xDC00 + (c.toNat - 0x10000) % 0x400) = c := by
    rw [Surrogate.pair, show 0x10000 + (0xD800 + (c.toNat - 0x10000) / 0x400 - 0xD800) * 0x400 +
      (0xDC00 + (c.toNat - 0x10000) % 0x400 - 0xDC00) = c.toNat by omega, Char.ofNat_toNat]
  constructor <;> intro rest <;>
    simp only [List.cons_append, List.nil_append, joinUnits, hasLone, hhigh, hlow, hpair,
      Bool.and_self, if_true]

/-- An escape is read as the character that it stands for. -/
theorem units_escape {e c : Char} (h : unescape? e = some c) (rest : List Char) :
    units ('\\' :: e :: rest) = (units rest).map fun r => (.char c :: r.1, r.2) := by
  have hne : e ≠ 'u' := by
    rintro rfl
    cases h
  rw [units.eq_4 _ _ (by rintro a b c d rest rfl; exact absurd rfl hne), h]
  cases units rest <;> rfl

/-- A character that needs no escape is read as itself. -/
theorem units_plain {c : Char} (hmin : 0x20 ≤ c.toNat) (hquote : c ≠ '"') (hslash : c ≠ '\\')
    (rest : List Char) :
    units (c :: rest) = (units rest).map fun r => (.char c :: r.1, r.2) := by
  have hpart : ¬ (c.toNat < 0x20 || c = '\\') = true := by
    simp [hslash, Nat.not_lt.mpr hmin]
  rw [units.eq_5 _ _ hquote, if_neg hpart]
  · cases units rest <;> rfl
  · rintro a b c d rest rfl
    exact absurd rfl hslash
  · rintro e rest rfl
    exact absurd rfl hslash

/-- How a character is written. -/
theorem escapeChar_cases (c : Char) :
    (∃ e, escapeChar c = ['\\', e] ∧ unescape? e = some c) ∨
    (escapeChar c = [c] ∧ 0x20 ≤ c.toNat ∧ c ≠ '"' ∧ c ≠ '\\') ∨
    (escapeChar c = escapeUnit c.toNat ∧ c.toNat < 0x10000) ∨
    (escapeChar c = escapeUnit (0xD800 + (c.toNat - 0x10000) / 0x400) ++
      escapeUnit (0xDC00 + (c.toNat - 0x10000) % 0x400) ∧ 0x10000 ≤ c.toNat) := by
  obtain ⟨written, h⟩ : ∃ written, escapeChar c = written := ⟨_, rfl⟩
  rw [h]
  rw [escapeChar] at h
  split at h
  · next hc => exact .inl ⟨'"', h.symm, congrArg some hc.symm⟩
  split at h
  · next hc => exact .inl ⟨'\\', h.symm, congrArg some hc.symm⟩
  split at h
  · next hc => exact .inl ⟨'n', h.symm, congrArg some hc.symm⟩
  split at h
  · next hc => exact .inl ⟨'r', h.symm, congrArg some hc.symm⟩
  split at h
  · next hc => exact .inl ⟨'t', h.symm, congrArg some hc.symm⟩
  split at h
  · next hc => exact .inl ⟨'f', h.symm, congrArg some hc.symm⟩
  split at h
  · next hc => exact .inl ⟨'b', h.symm, congrArg some hc.symm⟩
  split at h
  · -- what is left without an escape can be printed, and is neither a quote nor a backslash
    rename_i hquote hslash _ _ _ _ _ hprint
    simp only [Bool.and_eq_true, decide_eq_true_eq] at hprint
    exact .inr (.inl ⟨h.symm, hprint.1, hquote, hslash⟩)
  split at h
  · rename_i hbasic
    exact .inr (.inr (.inl ⟨h.symm, hbasic⟩))
  · rename_i hbeyond
    exact .inr (.inr (.inr ⟨h.symm, Nat.not_lt.mp hbeyond⟩))

/-- What is written for a character is read as parts that spell it. -/
theorem exists_units_escapeChar (c : Char) :
    ∃ us, Spells us c ∧ ∀ rest,
      units (escapeChar c ++ rest) = (units rest).map fun r => (us ++ r.1, r.2) := by
  rcases escapeChar_cases c with ⟨e, hwritten, he⟩ | ⟨hwritten, hmin, hquote, hslash⟩ |
    ⟨hwritten, hbasic⟩ | ⟨hwritten, hbeyond⟩
  · exact ⟨_, spells_char c, fun rest => hwritten ▸ units_escape he rest⟩
  · exact ⟨_, spells_char c, fun rest => hwritten ▸ units_plain hmin hquote hslash rest⟩
  · exact ⟨_, spells_unit c, fun rest => hwritten ▸ units_escapeUnit hbasic rest⟩
  · refine ⟨_, spells_pair hbeyond, fun rest => ?_⟩
    have hbound := toNat_lt c
    rw [hwritten, List.append_assoc, units_escapeUnit (by omega), units_escapeUnit (by omega)]
    cases units rest <;> rfl

/-! ### Texts -/

/-- What is written between quotes is read as parts that spell it, up to the closing
quote. -/
theorem exists_units_flatMap (cs rest : List Char) :
    ∃ us, units (cs.flatMap escapeChar ++ '"' :: rest) = some (us, rest) ∧
      joinUnits us = cs ∧ hasLone us = false := by
  induction cs with
  | nil => exact ⟨[], by simp [units], rfl, rfl⟩
  | cons c cs ih =>
    obtain ⟨us, hunits, hjoin, hlone⟩ := ih
    obtain ⟨first, hspells, hfirst⟩ := exists_units_escapeChar c
    -- what spells a character may be put in front of any other parts
    refine ⟨first ++ us, ?_, ?_, ?_⟩
    · rw [List.flatMap_cons, List.append_assoc, hfirst, hunits]
      rfl
    · rw [hspells.join, hjoin]
    · rw [hspells.lone, hlone]

/-- A text that was written is read back after its opening quote. -/
theorem readText_writeText (halves : Bool) (s : String) (rest : List Char) :
    ∃ body, writeText s ++ rest = '"' :: body ∧ readText halves body = .ok (s, rest) := by
  obtain ⟨us, hunits, hjoin, hlone⟩ := exists_units_flatMap s.toList rest
  refine ⟨s.toList.flatMap escapeChar ++ '"' :: rest, by simp [writeText], ?_⟩
  simp [readText, hunits, orMalformed, hjoin, hlone, bind, Except.bind, pure, Except.pure]

end Json

end RouteAccess
