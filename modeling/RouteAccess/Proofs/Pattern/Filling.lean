/-
RouteAccess/Proofs/Pattern/Filling.lean

Paths written from a pattern.  `Filled cs us` reads a pattern as slots, tokens in any case
and literal characters, and gives each token a text that its placeholder accepts by itself;
`written us` is the path with these texts in place of the tokens.

Such a path need not be matched, as the texts stand next to one another there.  A whole
number has to stand alone, and the lower case of a path is taken as a whole: a sigma may end a
word in the path and not in the pattern, and `İ` brings a point into a run.  Where each slot
suits its place in this sense, the path is matched (`isMatch_written`).

The parts of the path are followed from left to right, with what stands before them in the
path and in the pattern.  Both are lowered in full, so that a slot is cut off from the
lower-cased path where its text ends and from the lower-cased pattern where its token ends.
-/
import RouteAccess.Proofs.Pattern.Widening
import RouteAccess.Proofs.Text.Lowering

namespace RouteAccess

open Text

/-- Whether a text fills a placeholder where nothing stands beside it. -/
def Placeholder.Accepts (h : Placeholder) (text : List Char) : Prop :=
  (Piece.hole h).Fills [] [] text

namespace Pattern

/-! ### Slots -/

/-- A literal character of a pattern, or a token of it with the text that is written for it. -/
inductive Slot
  | literal (c : Char)
  | hole (h : Placeholder) (token text : List Char)
deriving DecidableEq, Repr

/-- What a slot is in the pattern. -/
def Slot.token : Slot → List Char
  | literal c => [c]
  | hole _ token _ => token

/-- What a slot becomes in the path. -/
def Slot.text : Slot → List Char
  | literal c => [c]
  | hole _ _ text => text

/-- The pattern that slots spell. -/
def spelled (us : List Slot) : List Char :=
  us.flatMap Slot.token

/-- The path that is written from slots. -/
def written (us : List Slot) : List Char :=
  us.flatMap Slot.text

/-- Whether a pattern is read as these slots, the case of its tokens aside, and each of its
placeholders accepts the text that is written for it. -/
inductive Filled : List Char → List Slot → Prop
  | done : Filled [] []
  | hole {h : Placeholder} {token text cs : List Char} {us : List Slot} :
      token.map Char.toLower = h.spell → h.Accepts text → Filled cs us →
        Filled (token ++ cs) (.hole h token text :: us)
  | literal {c : Char} {cs : List Char} {us : List Slot} :
      (∀ h : Placeholder, ¬ h.spell <+: (c :: cs).map Char.toLower) → Filled cs us →
        Filled (c :: cs) (.literal c :: us)

/-- Whether a slot suits its place between others.  A literal character has the same lower case
in the path as in the pattern, which may fail for a sigma.  Around the digits of a whole number
the path in lower case has nothing that belongs to them.  A run is written without `İ`. -/
def Slot.Suits (front back : List Slot) : Slot → Prop
  | literal c =>
    lowerAt (casedBehind (spelled front)) c (spelled back)
      = lowerAt (casedBehind (written front)) c (written back)
  | hole .integer _ text =>
    Piece.OpensNumber (lowerChars (written front) ++ text.takeWhile Placeholder.isSign) ∧
      Piece.ClosesNumber (lowerChars (written back))
  | hole .run _ text => 'İ' ∉ text
  | hole _ _ _ => True

/-- Whether all slots suit their places behind some others. -/
def Suit (front : List Slot) : List Slot → Prop
  | [] => True
  | u :: us => u.Suits front us ∧ Suit (front ++ [u]) us

variable {h : Placeholder} {front back us : List Slot} {cs ds token text before : List Char}
variable {c : Char} {behind : Bool}

/-- Every sign with digits is a whole number where nothing stands beside it. -/
theorem accepts_integer {sign digits : List Char} (hsign : Piece.IsSign sign)
    (hdigits : Piece.IsRun isDigit digits) : Placeholder.integer.Accepts (sign ++ digits) := by
  refine .integer hsign hdigits ?_ (by simp [Piece.ClosesNumber])
  obtain rfl | rfl | rfl := hsign
  · simp [Piece.OpensNumber]
  · exact (Place.numberMayStart_iff ⟨some '+', []⟩).mp (by decide +kernel)
  · exact (Place.numberMayStart_iff ⟨some '-', []⟩).mp (by decide +kernel)

/-- A pattern is what its slots spell, one after the other. -/
theorem Filled.spelled_eq (hfilled : Filled cs us) : spelled us = cs := by
  induction hfilled with
  | done => rfl
  | hole _ _ _ ih | literal _ _ ih =>
    rw [spelled, List.flatMap_cons, ← spelled, ih]
    rfl

/-- Without braces that open and stars there are no tokens. -/
theorem filled_literals (hds : ∀ d ∈ ds, IsInner d.toLower) (hfilled : Filled cs us) :
    Filled (ds ++ cs) (ds.map .literal ++ us) := by
  induction ds with
  | nil => exact hfilled
  | cons d ds ih =>
    obtain ⟨hd, hds⟩ := List.forall_mem_cons.mp hds
    refine .literal ?_ (ih hds)
    intro h hbegins
    obtain ⟨x, t, hspell, hx, -⟩ := exists_spell_eq h
    rw [hspell, List.map_cons, List.cons_prefix_cons] at hbegins
    exact hx (hbegins.1 ▸ hd)

/-- Only a sigma looks at what stands around it. -/
theorem suits_literal (hc : c ≠ 'Σ') : (Slot.literal c).Suits front back := by
  rw [Slot.Suits, lowerAt_of_ne_sigma hc, lowerAt_of_ne_sigma hc]

/-! ### Reading the pattern -/

/-- A token in any case is read as the token that it is. -/
theorem ofChars_lowerFrom_token (htoken : token.map Char.toLower = h.spell) :
    ofChars (lowerFrom behind (token ++ cs))
      = .hole h :: ofChars (lowerFrom (token.foldl casedAfter behind) cs) := by
  have hsmall : ∀ c ∈ token, IsSmall c.toLower := by
    intro c hc
    apply isSmall_of_mem_spell h
    rw [← htoken]
    exact List.mem_map_of_mem hc
  rw [lowerFrom_append, lowerBefore_eq_map hsmall, htoken, ofChars_spell_append]

/-- No token ends in `i`, and none has a `k`. -/
theorem exists_spell_eq_append (h : Placeholder) :
    ∃ t x, h.spell = t ++ [x] ∧ x ≠ 'i' ∧ ∀ y ∈ t ++ [x], y.toNat < 128 ∧ y ≠ 'k' := by
  cases h with
  | integer =>
    exact ⟨['\x7b', 'i', 'n', 't'], '\x7d', rfl, by decide, forall_mem_of_all (by decide)⟩
  | decimal =>
    exact ⟨['\x7b', 'd', 'e', 'c'], '\x7d', rfl, by decide, forall_mem_of_all (by decide)⟩
  | name =>
    exact ⟨['\x7b', 's', 't', 'r'], '\x7d', rfl, by decide, forall_mem_of_all (by decide)⟩
  | guid =>
    exact ⟨['\x7b', 'g', 'u', 'i', 'd'], '\x7d', rfl, by decide, forall_mem_of_all (by decide)⟩
  | run => exact ⟨[], '*', rfl, by decide, forall_mem_of_all (by decide)⟩

/-- So a token of the lower-cased pattern is a token of the pattern. -/
theorem spell_prefix_map_toLower (hbegins : h.spell <+: lowerFrom behind cs) :
    h.spell <+: cs.map Char.toLower := by
  obtain ⟨t, x, hspell, hx, hplain⟩ := exists_spell_eq_append h
  rw [hspell] at hbegins ⊢
  exact prefix_of_prefix_lowerFrom hplain hx hbegins

/-- A character that begins no token is read as the characters of its lower case. -/
theorem ofChars_lowerFrom_cons
    (hnot : ∀ h : Placeholder, ¬ h.spell <+: (c :: cs).map Char.toLower) :
    ofChars (lowerFrom behind (c :: cs))
      = (lowerAt behind c cs).map .literal ++ ofChars (lowerFrom (casedAfter behind c) cs) := by
  -- only the dotted capital has a lower case of two characters
  by_cases hdotted : c = 'İ'
  · rw [lowerFrom, hdotted, lowerAt_dottedI]
    simp [ofChars]
  · obtain ⟨d, hd⟩ := exists_lowerAt_eq behind hdotted cs
    have hlower : lowerFrom behind (c :: cs) = d :: lowerFrom (casedAfter behind c) cs := by
      rw [lowerFrom, hd]
      rfl
    rw [hd, hlower]
    apply ofChars_cons
    intro h hbegins
    rw [← hlower] at hbegins
    exact hnot h (spell_prefix_map_toLower hbegins)

/-! ### Characters of accepted texts -/

theorem ascii_of_isDigit (h : isDigit c = true) : c.toNat < 128 := by
  rw [isDigit, Bool.and_eq_true, decide_eq_true_eq, decide_eq_true_eq] at h
  exact Nat.lt_of_le_of_lt h.2 (by decide)

/-- Digits of sixteen values are in ASCII. -/
theorem ascii_of_isHexDigit (h : isHexDigit c = true) : c.toNat < 128 := by
  simp only [isHexDigit, Bool.or_eq_true, Bool.and_eq_true, decide_eq_true_eq] at h
  obtain (h | ⟨-, h⟩) | ⟨-, h⟩ := h
  · exact ascii_of_isDigit h
  · exact Nat.lt_of_le_of_lt h (by decide)
  · exact Nat.lt_of_le_of_lt h (by decide)

/-- Letters and digits of names, underscores and hyphens are in ASCII. -/
theorem ascii_of_isNameChar (h : Placeholder.isNameChar c = true) : c.toNat < 128 := by
  simp only [Placeholder.isNameChar, isLetter, Bool.or_eq_true, Bool.and_eq_true,
    decide_eq_true_eq] at h
  obtain (((⟨-, h⟩ | ⟨-, h⟩) | h) | rfl) | rfl := h
  · exact Nat.lt_of_le_of_lt h (by decide)
  · exact Nat.lt_of_le_of_lt h (by decide)
  · exact ascii_of_isDigit h
  · decide
  · decide

theorem isSign_of_mem {sign : List Char} (hsign : Piece.IsSign sign) :
    ∀ c ∈ sign, Placeholder.isSign c = true := by
  apply forall_mem_of_all
  obtain rfl | rfl | rfl := hsign <;> decide

theorem isNeutral_of_isSign (h : Placeholder.isSign c = true) : IsNeutral c := by
  rw [Placeholder.isSign, Bool.or_eq_true, decide_eq_true_eq, decide_eq_true_eq] at h
  obtain rfl | rfl := h <;> decide +kernel

theorem isNeutral_of_isDigit (h : isDigit c = true) : IsNeutral c :=
  of_ascii (P := fun c => isDigit c = true → IsNeutral c) (by decide +kernel)
    (ascii_of_isDigit h) h

/-! ### Lower case of accepted texts -/

/-- Whether a text fills a placeholder in the lower-cased path, between other slots. -/
def FillsBetween (front back : List Slot) (h : Placeholder) (text : List Char) : Prop :=
  (Piece.hole h).Fills
    (lowerBefore false (written front) (text ++ written back))
    (lowerFrom (casedBehind (written front ++ text)) (written back))
    (lowerBefore (casedBehind (written front)) text (written back))

section Integer

variable {sign digits rest : List Char}

/-- The sign of a number is all of it that is read as signs. -/
theorem takeWhile_isSign (hsign : Piece.IsSign sign) (hdigits : Piece.IsRun isDigit digits) :
    (sign ++ digits).takeWhile Placeholder.isSign = sign := by
  have hnone : digits.takeWhile Placeholder.isSign = [] := by
    obtain ⟨d, ds, rfl⟩ := List.exists_cons_of_ne_nil hdigits.1
    have hd := hdigits.2 d List.mem_cons_self
    apply List.takeWhile_cons_of_neg
    intro hsign
    rw [Placeholder.isSign, Bool.or_eq_true, decide_eq_true_eq, decide_eq_true_eq] at hsign
    obtain rfl | rfl := hsign <;> exact absurd hd (by decide)
  rw [List.takeWhile_append_of_pos (isSign_of_mem hsign), hnone, List.append_nil]

/-- Signs and digits say nothing about the case of what surrounds them. -/
theorem isNeutral_of_mem_number (hsign : Piece.IsSign sign)
    (hdigits : Piece.IsRun isDigit digits) : ∀ c ∈ sign ++ digits, IsNeutral c := by
  intro c hc
  obtain hc | hc := List.mem_append.mp hc
  · exact isNeutral_of_isSign (isSign_of_mem hsign c hc)
  · exact isNeutral_of_isDigit (hdigits.2 c hc)

/-- A sigma before a whole number sees no case in it. -/
theorem casedAhead_number (hsign : Piece.IsSign sign) (hdigits : Piece.IsRun isDigit digits) :
    casedAhead (sign ++ digits ++ rest) = false := by
  have hneutral := isNeutral_of_mem_number hsign hdigits
  obtain ⟨c, cs, hcs⟩ := List.exists_cons_of_ne_nil
    (List.append_ne_nil_of_right_ne_nil sign hdigits.1)
  rw [hcs] at hneutral ⊢
  exact (hneutral c List.mem_cons_self).casedAhead (cs ++ rest)

/-- Nor does one behind it. -/
theorem foldl_casedAfter_digits (hdigits : Piece.IsRun isDigit digits) :
    digits.foldl casedAfter behind = false := by
  obtain ⟨ds, d, rfl⟩ := (List.eq_nil_or_concat' digits).resolve_left hdigits.1
  have hd := hdigits.2 d (List.mem_append_right ds (List.mem_singleton_self d))
  rw [List.foldl_append]
  exact (isNeutral_of_isDigit hd).casedAfter _

/-- A whole number is lowered as it stands, and so is what surrounds it. -/
theorem fillsBetween_integer (haccepts : Placeholder.integer.Accepts text)
    (hsuits : (Slot.hole .integer token text).Suits front back) :
    FillsBetween front back .integer text := by
  cases haccepts with
  | @integer sign digits hsign hdigits =>
    obtain ⟨hopens, hcloses⟩ := hsuits
    rw [takeWhile_isSign hsign hdigits] at hopens
    -- behind the digits nothing cased is in sight, and ahead of them neither
    have hbehind : casedBehind (written front ++ (sign ++ digits)) = false := by
      rw [casedBehind_append, List.foldl_append, foldl_casedAfter_digits hdigits]
    have hsmall : ∀ c ∈ sign ++ digits, IsSmall c := fun c hc =>
      (isNeutral_of_mem_number hsign hdigits c hc).1
    rw [FillsBetween, lowerBefore_eq_self hsmall, hbehind,
      lowerBefore_eq_lowerFrom (casedAhead_number hsign hdigits)]
    exact .integer hsign hdigits hopens hcloses

end Integer

/-- A decimal number is lowered as it stands. -/
theorem fillsBetween_decimal (haccepts : Placeholder.decimal.Accepts text) :
    FillsBetween front back .decimal text := by
  cases haccepts with
  | @decimal sign whole digits hsign hwhole hdigits =>
    have hpoint : IsSmall '.' := by decide +kernel
    have hsmall : ∀ c ∈ sign ++ whole ++ digits, IsSmall c := by
      intro c hc
      -- sign, whole part and digits are small, each for a reason of its own
      rw [List.mem_append, List.mem_append] at hc
      obtain (hc | hc) | hc := hc
      · exact (isNeutral_of_isSign (isSign_of_mem hsign c hc)).1
      · obtain rfl | ⟨ds, rfl, hds⟩ := hwhole
        · exact absurd hc List.not_mem_nil
        · obtain hc | hc := List.mem_append.mp hc
          · exact isSmall_of_isDecimal (hds c hc)
          · rwa [List.mem_singleton.mp hc]
      · exact isSmall_of_isDecimal (hdigits.2 c hc)
    rw [FillsBetween, lowerBefore_eq_self hsmall]
    exact .decimal hsign hwhole hdigits

/-- A name is lowered letter by letter, and is a name again. -/
theorem fillsBetween_name (haccepts : Placeholder.name.Accepts text) :
    FillsBetween front back .name text := by
  cases haccepts with
  | name hne hall =>
    have hnameChar : ∀ c ∈ text, Placeholder.isNameChar c = true := by
      intro c hc
      simpa [Placeholder.isNameChar, or_assoc] using hall c hc
    rw [FillsBetween, lowerBefore_eq_map fun c hc =>
      isSmall_toLower_of_ascii (ascii_of_isNameChar (hnameChar c hc))]
    refine .name (List.map_eq_nil_iff.not.mpr hne) ?_
    intro d hd
    obtain ⟨c, hc, rfl⟩ := List.mem_map.mp hd
    have hsame := apply_toLower Placeholder.isNameChar (by decide +kernel) c
    rw [hnameChar c hc] at hsame
    simpa [Placeholder.isNameChar, or_assoc] using hsame

/-- The digits of sixteen values are lowered to such digits. -/
theorem isHex_map_toLower {n : Nat} (h : Piece.IsHex n ds) :
    Piece.IsHex n (ds.map Char.toLower) := by
  obtain ⟨hlength, hall⟩ := h
  refine ⟨by rw [List.length_map, hlength], ?_⟩
  intro x hx
  obtain ⟨y, hy, rfl⟩ := List.mem_map.mp hx
  rw [apply_toLower isHexDigit (by decide +kernel), hall y hy]

/-- The braces, hyphens and digits of an identifier are in ASCII. -/
theorem ascii_of_accepts_guid (haccepts : Placeholder.guid.Accepts text) :
    ∀ x ∈ text, x.toNat < 128 := by
  cases haccepts with
  | @guid opening a b c d e closing hopening ha hb hc hd he hclosing =>
    have hhex : ∀ {n : Nat} {ds : List Char} {x : Char}, Piece.IsHex n ds → x ∈ ds →
        x.toNat < 128 := fun hds hx => ascii_of_isHexDigit (hds.2 _ hx)
    have hopening : ∀ x ∈ opening, x.toNat < 128 := by
      apply forall_mem_of_all
      obtain rfl | rfl := hopening <;> decide
    have hclosing : ∀ x ∈ closing, x.toNat < 128 := by
      apply forall_mem_of_all
      obtain rfl | rfl := hclosing <;> decide
    intro x hx
    -- the parts of an identifier, from the opening brace to the closing one
    have hx : x ∈ opening ∨ x ∈ a ∨ x = '-' ∨ x ∈ b ∨ x = '-' ∨ x ∈ c ∨ x = '-' ∨ x ∈ d ∨
        x = '-' ∨ x ∈ e ∨ x ∈ closing := by
      simpa [List.intercalate] using hx
    obtain hx | hx | rfl | hx | rfl | hx | rfl | hx | rfl | hx | hx := hx
    · exact hopening x hx
    · exact hhex ha hx
    · decide
    · exact hhex hb hx
    · decide
    · exact hhex hc hx
    · decide
    · exact hhex hd hx
    · decide
    · exact hhex he hx
    · exact hclosing x hx

/-- An identifier is lowered digit by digit, and is an identifier again. -/
theorem fillsBetween_guid (haccepts : Placeholder.guid.Accepts text) :
    FillsBetween front back .guid text := by
  have hsmall : ∀ x ∈ text, IsSmall x.toLower := fun x hx =>
    isSmall_toLower_of_ascii (ascii_of_accepts_guid haccepts x hx)
  cases haccepts with
  | @guid opening a b c d e closing hopening ha hb hc hd he hclosing =>
    have hopen : opening.map Char.toLower = opening := by
      obtain rfl | rfl := hopening <;> decide
    have hclose : closing.map Char.toLower = closing := by
      obtain rfl | rfl := hclosing <;> decide
    have hmap : (opening ++ List.intercalate ['-'] [a, b, c, d, e] ++ closing).map Char.toLower
        = opening ++ List.intercalate ['-'] ([a, b, c, d, e].map (·.map Char.toLower))
          ++ closing := by
      simp [List.intercalate, hopen, hclose]
    rw [FillsBetween, lowerBefore_eq_map hsmall, hmap]
    exact .guid hopening (isHex_map_toLower ha) (isHex_map_toLower hb) (isHex_map_toLower hc)
      (isHex_map_toLower hd) (isHex_map_toLower he) hclosing

/-- What a run takes is lowered to what a run takes, if the dotted capital is not among it. -/
theorem fillsBetween_run (haccepts : Placeholder.run.Accepts text)
    (hsuits : (Slot.hole .run token text).Suits front back) :
    FillsBetween front back .run text := by
  cases haccepts with
  | run hall =>
    refine .run ?_
    intro d hd
    obtain ⟨c, hc, _, _, hd⟩ := mem_lowerBefore hd
    have hself : ∀ {x : Char}, c = x → x.toNat < 128 → x.toLower = x → d = x := by
      rintro x rfl hascii hsame
      rw [lowerAt_of_isSmall_toLower (isSmall_toLower_of_ascii hascii), hsame] at hd
      exact List.mem_singleton.mp hd
    obtain hslash | hquestion | hplus | hword := hall c hc
    · exact .inl (hself hslash (by decide) (by decide))
    · exact .inr (.inl (hself hquestion (by decide) (by decide)))
    · exact .inr (.inr (.inl (hself hplus (by decide) (by decide))))
    · -- a word character other than the dotted capital is lowered to word characters
      have hdotted : c ≠ 'İ' := by
        rintro rfl
        exact hsuits hc
      exact .inr (.inr (.inr (isWord_of_mem_lowerAt hword hdotted hd)))

/-! ### Cutting the path -/

/-- A text that a placeholder accepts fills it where it comes to stand. -/
theorem fillsBetween_of_accepts (haccepts : h.Accepts text)
    (hsuits : (Slot.hole h token text).Suits front back) : FillsBetween front back h text := by
  cases h with
  | integer => exact fillsBetween_integer haccepts hsuits
  | decimal => exact fillsBetween_decimal haccepts
  | name => exact fillsBetween_name haccepts
  | guid => exact fillsBetween_guid haccepts
  | run => exact fillsBetween_run haccepts hsuits

/-- Literal characters fill themselves. -/
theorem exists_cut_literals {us : List Piece} {parts : List (List Char)}
    (hcut : Cut (before ++ ds) us parts) :
    ∃ parts', parts'.flatten = ds ++ parts.flatten ∧
      Cut before (ds.map .literal ++ us) parts' := by
  induction ds generalizing before with
  | nil => exact ⟨parts, rfl, by rwa [List.append_nil] at hcut⟩
  | cons d ds ih =>
    rw [List.append_cons] at hcut
    obtain ⟨parts', hflatten, hcut'⟩ := ih hcut
    exact ⟨[d] :: parts', by rw [List.flatten_cons, hflatten]; rfl, .unit (.literal d) hcut'⟩

theorem spelled_append_singleton (front : List Slot) (u : Slot) :
    spelled (front ++ [u]) = spelled front ++ u.token := by
  rw [spelled, List.flatMap_append, List.flatMap_singleton, spelled]

theorem written_append_singleton (front : List Slot) (u : Slot) :
    written (front ++ [u]) = written front ++ u.text := by
  rw [written, List.flatMap_append, List.flatMap_singleton, written]

theorem written_cons (u : Slot) (us : List Slot) : written (u :: us) = u.text ++ written us :=
  List.flatMap_cons

/-- The rest of the path in lower case is cut into parts that fill the rest of the pattern. -/
theorem exists_cut_of_filled (hfilled : Filled cs us) (hsuit : Suit front us) :
    ∃ parts, parts.flatten = lowerFrom (casedBehind (written front)) (written us) ∧
      Cut (lowerBefore false (written front) (written us))
        (ofChars (lowerFrom (casedBehind (spelled front)) cs)) parts := by
  -- slot by slot, with all slots passed so far in front: a sigma may look back at any of them
  induction hfilled generalizing front with
  | done => exact ⟨[], rfl, .done⟩
  | @hole h token text cs us htoken haccepts hfilled ih =>
    obtain ⟨hsuits, hrest⟩ := hsuit
    obtain ⟨parts, hflatten, hcut⟩ := ih hrest
    rw [written_append_singleton, Slot.text] at hflatten hcut
    rw [spelled_append_singleton, Slot.token, casedBehind_append, lowerBefore_append] at hcut
    rw [written_cons, Slot.text, ofChars_lowerFrom_token htoken]
    refine ⟨_ :: parts, ?_, .unit ?_ hcut⟩
    · rw [List.flatten_cons, hflatten, lowerFrom_append, casedBehind_append, ← casedBehind]
    · rw [hflatten]
      exact fillsBetween_of_accepts haccepts hsuits
  | @literal c cs us hnot hfilled ih =>
    obtain ⟨hsuits, hrest⟩ := hsuit
    obtain ⟨parts, hflatten, hcut⟩ := ih hrest
    rw [written_append_singleton, Slot.text] at hflatten hcut
    rw [spelled_append_singleton, Slot.token, casedBehind_append, lowerBefore_append] at hcut
    rw [written_cons, Slot.text, ofChars_lowerFrom_cons hnot]
    -- the pattern and the path give the character one lower case
    have hsame : lowerAt (casedBehind (spelled front)) c cs
        = lowerBefore (casedBehind (written front)) [c] (written us) := by
      rw [lowerBefore, lowerBefore, List.append_nil, List.nil_append, ← hfilled.spelled_eq]
      exact hsuits
    obtain ⟨parts', hflatten', hcut'⟩ := exists_cut_literals hcut
    rw [hsame]
    refine ⟨parts', ?_, hcut'⟩
    rw [hflatten', hflatten, lowerFrom_append, casedBehind_append, ← casedBehind]

/-- No accepted text is missed where it suits its place: a path that is written from a pattern is
matched by it if its whole numbers stand alone, no run holds `İ`, and the literal text has one
lower case in the pattern and in the path. -/
theorem isMatch_written (cache : MatcherCache) {pattern : String}
    (hfilled : Filled pattern.toList us) (hsuit : Suit [] us) :
    isMatch (cache.compile pattern).1.pattern (String.ofList (written us)) = true := by
  obtain ⟨parts, hflatten, hcut⟩ := exists_cut_of_filled hfilled hsuit
  rw [pattern_compile, isMatch, String.toList_ofList, fits_iff]
  exact ⟨parts, hcut, hflatten⟩

/-- A sigma that ends a word on both sides, and a number with slashes around it. -/
theorem isMatch_written_sigma :
    let us : List Slot :=
      [.literal '/', .literal 'α', .literal 'Σ', .literal '/',
        .hole .integer ['\x7b', 'I', 'n', 't', '\x7d'] ['-', '1', '2'], .literal '/',
        .hole .run ['*'] ['A', '/', 'Σ', '?']]
    Filled "/αΣ/\x7bInt\x7d/*".toList us ∧ Suit [] us ∧
      String.ofList (written us) = "/αΣ/-12/A/Σ?" ∧
      isMatch (MatcherCache.compile {} "/αΣ/\x7bInt\x7d/*").1.pattern "/αΣ/-12/A/Σ?" = true := by
  intro us
  have hinteger : Placeholder.integer.Accepts (['-'] ++ ['1', '2']) :=
    accepts_integer (.inr (.inr rfl)) ⟨by decide, forall_mem_of_all (by decide)⟩
  have hrun : Placeholder.run.Accepts ['A', '/', 'Σ', '?'] :=
    .run (forall_mem_of_all (by decide +kernel))
  have hint : ['\x7b', 'I', 'n', 't', '\x7d'].map Char.toLower = Placeholder.integer.spell := by
    decide
  have hpattern : "/αΣ/\x7bInt\x7d/*".toList = ['/', 'α', 'Σ', '/'] ++
      (['\x7b', 'I', 'n', 't', '\x7d'] ++ (['/'] ++ (['*'] ++ []))) := by
    decide +kernel
  -- the pattern is read token by token, with the characters between them
  have hfilled : Filled "/αΣ/\x7bInt\x7d/*".toList us := by
    rw [hpattern]
    exact filled_literals (forall_mem_of_all (by decide)) (.hole hint hinteger
      (filled_literals (forall_mem_of_all (by decide)) (.hole (by decide) hrun .done)))
  have hsigma : lowerAt (casedBehind ['/', 'α']) 'Σ' (spelled (us.drop 3))
      = lowerAt (casedBehind ['/', 'α']) 'Σ' (written (us.drop 3)) := by
    decide +kernel
  have hopens : Piece.OpensNumber (lowerChars ['/', 'α', 'Σ', '/'] ++ ['-']) := by
    have hhyphen : isWord '-' = false := by decide +kernel
    simp [Piece.OpensNumber, hhyphen]
  have hcloses : Piece.ClosesNumber (lowerChars ['/', 'A', '/', 'Σ', '?']) :=
    (Place.numberMayEnd_iff ⟨none, _⟩).mp (by decide +kernel)
  have hdotted : 'İ' ∉ ['A', '/', 'Σ', '?'] := by decide
  -- only the sigma, the number and the run have neighbours that could disturb them
  have hsuit : Suit [] us :=
    ⟨suits_literal (by decide), suits_literal (by decide), hsigma, suits_literal (by decide),
      ⟨hopens, hcloses⟩, suits_literal (by decide), hdotted, trivial⟩
  have hpath : String.ofList (written us) = "/αΣ/-12/A/Σ?" := by decide +kernel
  have hmatch := isMatch_written {} hfilled hsuit
  rw [hpath] at hmatch
  exact ⟨hfilled, hsuit, hpath, hmatch⟩

/-- Texts that are accepted by themselves are missed where a letter stands before a number,
where a run holds a capital whose lower case is no word, and where a sigma ends the literal text
of the pattern but no word of the path. -/
theorem not_isMatch_written :
    (let us : List Slot :=
      [.literal '/', .literal 'v', .hole .integer ['\x7b', 'i', 'n', 't', '\x7d'] ['5']]
    Filled "/v\x7bint\x7d".toList us ∧ String.ofList (written us) = "/v5" ∧
      isMatch (MatcherCache.compile {} "/v\x7bint\x7d").1.pattern "/v5" = false) ∧
    (let us : List Slot := [.literal '/', .hole .run ['*'] ['İ']]
    Filled "/*".toList us ∧ String.ofList (written us) = "/İ" ∧
      isMatch (MatcherCache.compile {} "/*").1.pattern "/İ" = false) ∧
    let us : List Slot :=
      [.literal '/', .literal 'α', .literal 'Σ',
        .hole .name ['\x7b', 's', 't', 'r', '\x7d'] ['x']]
    Filled "/αΣ\x7bstr\x7d".toList us ∧ String.ofList (written us) = "/αΣx" ∧
      isMatch (MatcherCache.compile {} "/αΣ\x7bstr\x7d").1.pattern "/αΣx" = false := by
  have hnumber : Filled "/v\x7bint\x7d".toList
      [.literal '/', .literal 'v', .hole .integer ['\x7b', 'i', 'n', 't', '\x7d'] ['5']] := by
    have hpattern : "/v\x7bint\x7d".toList
        = ['/', 'v'] ++ (['\x7b', 'i', 'n', 't', '\x7d'] ++ []) := by
      decide +kernel
    rw [hpattern]
    exact filled_literals (forall_mem_of_all (by decide)) (.hole (by decide)
      (accepts_integer (.inl rfl) ⟨by decide, forall_mem_of_all (by decide)⟩) .done)
  have hrun : Filled "/*".toList [.literal '/', .hole .run ['*'] ['İ']] := by
    have hpattern : "/*".toList = ['/'] ++ (['*'] ++ []) := by decide +kernel
    rw [hpattern]
    exact filled_literals (forall_mem_of_all (by decide)) (.hole (by decide)
      (.run (forall_mem_of_all (by decide +kernel))) .done)
  have hname : Filled "/αΣ\x7bstr\x7d".toList
      [.literal '/', .literal 'α', .literal 'Σ',
        .hole .name ['\x7b', 's', 't', 'r', '\x7d'] ['x']] := by
    have hpattern : "/αΣ\x7bstr\x7d".toList
        = ['/', 'α', 'Σ'] ++ (['\x7b', 's', 't', 'r', '\x7d'] ++ []) := by
      decide +kernel
    rw [hpattern]
    exact filled_literals (forall_mem_of_all (by decide)) (.hole (by decide)
      (.name (by decide) (forall_mem_of_all (by decide))) .done)
  refine ⟨⟨hnumber, ?_, ?_⟩, ⟨hrun, ?_, ?_⟩, hname, ?_, ?_⟩ <;> decide +kernel

end Pattern

end RouteAccess
