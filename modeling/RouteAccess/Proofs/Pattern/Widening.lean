/-
RouteAccess/Proofs/Pattern/Widening.lean

Patterns made wider.  Any `{int}` of a pattern may become a `{dec}`, and any stretch of
literal characters that a run may hold may become a `*` (`Widened`, a relation on the units
of the two patterns).  No path is lost: a text that fills a unit fills what it has become,
whatever surrounds it, so each cut of a text gives one into the same text
(`exists_cut_of_widened`).

The wider pattern is a text again, and is read anew.  A token of it that was none before
would have to begin at a character that stays, and go on with characters that stay: no token
has a brace or a star inside.  So it is read as the very units it was made of
(`Widened.reads`).
-/
import RouteAccess.Proofs.Pattern.Matching
import RouteAccess.Proofs.Text.Letters

namespace RouteAccess

/-! ### Numbers -/

namespace Piece

theorem isDecimal_of_isDigit {c : Char} (h : Text.isDigit c = true) : Text.isDecimal c = true := by
  rw [Text.isDigit, Bool.and_eq_true, decide_eq_true_eq, decide_eq_true_eq] at h
  have hfirst : ¬ c.toNat < 0x30 := Nat.not_lt.mpr h.1
  have hlast : c.toNat ≤ 0x39 := h.2
  rw [Text.isDecimal, ClassTable.decimal, Span.holds, if_neg hfirst, if_pos hlast]

/-- What is a whole number where it stands is a number. -/
theorem Fills.decimal_of_integer {before after part : List Char}
    (h : Fills before after (.hole .integer) part) : Fills before after (.hole .decimal) part := by
  cases h with
  | @integer sign digits hsign hdigits _ _ =>
    obtain ⟨hne, hall⟩ := hdigits
    have hfills : Fills before after (.hole .decimal) (sign ++ [] ++ digits) :=
      .decimal hsign (.inl rfl) ⟨hne, fun c hc => isDecimal_of_isDigit (hall c hc)⟩
    rwa [List.append_nil] at hfills

end Piece

namespace Pattern

variable {us vs : List Piece} {before : List Char} {parts : List (List Char)}

/-- Units made wider: a whole number may become any number, and literal characters that a run
may hold may become a run. -/
inductive Widened : List Piece → List Piece → Prop
  | done : Widened [] []
  | keep (u : Piece) {us vs : List Piece} : Widened us vs → Widened (u :: us) (u :: vs)
  | decimal {us vs : List Piece} :
      Widened us vs → Widened (.hole .integer :: us) (.hole .decimal :: vs)
  | run {cs : List Char} {us vs : List Piece} :
      (∀ c ∈ cs, Placeholder.isRunChar c = true) → Widened us vs →
        Widened (cs.map .literal ++ us) (.hole .run :: vs)

/-! ### Cuts -/

/-- Literal characters are filled by themselves. -/
theorem cut_of_cut_literals {cs : List Char}
    (h : Cut before (cs.map .literal ++ us) parts) :
    ∃ parts', parts.flatten = cs ++ parts'.flatten ∧ Cut (before ++ cs) us parts' := by
  induction cs generalizing before parts with
  | nil => exact ⟨parts, rfl, by rwa [List.append_nil]⟩
  | cons c cs ih =>
    cases h with
    | @unit _ part parts _ _ hu hcut =>
      cases hu
      obtain ⟨parts', hflatten, hcut'⟩ := ih hcut
      refine ⟨parts', by rw [List.flatten_cons, hflatten]; rfl, ?_⟩
      rwa [List.append_assoc] at hcut'

/-- A text that is cut into parts for some units is cut into parts for wider ones. -/
theorem exists_cut_of_widened (h : Widened us vs) (hcut : Cut before us parts) :
    ∃ parts', Cut before vs parts' ∧ parts'.flatten = parts.flatten := by
  induction h generalizing before parts with
  | done => exact ⟨parts, hcut, rfl⟩
  | keep u _ ih =>
    cases hcut with
    | @unit _ part parts _ _ hu hcut =>
      obtain ⟨parts', hcut', hflatten⟩ := ih hcut
      exact ⟨part :: parts', .unit (hflatten ▸ hu) hcut', by simp [hflatten]⟩
  | decimal _ ih =>
    cases hcut with
    | @unit _ part parts _ _ hu hcut =>
      obtain ⟨parts', hcut', hflatten⟩ := ih hcut
      exact ⟨part :: parts', .unit (hflatten ▸ hu.decimal_of_integer) hcut', by simp [hflatten]⟩
  -- the literals that the run takes in are parts of one character each
  | @run cs _ _ hrun _ ih =>
    obtain ⟨parts, hwhole, hcut⟩ := cut_of_cut_literals hcut
    obtain ⟨parts', hcut', hflatten⟩ := ih hcut
    have hfills : ∀ c ∈ cs, c = '/' ∨ c = '?' ∨ c = '+' ∨ Text.isWord c = true := by
      intro c hc
      simpa [Placeholder.isRunChar, or_assoc] using hrun c hc
    exact ⟨cs :: parts', .unit (.run hfills) hcut', by simp [hflatten, hwhole]⟩

/-! ### Reading the wider pattern -/

/-- Whether a character is neither a brace that opens nor a star. -/
def IsInner (c : Char) : Prop :=
  c ≠ '\x7b' ∧ c ≠ '*'

instance (c : Char) : Decidable (IsInner c) :=
  inferInstanceAs (Decidable (_ ∧ _))

/-- A token begins with a brace that opens or with a star, and has none after that. -/
theorem exists_spell_eq (h : Placeholder) :
    ∃ c t, h.spell = c :: t ∧ ¬ IsInner c ∧ ∀ d ∈ t, IsInner d := by
  cases h <;> refine ⟨_, _, rfl, ?_, ?_⟩ <;> simp [IsInner]

/-- A character of a name begins no token. -/
theorem isInner_cons_prefix_spell {c : Char} {t : List Char} (hc : IsInner c) (p : Placeholder) :
    ¬ c :: t <+: spell (.hole p :: us) := by
  obtain ⟨d, t', hspell, hd, -⟩ := exists_spell_eq p
  rintro ⟨rest, heq⟩
  rw [spell, List.flatMap_cons, Piece.spell, hspell] at heq
  obtain ⟨rfl, -⟩ := List.cons.inj heq
  exact hd hc

/-- Beginnings without braces and stars were there before. -/
theorem Widened.prefix_spell (h : Widened us vs) {t : List Char} (ht : ∀ c ∈ t, IsInner c)
    (hbegins : t <+: spell vs) : t <+: spell us := by
  induction h generalizing t with
  | done => exact hbegins
  -- what is kept stands in front of both, and is no token where a beginning has no brace
  | @keep u us vs _ ih =>
    cases t with
    | nil => exact List.nil_prefix
    | cons c t =>
      obtain ⟨hc, ht⟩ := List.forall_mem_cons.mp ht
      cases u with
      | hole p => exact absurd hbegins (isInner_cons_prefix_spell hc p)
      | literal d =>
        rw [spell, List.flatMap_cons, Piece.spell, List.singleton_append, List.cons_prefix_cons]
          at hbegins ⊢
        exact ⟨hbegins.1, ih ht hbegins.2⟩
  | decimal _ _ | run _ _ _ =>
    cases t with
    | nil => exact List.nil_prefix
    | cons c t => exact absurd hbegins (isInner_cons_prefix_spell (ht c List.mem_cons_self) _)

/-- Where a literal character is read, no token begins. -/
theorem Reads.literal_cases {cs : List Char} {c : Char} (h : Reads cs (.literal c :: us)) :
    ∃ rest, cs = c :: rest ∧ (∀ p : Placeholder, ¬ p.spell <+: c :: rest) ∧ Reads rest us := by
  cases h with
  | literal hnot hrest => exact ⟨_, rfl, hnot, hrest⟩

/-- Where a text is read as its own units, so is its end. -/
theorem Reads.of_append (ws : List Piece) (h : Reads (spell (ws ++ us)) (ws ++ us)) :
    Reads (spell us) us := by
  induction ws with
  | nil => exact h
  | cons w ws ih =>
    refine ih ?_
    cases w with
    | hole p =>
      rw [reads_iff, List.cons_append, spell, List.flatMap_cons, Piece.spell,
        ofChars_spell_append] at h
      exact reads_iff.mpr (List.cons.inj h).2
    | literal c =>
      obtain ⟨_, heq, -, hrest⟩ := h.literal_cases
      rwa [← (List.cons.inj heq).2] at hrest

/-- The wider pattern is read as the units that it was made of. -/
theorem Widened.reads (h : Widened us vs) (hreads : Reads (spell us) us) :
    Reads (spell vs) vs := by
  induction h with
  | done => exact .done
  | @keep u us vs h ih =>
    have hrest : Reads (spell us) us := Reads.of_append [u] hreads
    cases u with
    | hole p => exact .token p (ih hrest)
    | literal c =>
      -- no token begins here in the wider pattern, as none did before
      obtain ⟨_, heq, hnot, -⟩ := hreads.literal_cases
      obtain ⟨-, rfl⟩ := List.cons.inj heq
      refine .literal (fun p hp => hnot p ?_) (ih hrest)
      obtain ⟨d, t, hspell, -, ht⟩ := exists_spell_eq p
      rw [hspell, List.cons_prefix_cons] at hp ⊢
      exact ⟨hp.1, h.prefix_spell ht hp.2⟩
  | decimal _ ih => exact .token .decimal (ih (Reads.of_append [_] hreads))
  | run _ _ ih => exact .token .run (ih (Reads.of_append _ hreads))

/-- The characters of the wider pattern were there before, or belong to its new tokens. -/
theorem Widened.mem_spell (h : Widened us vs) {c : Char} (hc : c ∈ spell vs) :
    c ∈ spell us ∨ ∃ p : Placeholder, c ∈ p.spell := by
  -- each new token brings its own characters, and what is kept was there
  induction h with
  | done => exact .inl hc
  | keep u _ ih =>
    rw [spell, List.flatMap_cons, List.mem_append] at hc ⊢
    rcases hc with hc | hc
    · exact .inl (.inl hc)
    · exact (ih hc).imp_left .inr
  | decimal _ ih =>
    rw [spell, List.flatMap_cons, List.mem_append] at hc
    rcases hc with hc | hc
    · exact .inr ⟨.decimal, hc⟩
    · exact (ih hc).imp_left fun hus => List.mem_append_right _ hus
  | run _ _ ih =>
    rw [spell, List.flatMap_cons, List.mem_append] at hc
    rcases hc with hc | hc
    · exact .inr ⟨.run, hc⟩
    · refine (ih hc).imp_left fun hus => ?_
      rw [spell, List.flatMap_append]
      exact List.mem_append_right _ hus

/-! ### Patterns as texts -/

/-- Whether a pattern is a wider form of another one. -/
def IsWider (wider pattern : String) : Prop :=
  ∃ us, Widened (pieces pattern) us ∧ wider.toList = spell us

theorem isSmall_of_mem_spell (p : Placeholder) : ∀ c ∈ p.spell, Text.IsSmall c := by
  apply Text.forall_mem_of_all
  cases p <;> decide +kernel

/-- A wider form of a pattern in lower case is read as its own units. -/
theorem pieces_of_widened {pattern wider : String} (hlower : Text.lower pattern = pattern)
    (h : Widened (pieces pattern) us) (hwider : wider.toList = spell us) : pieces wider = us := by
  have hpattern : Text.lowerChars pattern.toList = pattern.toList := by
    rw [← Text.toList_lower, hlower]
  have hspell : spell (pieces pattern) = pattern.toList := by
    rw [pieces, spell_ofChars, hpattern]
  -- the wider pattern is in lower case too, as tokens are
  have hsmall : ∀ c ∈ spell us, Text.IsSmall c := by
    intro c hc
    rcases h.mem_spell hc with hc | ⟨p, hp⟩
    · rw [hspell, ← hpattern] at hc
      exact Text.isSmall_of_mem_lowerFrom hc
    · exact isSmall_of_mem_spell p c hp
  have hreads : Reads (spell (pieces pattern)) (pieces pattern) := by
    rw [hspell, pieces, hpattern]
    exact reads_ofChars _
  rw [pieces, hwider, Text.lowerChars, Text.lowerFrom_eq_self hsmall]
  exact (h.reads hreads).eq_ofChars.symm

/-- Every path that a pattern in lower case matches is matched by its wider forms. -/
theorem isMatch_of_isWider (cache cache' : MatcherCache) {pattern wider path : String}
    (hlower : Text.lower pattern = pattern) (hwider : IsWider wider pattern)
    (hmatch : isMatch (cache.compile pattern).1.pattern path = true) :
    isMatch (cache'.compile wider).1.pattern path = true := by
  obtain ⟨us, hwidened, hspell⟩ := hwider
  rw [pattern_compile, isMatch] at hmatch ⊢
  rw [pieces_of_widened hlower hwidened hspell, fits_iff]
  obtain ⟨parts, hcut, hparts⟩ := fits_iff.mp hmatch
  obtain ⟨parts', hcut', hflatten⟩ := exists_cut_of_widened hwidened hcut
  exact ⟨parts', hcut', hflatten.trans hparts⟩

/-- A name between braces becomes a run between braces, and no token arises from it. -/
theorem isMatch_of_isWider_braces :
    let pattern := "/\x7bv1\x7d/\x7bint\x7d"
    let wider := "/\x7b*\x7d/\x7bdec\x7d"
    Text.lower pattern = pattern ∧ IsWider wider pattern ∧
      isMatch (MatcherCache.compile {} wider).1.pattern "/\x7bV1\x7d/-12" = true := by
  intro pattern wider
  have hlower : Text.lower pattern = pattern := by decide +kernel
  have hpieces : pieces pattern
      = .literal '/' :: .literal '\x7b' :: ([.literal 'v', .literal '1'] ++
        [.literal '\x7d', .literal '/', .hole .integer]) := by
    decide +kernel
  have hwidened : Widened (pieces pattern) [.literal '/', .literal '\x7b', .hole .run,
      .literal '\x7d', .literal '/', .hole .decimal] := by
    rw [hpieces]
    have hrun : ∀ c ∈ ['v', '1'], Placeholder.isRunChar c = true :=
      Text.forall_mem_of_all (by decide +kernel)
    -- the name between the first braces and the number are widened, all else is kept
    exact .keep _ (.keep _ (.run hrun (.keep _ (.keep _ (.decimal .done)))))
  have hwider : IsWider wider pattern := ⟨_, hwidened, by decide +kernel⟩
  exact ⟨hlower, hwider, isMatch_of_isWider {} {} hlower hwider (by decide +kernel)⟩

end Pattern

end RouteAccess
