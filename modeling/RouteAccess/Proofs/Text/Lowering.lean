/-
RouteAccess/Proofs/Text/Lowering.lean

Lower case of a part of a text.  What becomes of a part depends on what stands around it, as
a sigma looks both ways: `casedBehind` sums up the text before, and `lowerBefore` takes the
text after along.  So the lower case of a text falls into those of its parts:

    lowerFrom b (as ++ bs) = lowerBefore b as bs ++ lowerFrom (as.foldl casedAfter b) bs.

A part without neighbours that a sigma could see is lowered as if it stood alone
(`lowerBefore_eq_lowerFrom`).

Backwards: besides the letters of the alphabet, only `İ` leads to a letter from `a` to `z` other
than `k`, and it brings a second character with it.  So what is spelled in such letters in the
lower-cased text was spelled in the text already (`prefix_of_prefix_lowerFrom`).
-/
import RouteAccess.Proofs.Text.Letters
import RouteAccess.Text.CharClass

namespace RouteAccess

/-! ### Spans and runs -/

/-- Whether one of the spans holds all codes between two bounds. -/
def Span.covers : List Span → Nat → Nat → Bool
  | [], _, _ => false
  | s :: rest, first, last =>
    Nat.ble s.first first &&
      (Nat.ble last s.last || (Nat.blt s.last first && Span.covers rest first last))

/-- A list of spans that covers some codes holds each of them. -/
theorem Span.holds_of_covers {spans : List Span} {first last n : Nat}
    (h : Span.covers spans first last = true) (hfirst : first ≤ n) (hlast : n ≤ last) :
    Span.holds spans n = true := by
  induction spans with
  | nil => simp [covers] at h
  | cons s rest ih =>
    simp only [covers, Bool.and_eq_true, Bool.or_eq_true, Nat.ble_eq, Nat.blt_eq] at h
    obtain ⟨hbegin, hend | ⟨hbeyond, hrest⟩⟩ := h
    · rw [holds, if_neg (by omega), if_pos (by omega)]
    · rw [holds, if_neg (by omega), if_neg (by omega)]
      exact ih hrest

namespace Text

variable {c d x : Char} {as bs cs rest t : List Char} {behind : Bool}

/-! ### Images -/

/-- What is true of all characters of ASCII. -/
theorem of_ascii {P : Char → Prop} (h : ∀ n < 128, P (Char.ofNat n)) (hc : c.toNat < 128) :
    P c := by
  have hcode := h c.toNat hc
  rwa [Char.ofNat_toNat] at hcode

/-- A character is moved by one of the runs, or has the one image of two characters, or stays
as it is. -/
theorem lowerChar_cases (c : Char) :
    (∃ r ∈ CaseTable.lowerRuns, r.Holds c.toNat ∧
      ∃ n, r.back.Holds n ∧ lowerChar c = [Char.ofNat n]) ∨
    c = 'İ' ∨ lowerChar c = [c] := by
  rcases himage : CaseRun.image? CaseTable.lowerRuns c.toNat with - | n
  · rcases hlookup : CaseTable.lowerExpansions.lookup c.toNat with - | codes
    · exact .inr (.inr (by simp only [lowerChar, mapChar, himage, hlookup]))
    · -- there is one expansion, that of the dotted capital
      have hmem := mem_of_lookup hlookup
      rw [CaseTable.lowerExpansions, List.mem_singleton, Prod.mk.injEq] at hmem
      refine .inr (.inl ?_)
      rw [← Char.ofNat_toNat c, hmem.1]
  · obtain ⟨r, hr, hc, hn⟩ := CaseRun.exists_of_image? himage
    exact .inl ⟨r, hr, hc, n, hn, by simp only [lowerChar, mapChar, himage]⟩

theorem lowerAt_of_ne_sigma (h : c ≠ 'Σ') : lowerAt behind c rest = lowerChar c :=
  if_neg h

theorem lowerAt_dottedI : lowerAt behind 'İ' rest = ['i', '\u0307'] := by
  rw [lowerAt_of_ne_sigma (by decide)]
  decide +kernel

/-- The image of a character other than `İ` is one character. -/
theorem exists_lowerAt_eq (behind : Bool) (hc : c ≠ 'İ') (rest : List Char) :
    ∃ d, lowerAt behind c rest = [d] := by
  rw [lowerAt]
  split
  · split
    · exact ⟨_, rfl⟩
    · exact ⟨_, rfl⟩
  · obtain ⟨-, -, -, n, -, heq⟩ | hdotted | heq := lowerChar_cases c
    · exact ⟨_, heq⟩
    · exact absurd hdotted hc
    · exact ⟨_, heq⟩

/-- The image of a character whose small letter stays as it is. -/
theorem lowerAt_of_isSmall_toLower (h : IsSmall c.toLower) :
    lowerAt behind c rest = [c.toLower] := by
  rw [lowerAt_of_ne_sigma fun e => h.1 ((toLower_eq_sigma c).mpr e), ← lowerChar_toLower]
  exact h.2

theorem isSmall_toLower_of_ascii (h : c.toNat < 128) : IsSmall c.toLower :=
  of_ascii (P := fun c => IsSmall c.toLower) (by decide +kernel) h

theorem IsSmall.toLower_eq (h : IsSmall c) : c.toLower = c := by
  by_cases hc : c ∈ capitals
  · have hmoved : ∀ d ∈ capitals, lowerChar d ≠ [d] := forall_mem_of_all (by decide +kernel)
    exact absurd h.2 (hmoved c hc)
  · exact toLower_of_notMem_capitals hc

theorem areChars_lower :
    (targets CaseTable.lowerExpansions CaseTable.lowerRuns).all areChars = true := by
  have h := isSettled_lower
  rw [isSettled, Bool.and_eq_true] at h
  exact h.1

/-- Decimal digits have no case. -/
theorem isSmall_of_isDecimal (h : isDecimal c = true) : IsSmall c := by
  have hapart : CaseRun.areApart (sources CaseTable.lowerExpansions CaseTable.lowerRuns)
      (ClassTable.decimal.map .ofSpan) = true := by
    decide +kernel
  constructor
  · rintro rfl
    exact absurd h (by decide +kernel)
  · obtain ⟨r, hr, hn⟩ := CaseRun.exists_of_span h
    exact mapChar_eq_self fun s hs hheld => CaseRun.areApart.not_holds hapart hs hr hheld hn

/-- Besides `İ` and the two cases of the letter, nothing leads to a character of ASCII other
than `k`, which the Kelvin sign leads to. -/
theorem toLower_eq_of_mem_lowerAt (hx : x.toNat < 128) (hk : x ≠ 'k')
    (h : x ∈ lowerAt behind c rest) : c = 'İ' ∨ c.toLower = x := by
  by_cases hc : c.toNat < 128
  · rw [lowerAt_of_isSmall_toLower (isSmall_toLower_of_ascii hc), List.mem_singleton] at h
    exact .inr h.symm
  by_cases hsigma : c = 'Σ'
  · subst hsigma
    have himages : ∀ d ∈ lowerAt behind 'Σ' rest, 128 ≤ d.toNat := by
      -- the two forms of the sigma lie beyond ASCII
      apply forall_mem_of_all
      rw [lowerAt, if_pos rfl]
      split <;> decide
    exact absurd (himages x h) (Nat.not_le.mpr hx)
  rw [lowerAt_of_ne_sigma hsigma] at h
  obtain ⟨r, hr, hheld, n, hn, heq⟩ | hdotted | heq := lowerChar_cases c
  · -- a run of the table starts in ASCII, is that of the Kelvin sign, or leads beyond ASCII
    have hruns : ∀ r ∈ CaseTable.lowerRuns,
        r.last < 128 ∨ r.back = ⟨'k'.toNat, 'k'.toNat, 1, 0x212A⟩ ∨ 128 ≤ r.target := by
      decide +kernel
    rw [heq, List.mem_singleton] at h
    obtain hlast | hkelvin | htarget := hruns r hr
    · exact absurd (hheld.2.1.trans_lt hlast) hc
    · rw [hkelvin] at hn
      have hcode : n = 'k'.toNat := Nat.le_antisymm hn.2.1 hn.1
      exact absurd (h.trans (by rw [hcode, Char.ofNat_toNat])) hk
    · have hback : areChars r.back = true :=
        List.all_eq_true.mp areChars_lower _ (List.mem_append_left _ (List.mem_map_of_mem hr))
      have hcode : x.toNat = n := by rw [h, toNat_of_areChars hback hn]
      exact absurd (htarget.trans hn.1) (by omega)
  · exact .inl hdotted
  · rw [heq, List.mem_singleton] at h
    exact absurd (h ▸ hx) hc

/-- The image of a word character is made of word characters, but for the point that `İ` leaves
above its letter. -/
theorem isWord_of_mem_lowerAt (hc : isWord c = true) (hdotted : c ≠ 'İ')
    (hd : d ∈ lowerAt behind c rest) : isWord d = true := by
  by_cases hsigma : c = 'Σ'
  · subst hsigma
    have himages : ∀ d ∈ lowerAt behind 'Σ' rest, isWord d = true := by
      apply forall_mem_of_all
      rw [lowerAt, if_pos rfl]
      split <;> decide +kernel
    exact himages d hd
  rw [lowerAt_of_ne_sigma hsigma] at hd
  obtain ⟨r, hr, hheld, n, hn, heq⟩ | hc' | heq := lowerChar_cases c
  · -- the circled letters are the only capitals whose images are no word characters
    have hruns : ∀ r ∈ CaseTable.lowerRuns,
        Span.covers ClassTable.word r.back.first r.back.last = true ∨
          ClassTable.word.all (r.isApart <| .ofSpan ·) = true := by
      decide +kernel
    rw [heq, List.mem_singleton] at hd
    have hback : areChars r.back = true :=
      List.all_eq_true.mp areChars_lower _ (List.mem_append_left _ (List.mem_map_of_mem hr))
    obtain hcovers | hapart := hruns r hr
    · rw [isWord, hd, toNat_of_areChars hback hn]
      exact Span.holds_of_covers hcovers hn.1 hn.2.1
    · obtain ⟨s, hs, hn⟩ := CaseRun.exists_of_span hc
      obtain ⟨span, hspan, rfl⟩ := List.mem_map.mp hs
      exact absurd hn (CaseRun.isApart.not_holds (List.all_eq_true.mp hapart span hspan) hheld)
  · exact absurd hc' hdotted
  · rw [heq, List.mem_singleton] at hd
    rwa [hd]

/-! ### Parts of texts -/

/-- Whether the last character of a text that is not skipped has a case. -/
def casedBehind (cs : List Char) : Bool :=
  cs.foldl casedAfter false

/-- The lower-case image of a text before another one. -/
def lowerBefore (behind : Bool) : List Char → List Char → List Char
  | [], _ => []
  | c :: cs, rest => lowerAt behind c (cs ++ rest) ++ lowerBefore (casedAfter behind c) cs rest

theorem casedBehind_append (as bs : List Char) :
    casedBehind (as ++ bs) = bs.foldl casedAfter (casedBehind as) :=
  List.foldl_append

/-- The lower case of two texts is that of the first one, before the second, and that of the
second. -/
theorem lowerFrom_append (behind : Bool) (as bs : List Char) :
    lowerFrom behind (as ++ bs)
      = lowerBefore behind as bs ++ lowerFrom (as.foldl casedAfter behind) bs := by
  induction as generalizing behind with
  | nil => rfl
  | cons c as ih => rw [List.cons_append, lowerFrom, ih, lowerBefore, List.append_assoc,
      List.foldl_cons]

/-- Before a rest, the lower case of two texts is that of the first one and that of the second. -/
theorem lowerBefore_append (behind : Bool) (as bs rest : List Char) :
    lowerBefore behind (as ++ bs) rest
      = lowerBefore behind as (bs ++ rest) ++ lowerBefore (as.foldl casedAfter behind) bs rest := by
  induction as generalizing behind with
  | nil => rfl
  | cons c as ih => rw [List.cons_append, lowerBefore, ih, lowerBefore, List.append_assoc,
      List.append_assoc, List.foldl_cons]

/-- Whether a character stays as it is in lower case, and a sigma neither looks beyond it nor
sees a case in it. -/
def IsNeutral (c : Char) : Prop :=
  IsSmall c ∧ isCaseIgnorable c = false ∧ isCased c = false

instance (c : Char) : Decidable (IsNeutral c) :=
  inferInstanceAs (Decidable (_ ∧ _))

theorem IsNeutral.casedAhead (h : IsNeutral c) (rest : List Char) :
    casedAhead (c :: rest) = false := by
  obtain ⟨-, hignorable, hcased⟩ := h
  rw [Text.casedAhead, hignorable, hcased]
  rfl

theorem IsNeutral.casedAfter (h : IsNeutral c) (behind : Bool) : casedAfter behind c = false := by
  obtain ⟨-, hignorable, hcased⟩ := h
  rw [Text.casedAfter, hignorable, hcased]
  rfl

theorem casedAhead_append (h : casedAhead rest = false) (as : List Char) :
    casedAhead (as ++ rest) = casedAhead as := by
  induction as with
  | nil => exact h
  | cons c as ih => rw [List.cons_append, casedAhead, ih, casedAhead]

/-- A text that no cased character follows is lowered as if nothing followed. -/
theorem lowerBefore_eq_lowerFrom (h : casedAhead rest = false) (behind : Bool) (as : List Char) :
    lowerBefore behind as rest = lowerFrom behind as := by
  induction as generalizing behind with
  | nil => rfl
  | cons c as ih => rw [lowerBefore, lowerAt, casedAhead_append h, ih, lowerFrom, lowerAt]

/-- What stands in the lower case of a text comes of one of its characters. -/
theorem mem_lowerBefore (h : d ∈ lowerBefore behind as rest) :
    ∃ c ∈ as, ∃ behind' rest', d ∈ lowerAt behind' c rest' := by
  induction as generalizing behind with
  | nil => simp [lowerBefore] at h
  | cons c as ih =>
    rw [lowerBefore, List.mem_append] at h
    rcases h with h | h
    · exact ⟨c, List.mem_cons_self, _, _, h⟩
    · obtain ⟨c', hc', hd⟩ := ih h
      exact ⟨c', List.mem_cons_of_mem c hc', hd⟩

/-- A text whose small letters stay as they are becomes these letters. -/
theorem lowerBefore_eq_map (h : ∀ c ∈ as, IsSmall c.toLower) :
    lowerBefore behind as rest = as.map Char.toLower := by
  induction as generalizing behind with
  | nil => rfl
  | cons c as ih =>
    obtain ⟨hc, has⟩ := List.forall_mem_cons.mp h
    rw [lowerBefore, lowerAt_of_isSmall_toLower hc, ih has]
    rfl

theorem lowerBefore_eq_self (h : ∀ c ∈ as, IsSmall c) : lowerBefore behind as rest = as := by
  have hsame : as.map Char.toLower = as.map id :=
    List.map_congr_left fun c hc => (h c hc).toLower_eq
  rw [List.map_id] at hsame
  rw [lowerBefore_eq_map fun c hc => by rw [(h c hc).toLower_eq]; exact h c hc, hsame]

/-! ### Backwards -/

/-- What a text begins with if its lower case begins with a character of ASCII other than `k`. -/
theorem cons_prefix_lowerFrom (hx : x.toNat < 128) (hk : x ≠ 'k')
    (h : x :: t <+: lowerFrom behind cs) :
    (∃ c rest, cs = c :: rest ∧ c.toLower = x ∧ t <+: lowerFrom (casedAfter behind c) rest) ∨
      x = 'i' ∧ ∀ y ∈ t.head?, y = '\u0307' := by
  cases cs with
  | nil => exact absurd (List.prefix_nil.mp h) (List.cons_ne_nil x t)
  | cons c rest =>
    rw [lowerFrom] at h
    by_cases hdotted : c = 'İ'
    · rw [hdotted, lowerAt_dottedI, List.cons_append, List.cons_prefix_cons] at h
      obtain ⟨hx, s, hs⟩ := h
      refine .inr ⟨hx, ?_⟩
      cases t with
      | nil => simp
      | cons y t => simpa using (List.cons.inj hs).1
    · obtain ⟨d, hd⟩ := exists_lowerAt_eq behind hdotted rest
      rw [hd, List.singleton_append, List.cons_prefix_cons] at h
      obtain ⟨rfl, ht⟩ := h
      have hmem : x ∈ lowerAt behind c rest := by rw [hd]; exact List.mem_singleton_self x
      -- a single character of ASCII comes of its own two cases
      obtain hc | hc := toLower_eq_of_mem_lowerAt hx hk hmem
      · exact absurd hc hdotted
      · exact .inl ⟨c, rest, rfl, hc, ht⟩

/-- A text in ASCII without the letter `k` that does not end in `i` is there in lower case only
if it is there in small letters. -/
theorem prefix_of_prefix_lowerFrom (ht : ∀ y ∈ t ++ [x], y.toNat < 128 ∧ y ≠ 'k') (hx : x ≠ 'i')
    (h : t ++ [x] <+: lowerFrom behind cs) : t ++ [x] <+: cs.map Char.toLower := by
  induction t generalizing behind cs with
  | nil =>
    obtain ⟨hascii, hk⟩ := ht x (List.mem_singleton_self x)
    obtain ⟨c, rest, rfl, hc, -⟩ | ⟨hi, -⟩ := cons_prefix_lowerFrom hascii hk h
    · exact List.cons_prefix_cons.mpr ⟨hc.symm, List.nil_prefix⟩
    · exact absurd hi hx
  | cons y t ih =>
    rw [List.cons_append] at ht h ⊢
    obtain ⟨⟨hascii, hk⟩, ht⟩ := List.forall_mem_cons.mp ht
    obtain ⟨c, rest, rfl, hc, hrest⟩ | ⟨-, hnext⟩ := cons_prefix_lowerFrom hascii hk h
    · exact List.cons_prefix_cons.mpr ⟨hc.symm, ih ht hrest⟩
    · -- the point above the letter is not in ASCII
      obtain ⟨z, s, hz⟩ := List.exists_cons_of_ne_nil (List.concat_ne_nil x t)
      rw [hz] at hnext ht
      have hascii := (ht z List.mem_cons_self).1
      rw [hnext z rfl] at hascii
      exact absurd hascii (by decide)

end Text

end RouteAccess
