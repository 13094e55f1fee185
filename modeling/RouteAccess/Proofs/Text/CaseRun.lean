/-
RouteAccess/Proofs/Text/CaseRun.lean

Case tables as sets of codes.  A table has sources, the codes that it moves, and
targets, the codes that it moves them to; both are lists of runs.  A run of two
steps may lie between the codes of another one, so two runs are told apart by
their bounds or by their parity (`CaseRun.isApart`), and a table is settled if
all its targets are characters apart from all its sources.

A settled table moves nothing twice (`mapChar_of_mem_mapChar`):

    d ∈ mapChar expansions runs c  →  mapChar expansions runs d = [d].
-/
import RouteAccess.Text.Case

namespace RouteAccess

/-! ### Codes of a run -/

namespace CaseRun

/-- Whether a code is one of the codes `first, first + step, …, last`. -/
def Holds (r : CaseRun) (n : Nat) : Prop :=
  r.first ≤ n ∧ n ≤ r.last ∧ (n - r.first) % r.step = 0

/-- The run of one code. -/
def single (n : Nat) : CaseRun :=
  ⟨n, n, 1, n⟩

/-- The run of all codes of a span. -/
def ofSpan (s : Span) : CaseRun :=
  ⟨s.first, s.last, 1, s.first⟩

/-- The codes that a run leads to, as the run that leads back. -/
def back (r : CaseRun) : CaseRun :=
  ⟨r.target, r.target + (r.last - r.first), r.step, r.first⟩

/-- Whether two runs are seen to have no code in common: one ends before the
other begins, or the second one has steps of two and the first one stays between
them. -/
def isApart (a b : CaseRun) : Bool :=
  Nat.blt a.last b.first || Nat.blt b.last a.first ||
    (Nat.beq b.step 2 && (Nat.beq a.step 2 || Nat.beq a.first a.last) &&
      Nat.beq ((a.first + b.first) % 2) 1)

/-- Whether all runs of a list are seen to be apart from all runs of another. -/
def areApart (as bs : List CaseRun) : Bool :=
  as.all fun a => bs.all a.isApart

theorem holds_single {n m : Nat} : (single n).Holds m ↔ m = n := by
  simp only [Holds, single]
  omega

/-- Runs that are apart share no code. -/
theorem isApart.not_holds {a b : CaseRun} (h : a.isApart b = true) {n : Nat} (ha : a.Holds n) :
    ¬ b.Holds n := by
  obtain ⟨hfirst, hlast, hstep⟩ := ha
  simp only [isApart, Nat.blt_eq, Bool.or_eq_true, Bool.and_eq_true, Nat.beq_eq] at h
  rintro ⟨hfirst', hlast', hstep'⟩
  rcases h with (h | h) | ⟨⟨hb, ha | ha⟩, hodd⟩
  · omega
  · omega
  · -- both go in steps of two, from starts of different parity
    rw [ha] at hstep
    rw [hb] at hstep'
    omega
  · -- the first run is a single code
    rw [hb] at hstep'
    omega

theorem areApart.not_holds {as bs : List CaseRun} (h : areApart as bs = true) {a b : CaseRun}
    (ha : a ∈ as) (hb : b ∈ bs) {n : Nat} (hn : a.Holds n) : ¬ b.Holds n := by
  rw [areApart, List.all_eq_true] at h
  exact isApart.not_holds (List.all_eq_true.mp (h a ha) b hb) hn

/-- A code that is moved belongs to one of the runs, and its image to the same
run seen from the other end. -/
theorem exists_of_image? {runs : List CaseRun} {n m : Nat} (h : image? runs n = some m) :
    ∃ r ∈ runs, r.Holds n ∧ r.back.Holds m := by
  induction runs with
  | nil => simp [image?] at h
  | cons r rest ih =>
    rw [image?] at h
    split at h
    · simp at h
    · split at h
      · -- the first run holds the code, and its image lies as far behind its own start
        rename_i hfirst hrun
        obtain rfl := Option.some.inj h
        refine ⟨r, List.mem_cons_self, ⟨by omega, hrun⟩, ?_⟩
        refine ⟨Nat.le_add_right _ _, ?_, ?_⟩
        · show r.target + (n - r.first) ≤ r.target + (r.last - r.first)
          omega
        · show (r.target + (n - r.first) - r.target) % r.step = 0
          rw [Nat.add_sub_cancel_left]
          exact hrun.2
      · obtain ⟨r', hr', hn⟩ := ih h
        exact ⟨r', List.mem_cons_of_mem r hr', hn⟩

/-- The runs of a list of spans hold what the spans hold. -/
theorem exists_of_span {spans : List Span} {n : Nat} (h : Span.holds spans n = true) :
    ∃ r ∈ spans.map ofSpan, r.Holds n := by
  induction spans with
  | nil => simp [Span.holds] at h
  | cons s rest ih =>
    rw [Span.holds] at h
    split at h
    · simp at h
    · split at h
      · -- a span is a run without gaps
        refine ⟨ofSpan s, List.mem_map_of_mem List.mem_cons_self, ?_⟩
        exact ⟨by simp only [ofSpan]; omega, by assumption, Nat.mod_one _⟩
      · obtain ⟨r, hr, hn⟩ := ih h
        exact ⟨r, List.mem_cons_of_mem _ hr, hn⟩

end CaseRun

/-! ### Sources and targets of a table -/

namespace Text

variable {expansions : List (Nat × List Nat)} {runs : List CaseRun} {c d : Char}

/-- The codes that a table moves. -/
def sources (expansions : List (Nat × List Nat)) (runs : List CaseRun) : List CaseRun :=
  runs ++ expansions.map fun e => .single e.1

/-- The codes that a table moves others to. -/
def targets (expansions : List (Nat × List Nat)) (runs : List CaseRun) : List CaseRun :=
  runs.map .back ++ expansions.flatMap fun e => e.2.map .single

/-- Whether all codes of a run are characters. -/
def areChars (r : CaseRun) : Bool :=
  Nat.blt r.last 0xD800 || (Nat.blt 0xDFFF r.first && Nat.blt r.last 0x110000)

/-- Whether the targets of a table are characters and lie apart from its
sources. -/
def isSettled (expansions : List (Nat × List Nat)) (runs : List CaseRun) : Bool :=
  (targets expansions runs).all areChars &&
    CaseRun.areApart (targets expansions runs) (sources expansions runs)

/-- The codes of a run of characters are those of characters. -/
theorem toNat_of_areChars {r : CaseRun} (h : areChars r = true) {n : Nat} (hn : r.Holds n) :
    (Char.ofNat n).toNat = n := by
  obtain ⟨hfirst, hlast, -⟩ := hn
  simp only [areChars, Nat.blt_eq, Bool.or_eq_true, Bool.and_eq_true] at h
  have hvalid : n.isValidChar := by
    unfold Nat.isValidChar
    omega
  rw [Char.ofNat, dif_pos hvalid]
  rfl

/-- A table leaves a character alone that is none of its sources. -/
theorem mapChar_eq_self (h : ∀ r ∈ sources expansions runs, ¬ r.Holds c.toNat) :
    mapChar expansions runs c = [c] := by
  -- neither of the two tables moves the character
  have himage : CaseRun.image? runs c.toNat = none := by
    rcases e : CaseRun.image? runs c.toNat with - | m
    · rfl
    · obtain ⟨r, hr, hn, -⟩ := CaseRun.exists_of_image? e
      exact absurd hn (h r (List.mem_append_left _ hr))
  have hlookup : expansions.lookup c.toNat = none := by
    rw [List.lookup_eq_none_iff]
    intro e he
    have hne := h (.single e.1) (List.mem_append_right _ (List.mem_map_of_mem he))
    rw [CaseRun.holds_single] at hne
    simpa using hne
  simp [mapChar, himage, hlookup]

theorem mem_of_lookup {n : Nat} {codes : List Nat} (h : expansions.lookup n = some codes) :
    (n, codes) ∈ expansions := by
  obtain ⟨l, k, rfl, -⟩ := List.lookup_eq_some_iff.mp h
  exact List.mem_append_right _ List.mem_cons_self

/-- What a table makes of a character is the character itself, left alone, or
one of its targets. -/
theorem mem_mapChar (h : d ∈ mapChar expansions runs c) :
    (d = c ∧ mapChar expansions runs c = [c]) ∨
      ∃ r ∈ targets expansions runs, ∃ n, r.Holds n ∧ d = Char.ofNat n := by
  -- the runs are asked first, and the expansions only where no run moves the character
  rcases himage : CaseRun.image? runs c.toNat with - | m
  · rcases hlookup : expansions.lookup c.toNat with - | codes
    · have hself : mapChar expansions runs c = [c] := by simp [mapChar, himage, hlookup]
      rw [hself, List.mem_singleton] at h
      exact .inl ⟨h, hself⟩
    · simp only [mapChar, himage, hlookup, List.mem_map] at h
      obtain ⟨n, hn, rfl⟩ := h
      refine .inr ⟨.single n, List.mem_append_right _ ?_, n, CaseRun.holds_single.mpr rfl, rfl⟩
      exact List.mem_flatMap.mpr ⟨_, mem_of_lookup hlookup, List.mem_map_of_mem hn⟩
  · simp only [mapChar, himage, List.mem_singleton] at h
    obtain ⟨r, hr, -, hm⟩ := CaseRun.exists_of_image? himage
    exact .inr ⟨r.back, List.mem_append_left _ (List.mem_map_of_mem hr), m, hm, h⟩

/-- A class apart from the targets of a table holds nothing that the table makes
of a character outside. -/
theorem not_mem_class_of_mem_mapChar (inClass : Char → Prop) {runs' : List CaseRun}
    (hclass : ∀ d, inClass d → ∃ r ∈ runs', r.Holds d.toNat)
    (hchars : (targets expansions runs).all areChars = true)
    (hapart : CaseRun.areApart (targets expansions runs) runs' = true)
    (hc : ¬ inClass c) (hd : d ∈ mapChar expansions runs c) : ¬ inClass d := by
  rcases mem_mapChar hd with ⟨rfl, -⟩ | ⟨r, hr, n, hn, rfl⟩
  · exact hc
  · intro hclassd
    obtain ⟨s, hs, hsn⟩ := hclass _ hclassd
    rw [toNat_of_areChars (List.all_eq_true.mp hchars r hr) hn] at hsn
    exact CaseRun.areApart.not_holds hapart hr hs hn hsn

/-- A settled table leaves alone what it has made of a character. -/
theorem mapChar_of_mem_mapChar (h : isSettled expansions runs = true)
    (hd : d ∈ mapChar expansions runs c) : mapChar expansions runs d = [d] := by
  rw [isSettled, Bool.and_eq_true] at h
  rcases mem_mapChar hd with ⟨rfl, hself⟩ | ⟨r, hr, n, hn, rfl⟩
  · exact hself
  · apply mapChar_eq_self
    intro s hs
    rw [toNat_of_areChars (List.all_eq_true.mp h.1 r hr) hn]
    exact CaseRun.areApart.not_holds h.2 hr hs hn

/-- A table makes something of every character. -/
theorem mapChar_ne_nil (h : ∀ e ∈ expansions, e.2 ≠ []) (c : Char) :
    mapChar expansions runs c ≠ [] := by
  rcases himage : CaseRun.image? runs c.toNat with - | m
  · rcases hlookup : expansions.lookup c.toNat with - | codes
    · simp [mapChar, himage, hlookup]
    · have hne := h (c.toNat, codes) (mem_of_lookup hlookup)
      simpa [mapChar, himage, hlookup] using hne
  · simp [mapChar, himage]

end Text

end RouteAccess
