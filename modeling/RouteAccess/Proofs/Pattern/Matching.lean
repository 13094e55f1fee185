/-
RouteAccess/Proofs/Pattern/Matching.lean

What the marks on the places of a text say.  A step that takes marks from the
end back marks the places from which some text leads to a marked place; `Leads`
names that text by its kind, and kinds follow one another as the steps do
(`leads_leads`).

Each unit of a pattern is such a step for the texts that fill it
(`Piece.shows_lead`), so the units together mark the first place of a text
exactly when the text can be cut into parts that fill them (`fits_iff`):

    fits us cs = true  ↔  ∃ parts, Cut [] us parts ∧ parts.flatten = cs.
-/
import RouteAccess.Pattern.Cache
import RouteAccess.Pattern.Matching
import RouteAccess.Proofs.Pattern.Cut
import RouteAccess.Proofs.Text.Case

namespace RouteAccess

/-! ### From place to place -/

namespace Place

variable {L M : List Char → Prop} {G H : Place → Prop} {u v w : List Char} {x y z : Place}

/-- The second place is reached from the first one over a text. -/
def Passes (w : List Char) (x y : Place) : Prop :=
  x.after = w ++ y.after ∧ y.before = w.getLast?.or x.before

/-- From here some text of a kind leads to a place with a property. -/
def Leads (L : List Char → Prop) (G : Place → Prop) (x : Place) : Prop :=
  ∃ w y, Passes w x y ∧ L w ∧ G y

/-- Passing nothing is staying. -/
theorem passes_nil : Passes [] x y ↔ x = y := by
  obtain ⟨b, cs⟩ := x
  obtain ⟨b', cs'⟩ := y
  simp only [Passes, List.nil_append, List.getLast?_nil, Option.none_or, Place.mk.injEq]
  constructor
  · exact fun ⟨h, h'⟩ => ⟨h'.symm, h⟩
  · exact fun ⟨h, h'⟩ => ⟨h', h.symm⟩

/-- Two texts are passed one after the other. -/
theorem passes_append : Passes (u ++ v) x z ↔ ∃ y, Passes u x y ∧ Passes v y z := by
  constructor
  · rintro ⟨hafter, hbefore⟩
    refine ⟨⟨u.getLast?.or x.before, v ++ z.after⟩, ⟨?_, rfl⟩, rfl, ?_⟩
    · rw [hafter, List.append_assoc]
    · rw [hbefore, List.getLast?_append, Option.or_assoc]
  · rintro ⟨y, ⟨hafter, hbefore⟩, hafter', hbefore'⟩
    constructor
    · rw [hafter, hafter', List.append_assoc]
    · rw [hbefore', hbefore, List.getLast?_append, Option.or_assoc]

theorem passes_singleton {c : Char} :
    Passes [c] x y ↔ x.after = c :: y.after ∧ y.before = some c := by
  simp [Passes]

/-- The last character that was passed stands before the place that is reached. -/
theorem Passes.getLast? (h : Passes w x y) :
    (x.before.toList ++ w).getLast? = y.before.toList.getLast? := by
  have hlast : ∀ b : Option Char, b.toList.getLast? = b := by
    intro b
    cases b <;> rfl
  rw [List.getLast?_append, hlast, hlast, h.2]

/-- The characters passed over one by one are a text of the class. -/
theorem over_iff {p : Char → Bool} : Over p x y ↔ ∃ w, Passes w x y ∧ ∀ c ∈ w, p c = true := by
  constructor
  · intro h
    -- the place moves by the character that was passed
    induction h with
    | stay x => exact ⟨[], passes_nil.mpr rfl, by simp⟩
    | @next b c rest y hc _ ih =>
      obtain ⟨w, hw, hp⟩ := ih
      refine ⟨c :: w, ?_, List.forall_mem_cons.mpr ⟨hc, hp⟩⟩
      exact (passes_append (u := [c])).mpr ⟨⟨some c, rest⟩, passes_singleton.mpr ⟨rfl, rfl⟩, hw⟩
  · rintro ⟨w, hw, hp⟩
    -- the converse goes along the text, as a place has no end to go by
    induction w generalizing x with
    | nil =>
      rw [passes_nil.mp hw]
      exact .stay y
    | cons c w ih =>
      obtain ⟨hc, hrest⟩ := List.forall_mem_cons.mp hp
      obtain ⟨⟨b', rest⟩, hfirst, hw'⟩ := (passes_append (u := [c])).mp hw
      obtain ⟨b, cs⟩ := x
      obtain ⟨hcs, hb'⟩ := passes_singleton.mp hfirst
      simp only at hcs hb'
      subst hcs hb'
      exact .next hc (ih hw' hrest)

/-- What leads through two texts leads through one that consists of both. -/
theorem leads_leads :
    Leads L (Leads M G) x ↔ Leads (fun w => ∃ u v, w = u ++ v ∧ L u ∧ M v) G x := by
  constructor
  · rintro ⟨u, y, hu, hL, v, z, hv, hM, hG⟩
    exact ⟨u ++ v, z, passes_append.mpr ⟨y, hu, hv⟩, ⟨u, v, rfl, hL, hM⟩, hG⟩
  · rintro ⟨-, z, hw, ⟨u, v, rfl, hL, hM⟩, hG⟩
    obtain ⟨y, hu, hv⟩ := passes_append.mp hw
    exact ⟨u, y, hu, hL, v, z, hv, hM, hG⟩

/-- What may be left out leads through the empty text. -/
theorem leads_or : (G x ∨ Leads L G x) ↔ Leads (fun w => w = [] ∨ L w) G x := by
  constructor
  · rintro (hG | ⟨w, y, hw, hL, hG⟩)
    · exact ⟨[], x, passes_nil.mpr rfl, .inl rfl, hG⟩
    · exact ⟨w, y, hw, .inr hL, hG⟩
  · rintro ⟨w, y, hw, rfl | hL, hG⟩
    · rw [passes_nil.mp hw]
      exact .inl hG
    · exact .inr ⟨w, y, hw, hL, hG⟩

theorem Leads.congr (hL : ∀ w, L w ↔ M w) (hG : ∀ y, G y ↔ H y) :
    Leads L G x ↔ Leads M H x := by
  simp only [Leads, hL, hG]

end Place

/-! ### What the steps of a row show -/

namespace Row

open Place

variable {G H : Place → Prop} {before : Option Char} {cs : List Char} {m : Row}
variable {p : Char → Bool}

/-- A text of one character of a class. -/
def IsOne (p : Char → Bool) (w : List Char) : Prop :=
  ∃ c, w = [c] ∧ p c = true

/-- A text of any number of characters of a class. -/
def IsMany (p : Char → Bool) (w : List Char) : Prop :=
  ∀ c ∈ w, p c = true

theorem Shows.congr (h : Shows G before cs m) (e : ∀ x, G x ↔ H x) : Shows H before cs m := by
  induction h with
  | stop hb => exact .stop (hb.trans (e _))
  | step hb _ ih => exact .step (hb.trans (e _)) ih

/-- After the step over one character a row shows from where such a character leads on. -/
theorem Shows.leads_one (h : Shows G before cs m) (p : Char → Bool) :
    Shows (Leads (IsOne p) G) before cs (Row.one p m) := by
  refine (h.one p).congr fun x => ?_
  constructor
  · rintro ⟨c, rest, hafter, hc, hG⟩
    exact ⟨[c], ⟨some c, rest⟩, passes_singleton.mpr ⟨hafter, rfl⟩, ⟨c, rfl, hc⟩, hG⟩
  · rintro ⟨-, ⟨b, rest⟩, hw, ⟨c, rfl, hc⟩, hG⟩
    obtain ⟨hafter, hb⟩ := passes_singleton.mp hw
    simp only at hafter hb
    subst hb
    exact ⟨c, rest, hafter, hc, hG⟩

/-- After the step over many characters a row shows from where any number of them leads on. -/
theorem Shows.leads_many (h : Shows G before cs m) (p : Char → Bool) :
    Shows (Leads (IsMany p) G) before cs (Row.many p m) := by
  refine (h.many p).congr fun x => ?_
  simp only [over_iff]
  constructor
  · rintro ⟨y, ⟨w, hw, hp⟩, hG⟩
    exact ⟨w, y, hw, hp, hG⟩
  · rintro ⟨w, y, hw, hp, hG⟩
    exact ⟨y, ⟨w, hw, hp⟩, hG⟩

/-- One character of a class and then any number of them are a run. -/
theorem isRun_iff {w : List Char} :
    (∃ u v, w = u ++ v ∧ IsOne p u ∧ IsMany p v) ↔ Piece.IsRun p w := by
  constructor
  · rintro ⟨-, v, rfl, ⟨c, rfl, hc⟩, hv⟩
    exact ⟨List.cons_ne_nil c v, List.forall_mem_cons.mpr ⟨hc, hv⟩⟩
  · rintro ⟨hne, hw⟩
    obtain ⟨c, v, rfl⟩ := List.exists_cons_of_ne_nil hne
    obtain ⟨hc, hv⟩ := List.forall_mem_cons.mp hw
    exact ⟨[c], v, rfl, ⟨c, rfl, hc⟩, hv⟩

theorem Shows.leads_atLeastOne (h : Shows G before cs m) (p : Char → Bool) :
    Shows (Leads (Piece.IsRun p) G) before cs (Row.atLeastOne p m) := by
  refine ((h.leads_many p).leads_one p).congr fun x => ?_
  rw [leads_leads]
  exact Leads.congr (fun w => isRun_iff) fun y => .rfl

theorem Shows.leads_optional (h : Shows G before cs m) (p : Char → Bool) :
    Shows (Leads (fun w => w = [] ∨ IsOne p w) G) before cs (Row.optional p m) := by
  exact (h.either (h.leads_one p)).congr fun x => leads_or

theorem each_append (ps qs : List (Char → Bool)) (m : Row) :
    each (ps ++ qs) m = each ps (each qs m) :=
  List.foldr_append

/-- After some steps over one character a row shows from where a text of this length leads on. -/
theorem Shows.leads_each_replicate (h : Shows G before cs m) (n : Nat) (p : Char → Bool) :
    Shows (Leads (fun w => w.length = n ∧ IsMany p w) G) before cs
      (Row.each (.replicate n p) m) := by
  induction n with
  | zero =>
    refine h.congr fun x => ?_
    constructor
    · exact fun hG => ⟨[], x, passes_nil.mpr rfl, ⟨rfl, by simp [IsMany]⟩, hG⟩
    · rintro ⟨w, y, hw, ⟨hlen, -⟩, hG⟩
      rw [List.length_eq_zero_iff] at hlen
      subst hlen
      rwa [passes_nil.mp hw]
  | succ n ih =>
    refine (ih.leads_one p).congr fun x => ?_
    rw [leads_leads]
    refine Leads.congr (fun w => ?_) fun y => .rfl
    -- one character more is one in front of the others
    constructor
    · rintro ⟨-, v, rfl, ⟨c, rfl, hc⟩, hlen, hv⟩
      exact ⟨congrArg (· + 1) hlen, List.forall_mem_cons.mpr ⟨hc, hv⟩⟩
    · rintro ⟨hlen, hw⟩
      obtain ⟨c, v, rfl⟩ := List.exists_cons_of_length_eq_add_one hlen
      obtain ⟨hc, hv⟩ := List.forall_mem_cons.mp hw
      exact ⟨[c], v, rfl, ⟨c, rfl, hc⟩, Nat.succ.inj hlen, hv⟩

end Row

/-! ### The step of a unit -/

namespace Place

theorem numberMayStart_iff (x : Place) :
    x.numberMayStart = true ↔ Piece.OpensNumber x.before.toList := by
  obtain ⟨b, cs⟩ := x
  cases b <;> simp [numberMayStart, Piece.OpensNumber]

/-- A number may end where no word character follows, and no point with a digit behind it. -/
theorem numberMayEnd_iff (x : Place) : x.numberMayEnd = true ↔ Piece.ClosesNumber x.after := by
  have hpoint : Text.isWord '.' = false := by decide +kernel
  obtain ⟨b, cs⟩ := x
  simp only [numberMayEnd, Piece.ClosesNumber]
  split
  · simp
  · simp [hpoint]
  · rename_i c rest hnot
    simp only [Bool.not_eq_true', List.head?_cons, Option.mem_def, Option.some.injEq,
      forall_eq']
    -- a point was looked at in the case before, so here the character alone decides
    constructor
    · refine fun hc => ⟨hc, ?_⟩
      rintro d ⟨t, ht⟩
      obtain ⟨rfl, rfl⟩ := List.cons.inj ht
      exact absurd rfl (hnot d t rfl)
    · exact fun h => h.1

/-- From here a text that fills a unit leads to a place with a property. -/
def FillsTo (u : Piece) (G : Place → Prop) (x : Place) : Prop :=
  ∃ w y, Passes w x y ∧ u.Fills x.before.toList y.after w ∧ G y

/-- A unit that does not look at its neighbours is filled by texts of a kind. -/
theorem leads_iff_fillsTo {L : List Char → Prop} {G : Place → Prop} {u : Piece} {x : Place}
    (h : ∀ before after w, L w ↔ u.Fills before after w) : Leads L G x ↔ FillsTo u G x := by
  constructor
  · rintro ⟨w, y, hw, hL, hG⟩
    exact ⟨w, y, hw, (h _ _ w).mp hL, hG⟩
  · rintro ⟨w, y, hw, hu, hG⟩
    exact ⟨w, y, hw, (h _ _ w).mpr hu, hG⟩

end Place

namespace Piece

open Row Place

variable {G : Place → Prop} {before : Option Char} {cs : List Char} {m : Row}

/-- A sign is at most one character. -/
theorem isSign_iff (w : List Char) : (w = [] ∨ IsOne Placeholder.isSign w) ↔ IsSign w := by
  simp only [IsOne, IsSign, Placeholder.isSign, Bool.or_eq_true, decide_eq_true_eq]
  constructor
  · rintro (h | ⟨c, rfl, rfl | rfl⟩)
    · exact .inl h
    · exact .inr (.inl rfl)
    · exact .inr (.inr rfl)
  · rintro (h | rfl | rfl)
    · exact .inl h
    · exact .inr ⟨'+', rfl, .inl rfl⟩
    · exact .inr ⟨'-', rfl, .inr rfl⟩

theorem isOne_eq_iff {d : Char} {w : List Char} : IsOne (· = d) w ↔ w = [d] := by
  simp [IsOne]

/-- After the step of a literal a row shows from where its character leads on. -/
theorem shows_lead_literal (h : Shows G before cs m) (c : Char) :
    Shows (FillsTo (.literal c) G) before cs ((literal c).lead m) := by
  refine (h.leads_one (· = c)).congr fun x => leads_iff_fillsTo fun _ _ w => ?_
  rw [isOne_eq_iff]
  constructor
  · rintro rfl
    exact .literal c
  · rintro ⟨⟩
    rfl

/-- After the step of a whole number a row shows from where one leads on among its neighbours. -/
theorem shows_lead_integer (h : Shows G before cs m) :
    Shows (FillsTo (.hole .integer) G) before cs (Placeholder.integer.lead m) := by
  refine ((((h.keep numberMayEnd).leads_atLeastOne Text.isDigit).keep
    numberMayStart).leads_optional Placeholder.isSign).congr fun x => ?_
  constructor
  · rintro ⟨sign, y, hsign, hs, ⟨digits, z, hdigits, hd, hG, hend⟩, hstart⟩
    refine ⟨sign ++ digits, z, passes_append.mpr ⟨y, hsign, hdigits⟩, ?_, hG⟩
    rw [numberMayStart_iff, ← OpensNumber.congr hsign.getLast?] at hstart
    exact .integer ((isSign_iff sign).mp hs) hd hstart ((numberMayEnd_iff z).mp hend)
  · rintro ⟨w, z, hw, hu, hG⟩
    cases hu with
    | @integer sign digits hs hd hopens hcloses =>
      -- the row looks at the place between the sign and the digits
      obtain ⟨y, hsign, hdigits⟩ := passes_append.mp hw
      have hstart : y.numberMayStart = true := by
        rw [numberMayStart_iff, ← OpensNumber.congr hsign.getLast?]
        exact hopens
      exact ⟨sign, y, hsign, (isSign_iff sign).mpr hs,
        ⟨digits, z, hdigits, hd, hG, (numberMayEnd_iff z).mpr hcloses⟩, hstart⟩

/-- After the step of a decimal number a row shows from where one leads on. -/
theorem shows_lead_decimal (h : Shows G before cs m) :
    Shows (FillsTo (.hole .decimal) G) before cs (Placeholder.decimal.lead m) := by
  have hdigits := h.leads_atLeastOne Text.isDecimal
  have hpoint := (hdigits.leads_one Placeholder.isPoint).leads_many Text.isDecimal
  -- the digits stand alone or behind a whole part with its point
  have hwhole := (hdigits.either hpoint).congr fun x => by rw [leads_leads, leads_or]
  refine (hwhole.leads_optional Placeholder.isSign).congr fun x => ?_
  rw [leads_leads, leads_leads]
  refine leads_iff_fillsTo fun _ _ w => ?_
  constructor
  · rintro ⟨-, digits, rfl, ⟨sign, whole, rfl, hs, hw⟩, hd⟩
    refine .decimal ((isSign_iff sign).mp hs) ?_ hd
    rcases hw with rfl | ⟨ds, point, rfl, hds, c, rfl, hc⟩
    · exact .inl rfl
    · rw [Placeholder.isPoint, decide_eq_true_eq] at hc
      subst hc
      exact .inr ⟨ds, rfl, hds⟩
  · intro hu
    cases hu with
    | @decimal sign whole digits hs hw hd =>
      refine ⟨sign ++ whole, digits, rfl, ⟨sign, whole, rfl, (isSign_iff sign).mpr hs, ?_⟩, hd⟩
      rcases hw with rfl | ⟨ds, rfl, hds⟩
      · exact .inl rfl
      · exact .inr ⟨ds, ['.'], rfl, hds, '.', rfl, rfl⟩

/-- After the step of a name a row shows from where one leads on. -/
theorem shows_lead_name (h : Shows G before cs m) :
    Shows (FillsTo (.hole .name) G) before cs (Placeholder.name.lead m) := by
  refine (h.leads_atLeastOne Placeholder.isNameChar).congr fun x =>
    leads_iff_fillsTo fun _ _ w => ?_
  simp only [IsRun, Placeholder.isNameChar, Bool.or_eq_true, decide_eq_true_eq, or_assoc]
  constructor
  · exact fun ⟨hne, hw⟩ => .name hne hw
  · rintro ⟨⟩
    exact ⟨‹_›, ‹_›⟩

/-- After the step of a run a row shows from where one leads on. -/
theorem shows_lead_run (h : Shows G before cs m) :
    Shows (FillsTo (.hole .run) G) before cs (Placeholder.run.lead m) := by
  refine (h.leads_many Placeholder.isRunChar).congr fun x => leads_iff_fillsTo fun _ _ w => ?_
  simp only [IsMany, Placeholder.isRunChar, Bool.or_eq_true, decide_eq_true_eq, or_assoc]
  constructor
  · exact fun hw => .run hw
  · rintro ⟨⟩
    assumption

/-- A hyphen and a group of digits of an identifier. -/
theorem shows_group (h : Shows G before cs m) (n : Nat) :
    Shows (Leads (fun w => ∃ v, w = '-' :: v ∧ IsHex n v) G) before cs
      (each (Placeholder.isHyphen :: .replicate n Text.isHexDigit) m) := by
  refine ((h.leads_each_replicate n Text.isHexDigit).leads_one Placeholder.isHyphen).congr
    fun x => ?_
  rw [leads_leads]
  refine Leads.congr (fun w => ?_) fun y => .rfl
  -- a hyphen and a group are one text, since the class of hyphens has one character
  constructor
  · rintro ⟨-, v, rfl, ⟨c, rfl, hc⟩, hv⟩
    rw [Placeholder.isHyphen, decide_eq_true_eq] at hc
    subst hc
    exact ⟨v, rfl, hv⟩
  · rintro ⟨v, rfl, hv⟩
    exact ⟨['-'], v, rfl, ⟨'-', rfl, rfl⟩, hv⟩

/-- The groups of an identifier, from the first to the last. -/
theorem lead_guid (m : Row) :
    Placeholder.guid.lead m =
      ((each (.replicate 8 Text.isHexDigit)
        (each (Placeholder.isHyphen :: .replicate 4 Text.isHexDigit)
          (each (Placeholder.isHyphen :: .replicate 4 Text.isHexDigit)
            (each (Placeholder.isHyphen :: .replicate 4 Text.isHexDigit)
              (each (Placeholder.isHyphen :: .replicate 12 Text.isHexDigit)
                (m.optional (· = '\x7d'))))))).optional (· = '\x7b')) := by
  have hthree : ∀ ps : List (Char → Bool), (List.replicate 3 ps).flatten = ps ++ (ps ++ ps) := by
    intro ps
    simp [List.replicate_succ]
  rw [Placeholder.lead, Placeholder.guidShape, hthree]
  simp only [each_append]

/-- After the step of an identifier a row shows from where one leads on. -/
theorem shows_lead_guid (h : Shows G before cs m) :
    Shows (FillsTo (.hole .guid) G) before cs (Placeholder.guid.lead m) := by
  have hgroups := shows_group (shows_group (shows_group (shows_group
    (h.leads_optional (· = '\x7d')) 12) 4) 4) 4
  rw [lead_guid]
  refine ((hgroups.leads_each_replicate 8 Text.isHexDigit).leads_optional
    (· = '\x7b')).congr fun x => ?_
  simp only [leads_leads]
  refine leads_iff_fillsTo fun front back w => ?_
  constructor
  · -- eleven texts one after the other are the parts of one identifier
    rintro ⟨-, closing, rfl, ⟨-, -, rfl, ⟨-, -, rfl, ⟨-, -, rfl, ⟨-, -, rfl,
      ⟨opening, a, rfl, ho, ha⟩, b, rfl, hb⟩, c, rfl, hc⟩, d, rfl, hd⟩, e, rfl, he⟩, hcl⟩
    have hguid : Fills front back _ _ := .guid (ho.imp_right isOne_eq_iff.mp) ha hb hc hd he
      (hcl.imp_right isOne_eq_iff.mp)
    simpa [List.intercalate] using hguid
  · intro hu
    cases hu with
    | @guid opening a b c d e closing ho ha hb hc hd he hcl =>
      refine ⟨_, closing, ?_, ⟨_, _, rfl, ⟨_, _, rfl, ⟨_, _, rfl, ⟨_, _, rfl,
        ⟨opening, a, rfl, ho.imp_right isOne_eq_iff.mpr, ha⟩, b, rfl, hb⟩, c, rfl, hc⟩,
        d, rfl, hd⟩, e, rfl, he⟩, hcl.imp_right isOne_eq_iff.mpr⟩
      simp [List.intercalate]

/-- Following a unit is passing over a text that fills it. -/
theorem shows_lead (h : Shows G before cs m) (u : Piece) :
    Shows (FillsTo u G) before cs (u.lead m) := by
  cases u with
  | literal c => exact shows_lead_literal h c
  | hole p =>
    cases p with
    | integer => exact shows_lead_integer h
    | decimal => exact shows_lead_decimal h
    | name => exact shows_lead_name h
    | guid => exact shows_lead_guid h
    | run => exact shows_lead_run h

end Piece

/-! ### The units of a pattern -/

namespace Pattern

open Row Place

/-- After the steps of all units, from the last to the first, a row shows from where the rest can
be cut into parts that fill them. -/
theorem shows_lead_atEnd (us : List Piece) (before : Option Char) (cs : List Char) :
    Shows (fun x => ∃ parts, Cut x.before.toList us parts ∧ parts.flatten = x.after) before cs
      (lead us (atEnd before cs)) := by
  induction us with
  | nil =>
    refine (shows_atEnd before cs).congr fun x => ?_
    constructor
    · exact fun h => ⟨[], .done, h.symm⟩
    · rintro ⟨-, ⟨⟩, hx⟩
      exact hx.symm
  | cons u us ih =>
    -- a place knows one character of the text before it, and a cut needs no more
    refine (Piece.shows_lead ih u).congr fun x => ?_
    constructor
    · rintro ⟨part, y, ⟨hafter, hbefore⟩, hu, parts, hcut, hy⟩
      rw [← hy] at hu
      have hcut' := Cut.congr (Passes.getLast? ⟨hafter, hbefore⟩).symm hcut
      exact ⟨part :: parts, .unit hu hcut', by rw [List.flatten_cons, hy, hafter]⟩
    · rintro ⟨parts, hcut, hx⟩
      cases hcut with
      | @unit _ part parts _ _ hu hcut =>
        have hw : Passes part x ⟨part.getLast?.or x.before, parts.flatten⟩ := ⟨hx.symm, rfl⟩
        exact ⟨part, _, hw, hu, parts, Cut.congr hw.getLast? hcut, rfl⟩

/-- A text fits the units exactly when it can be cut into parts that fill them. -/
theorem fits_iff {us : List Piece} {cs : List Char} :
    fits us cs = true ↔ ∃ parts, Cut [] us parts ∧ parts.flatten = cs :=
  (shows_lead_atEnd us none cs).first_iff

/-! ### Paths and patterns -/

/-- The units of a pattern fit a text exactly if it can be cut into parts that fill them. -/
theorem fits_pieces_iff {pattern : String} {cs : List Char} :
    fits (pieces pattern) cs = true ↔
      ∃ units parts, Reads (Text.lower pattern).toList units ∧ Cut [] units parts ∧
        parts.flatten = cs := by
  rw [fits_iff, pieces, ← Text.toList_lower]
  constructor
  · rintro ⟨parts, hcut, hcs⟩
    exact ⟨_, parts, reads_ofChars _, hcut, hcs⟩
  · rintro ⟨units, parts, hreads, hcut, hcs⟩
    rw [reads_iff.mp hreads] at hcut
    exact ⟨parts, hcut, hcs⟩

/-- A matcher belongs to the pattern that was asked for, kept or new. -/
theorem pattern_compile (cache : MatcherCache) (pattern : String) :
    (cache.compile pattern).1.pattern = pattern := by
  rw [MatcherCache.compile]
  split
  · rename_i m hm
    simpa using List.find?_some hm
  · rfl

/-- The matcher of a pattern, whatever has been compiled before, accepts a path
exactly when the path in lower case can be cut into parts that fill the units of
the pattern in lower case. -/
theorem isMatch_compile_iff_exists_cut (cache : MatcherCache) (pattern path : String) :
    isMatch (cache.compile pattern).1.pattern path = true ↔
      ∃ units parts, Reads (Text.lower pattern).toList units ∧ Cut [] units parts ∧
        parts.flatten = (Text.lower path).toList := by
  rw [pattern_compile, isMatch, ← Text.toList_lower]
  exact fits_pieces_iff

/-- A number at the end of a name is no number of its own, but a hyphen in front
of it sets it apart. -/
example : isMatch "{str}{int}" "ab5" = false ∧ isMatch "{str}{int}" "ab-5" = true := by
  decide +kernel

end Pattern

end RouteAccess
