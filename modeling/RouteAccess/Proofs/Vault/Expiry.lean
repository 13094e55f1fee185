/-
RouteAccess/Proofs/Vault/Expiry.lean

Until when keys are valid, and until when their senders are known.

Whoever asks about a moment is answered as clocks that show universal time would answer, though
not always at the instant of this moment (`VaultKey.isValid_some`):

    k.isValid now (some m) = k.isValid (.universal (m.instant + k.shift m)) none.

If just one of the two distances from universal time is known, that of the moment or that of the
deadline, then what the two clocks show is compared, and the key expires by as much too early as
the one is ahead of the other.  So the answers depend on the instant alone among moments with the
same shift, and they are those of the clocks where there is none (`VaultKey.valid_by_instant`).

Requests are judged by the clocks of the machine.  The entry that is looked at does not depend on
them, so whoever is known has been known before as long as no key becomes valid again.  Nothing
is to be assumed of a deadline in universal time; but one in local time comes back when the local
clock is set back over it (`Clock.isWithin_earlier_iff`), as it is every autumn where there is
summer time.  Unless that happens, who is refused stays refused (`Vault.known_before`).
-/
import Mathlib.Data.List.Basic
import RouteAccess.Proofs.Vault.Registration

namespace RouteAccess

/-! ### Clocks -/

namespace Clock

variable {c earlier later : Clock} {deadline : Moment}

/-- A deadline of known distance is held against universal time. -/
theorem isWithin_of_known (h : deadline.ahead ≠ none) :
    c.IsWithin deadline ↔ c.instant ≤ deadline.instant := by
  have hknown : deadline.ahead.isSome = true := Option.isSome_iff_ne_none.mpr h
  rw [IsWithin, reading, if_pos hknown]
  simp [Moment.instant, Moment.universal]

/-- Any other deadline is held against local time. -/
theorem isWithin_of_unknown (h : deadline.ahead = none) :
    c.IsWithin deadline ↔ c.wall ≤ deadline.wall := by
  simp [IsWithin, reading, Moment.instant, h]

/-- On clocks in universal time a deadline is over after its instant. -/
theorem isWithin_universal {instant : Int} :
    (universal instant).IsWithin deadline ↔ instant ≤ deadline.instant := by
  by_cases h : deadline.ahead = none
  · rw [isWithin_of_unknown h, Moment.instant, h]
    simp [universal]
  · exact isWithin_of_known h

/-- Whether the local clock was set back over a deadline in local time. -/
structure IsSetBackOver (earlier later : Clock) (deadline : Moment) : Prop where
  unknown : deadline.ahead = none
  within : later.wall ≤ deadline.wall
  passed : deadline.wall < earlier.wall

/-- A clock that does not go back is not set back over any deadline. -/
theorem not_isSetBackOver (h : earlier.wall ≤ later.wall) :
    ¬ earlier.IsSetBackOver later deadline := by
  intro hback
  have hwithin := hback.within
  have hpassed := hback.passed
  omega

/-- A deadline that is not over was not over before, unless the local clock was set back over
it. -/
theorem isWithin_earlier_iff (h : earlier.instant ≤ later.instant)
    (hlater : later.IsWithin deadline) :
    earlier.IsWithin deadline ↔ ¬ earlier.IsSetBackOver later deadline := by
  by_cases hunknown : deadline.ahead = none
  · rw [isWithin_of_unknown hunknown] at hlater ⊢
    -- the local clock decides, which may have gone back since
    constructor
    · intro hearlier hback
      exact Int.not_lt.mpr hearlier hback.passed
    · intro hnot
      by_contra hover
      exact hnot ⟨hunknown, hlater, Int.not_le.mp hover⟩
  · rw [isWithin_of_known hunknown] at hlater ⊢
    exact iff_of_true (Int.le_trans h hlater) fun hback => hunknown hback.unknown

end Clock

/-! ### Keys -/

namespace VaultKey

variable {k : VaultKey} {m : Moment} {now : Clock}

/-- By how many microseconds a key expires earlier for a moment than its deadline says: by as
many as the clock of the moment is ahead of that of the deadline, if just one of the two clocks
is known. -/
def shift (k : VaultKey) (m : Moment) : Int :=
  if m.ahead.isNone = k.deadline.ahead.isNone then 0
  else (m.ahead.getD 0 - k.deadline.ahead.getD 0) * Moment.perSecond

/-- There is no shift if both clocks are known or neither is, or if the known one shows
universal time. -/
theorem shift_eq_zero_iff :
    k.shift m = 0 ↔
      m.ahead.isNone = k.deadline.ahead.isNone ∨ m.ahead.getD 0 = k.deadline.ahead.getD 0 := by
  have hsecond : (Moment.perSecond : Int) ≠ 0 := by decide
  rw [shift]
  split
  · rename_i hsame
    exact iff_of_true rfl (.inl hsame)
  · rename_i hdiffer
    rw [Int.mul_eq_zero, or_iff_left hsecond, Int.sub_eq_zero, or_iff_right hdiffer]

/-- For a moment, a deadline is moved by the shift. -/
theorem instant_deadlineFor : (k.deadlineFor m).instant = k.deadline.instant - k.shift m := by
  rw [deadlineFor, shift]
  split
  · exact (Int.sub_zero _).symm
  · -- the deadline keeps what its clock shows, and takes the clock of the moment
    simp only [Moment.instant, Int.sub_mul]
    omega

theorem isValid_none : k.isValid now none = true ↔ now.IsWithin k.deadline :=
  decide_eq_true_iff

theorem isValid_universal {instant : Int} :
    k.isValid (.universal instant) none = true ↔ instant ≤ k.deadline.instant :=
  isValid_none.trans Clock.isWithin_universal

/-- A moment is answered for as clocks in universal time would answer, with the shift. -/
theorem isValid_some :
    k.isValid now (some m) = k.isValid (.universal (m.instant + k.shift m)) none := by
  have hvalid : k.isValid now (some m) = true ↔ m.instant ≤ (k.deadlineFor m).instant :=
    decide_eq_true_iff
  rw [Bool.eq_iff_iff, hvalid, isValid_universal, instant_deadlineFor]
  omega

/-- The answers for moments depend on the instant among those with the same shift, and an
earlier moment with no greater shift is answered for no worse than a later one.  Where there is
no shift, clocks in universal time answer in the same way. -/
theorem valid_by_instant (k : VaultKey) (now : Clock) :
    (∀ instant, k.isValid (.universal instant) none = true ↔ instant ≤ k.deadline.instant) ∧
    (∀ m, k.isValid now (some m) = k.isValid (.universal (m.instant + k.shift m)) none) ∧
    (∀ a b, a.instant ≤ b.instant → k.shift a ≤ k.shift b →
      k.isValid now (some b) = true → k.isValid now (some a) = true) ∧
    (∀ a b, a.instant = b.instant → k.shift a = k.shift b →
      k.isValid now (some a) = k.isValid now (some b)) ∧
    (∀ m, k.shift m = 0 ↔
      m.ahead.isNone = k.deadline.ahead.isNone ∨
        m.ahead.getD 0 = k.deadline.ahead.getD 0) := by
  refine ⟨fun instant => isValid_universal, fun m => isValid_some, ?_, ?_,
    fun m => shift_eq_zero_iff⟩
  · intro a b hle hshift hb
    -- both moments are asked about as instants, each with its own shift
    rw [isValid_some, isValid_universal] at hb
    rw [isValid_some, isValid_universal]
    omega
  · intro a b heq hshift
    rw [isValid_some, isValid_some, heq, hshift]

/-- A key that is valid until the year 2030 starts five and a half hours ahead of universal
time. -/
def eastern : VaultKey :=
  ⟨"s", ⟨Moment.wallOf ⟨2030, 1, 1⟩ 0 0, some 19800⟩⟩

/-- On clocks that are known, the last instant of this key is half past ten in the morning eight
hours behind universal time, and half past six in the evening in universal time, as for the
clock; so it is valid at six. -/
theorem valid_by_instant_eastern :
    let six : Moment := ⟨Moment.wallOf ⟨2029, 12, 31⟩ 64800 0, some 0⟩
    let last : Moment := ⟨Moment.wallOf ⟨2029, 12, 31⟩ 66600 0, some 0⟩
    let abroad : Moment := ⟨Moment.wallOf ⟨2029, 12, 31⟩ 37800 0, some (-28800)⟩
    let now : Clock := .universal 0
    (six.instant ≤ abroad.instant ∧ eastern.shift six ≤ eastern.shift abroad ∧
        eastern.isValid now (some abroad) = true ∧ eastern.isValid now (some six) = true) ∧
      (last.instant = abroad.instant ∧ eastern.shift last = eastern.shift abroad ∧
        eastern.isValid now (some last) = eastern.isValid now (some abroad)) ∧
      (eastern.shift last = 0 ∧
        eastern.isValid now (some last) =
          eastern.isValid (.universal (last.instant + eastern.shift last)) none) := by
  intro six last abroad now
  obtain ⟨-, hclock, hearlier, hsame, hzero⟩ := valid_by_instant eastern now
  -- each of the moments is compared by evaluation
  have hle : six.instant ≤ abroad.instant := by decide +kernel
  have heq : last.instant = abroad.instant := by decide +kernel
  have hsix : eastern.shift six ≤ eastern.shift abroad := by decide +kernel
  have hlast : eastern.shift last = eastern.shift abroad := by decide +kernel
  have hvalid : eastern.isValid now (some abroad) = true := by decide +kernel
  exact ⟨⟨hle, hsix, hvalid, hearlier six abroad hle hsix hvalid⟩,
    ⟨heq, hlast, hsame last abroad heq hlast⟩, (hzero last).mpr (.inl rfl), hclock last⟩

/-- An hour and a half after its last instant the key has expired, for the clock and for a
moment in universal time; but it is valid for the same moment on a clock of which no more is
known. -/
theorem valid_on_unknown_clock :
    let known : Moment := ⟨Moment.wallOf ⟨2029, 12, 31⟩ 72000 0, some 0⟩
    let unknown : Moment := { known with ahead := none }
    let now : Clock := .universal known.instant
    known.instant = unknown.instant ∧ eastern.isValid now (some unknown) = true ∧
      eastern.isValid now (some known) = false ∧ eastern.isValid now none = false := by
  decide +kernel

end VaultKey

/-! ### Senders -/

variable {earlier later : Clock}

/-- Where an entry did not hold a key yet, the local clock was set back since over the deadline
of every such key that is valid. -/
theorem VaultClient.isSetBackOver_of_not_holds {c : VaultClient} {key : String}
    (h : earlier.instant ≤ later.instant) (hnot : ¬ c.Holds earlier key) {k : VaultKey}
    (hk : k ∈ c.keys) (hsecret : k.secret = key) (hlater : later.IsWithin k.deadline) :
    earlier.IsSetBackOver later k.deadline := by
  by_contra hforward
  exact hnot ⟨k, hk, hsecret, (Clock.isWithin_earlier_iff h hlater).mpr hforward⟩

namespace Vault

/-- Whoever is known at an instant is known by the same subjects at every earlier one, unless
nobody was then, and the local clock was set back since over the deadline of every valid key
that the request presents.  Where it was not set back over any deadline of the vault, a request
that is refused is refused at every later instant. -/
theorem known_before (v : Vault) (request : Request) (h : earlier.instant ≤ later.instant) :
    (∀ s, (v.resolve later request).subjects = some s →
      (v.resolve earlier request).subjects = some s ∨
        (v.resolve earlier request).subjects = none ∧
          ∃ id key address c, Presents request id key address ∧
            v.find? id (some address) = some c ∧ c.Holds later key ∧
            ∀ k ∈ c.keys, k.secret = key → later.IsWithin k.deadline →
              earlier.IsSetBackOver later k.deadline) ∧
    ((∀ c ∈ v.clients, ∀ k ∈ c.keys, ¬ earlier.IsSetBackOver later k.deadline) →
      (∀ s, (v.resolve later request).subjects = some s →
        (v.resolve earlier request).subjects = some s) ∧
      ((v.resolve earlier request).subjects = none →
        (v.resolve later request).subjects = none)) := by
  have hknown : ∀ s, (v.resolve later request).subjects = some s →
      (v.resolve earlier request).subjects = some s ∨
        (v.resolve earlier request).subjects = none ∧
          ∃ id key address c, Presents request id key address ∧
            v.find? id (some address) = some c ∧ c.Holds later key ∧
            ∀ k ∈ c.keys, k.secret = key → later.IsWithin k.deadline →
              earlier.IsSetBackOver later k.deadline := by
    intro s hs
    -- the same entry is found at both instants
    obtain ⟨id, key, address, c, hpresents, hfound, hholds, hname⟩ := subjects_eq_some_iff.mp hs
    by_cases hbefore : c.Holds earlier key
    · exact .inl (subjects_eq_some_iff.mpr
        ⟨id, key, address, c, hpresents, hfound, hbefore, hname⟩)
    · refine .inr ⟨?_, id, key, address, c, hpresents, hfound, hholds, fun k hk hsecret =>
        VaultClient.isSetBackOver_of_not_holds h hbefore hk hsecret⟩
      rw [subjects_of_presents hpresents, hfound]
      exact if_neg fun hmem => hbefore (VaultClient.mem_validSecrets.mp hmem)
  refine ⟨hknown, fun hforward => ?_⟩
  have hsame : ∀ s, (v.resolve later request).subjects = some s →
      (v.resolve earlier request).subjects = some s := by
    intro s hs
    obtain heq | ⟨-, id, key, address, c, -, hfound, ⟨k, hk, hsecret, hlater⟩, hback⟩ := hknown s hs
    · exact heq
    · -- the key that makes the sender known would have come back
      exact absurd (hback k hk hsecret hlater) (hforward c (mem_of_find? hfound) k hk)
  refine ⟨hsame, fun hnone => Option.eq_none_iff_forall_ne_some.mpr fun s hs => ?_⟩
  exact Option.some_ne_none s ((hsame s hs).symm.trans hnone)

/-- On clocks in universal time, the archive is known until the instant of its deadline, and at
no later one. -/
theorem known_before_deadline :
    let request := requestFrom "10.0.0.8" "reporting" "west"
    let subjects (instant : Int) := (twoSites.resolve (.universal instant) request).subjects
    (3000000 ≤ (5000000 : Int) ∧ subjects 5000000 = some "ARCHIVE" ∧
        subjects 3000000 = some "ARCHIVE") ∧
      (5000001 ≤ (9000000 : Int) ∧ subjects 5000001 = none ∧ subjects 9000000 = none) := by
  intro request subjects
  have hlast : subjects 5000000 = some "ARCHIVE" := by decide +kernel
  have hover : subjects 5000001 = none := by decide +kernel
  -- such clocks do not go back
  have hforward : ∀ {a b : Int}, a ≤ b → ∀ c ∈ twoSites.clients, ∀ k ∈ c.keys,
      ¬ (Clock.universal a).IsSetBackOver (.universal b) k.deadline :=
    fun hle _ _ _ _ => Clock.not_isSetBackOver hle
  have hfirst : (Clock.universal 3000000).instant ≤ (Clock.universal 5000000).instant := by decide
  have hsecond : (Clock.universal 5000001).instant ≤ (Clock.universal 9000000).instant := by decide
  exact ⟨⟨by decide, hlast,
      ((known_before twoSites request hfirst).2 (hforward (by decide))).1 "ARCHIVE" hlast⟩,
    by decide, hover, ((known_before twoSites request hsecond).2 (hforward (by decide))).2 hover⟩

/-- A vault with a key until half past one on the night in which New York leaves summer time. -/
def autumn : Vault :=
  ⟨[⟨"reporting", "Reporting", ["10.0.0.7"],
    [⟨"s", ⟨Moment.wallOf ⟨2030, 11, 3⟩ 5400 0, none⟩⟩]⟩]⟩

/-- In New York the key is refused a quarter of an hour after its deadline, at a quarter to six
in universal time; half an hour later the local clock shows a quarter past one again, and the
key is accepted. -/
theorem known_after_setback :
    let request := requestFrom "10.0.0.7" "reporting" "s"
    let summer : Clock :=
      ⟨Moment.wallOf ⟨2030, 11, 3⟩ 20700 0, Moment.wallOf ⟨2030, 11, 3⟩ 6300 0⟩
    let winter : Clock :=
      ⟨Moment.wallOf ⟨2030, 11, 3⟩ 22500 0, Moment.wallOf ⟨2030, 11, 3⟩ 4500 0⟩
    summer.instant ≤ winter.instant ∧
      (autumn.resolve summer request).subjects = none ∧
      (autumn.resolve winter request).subjects = some "REPORTING" := by
  decide +kernel

end Vault

end RouteAccess
