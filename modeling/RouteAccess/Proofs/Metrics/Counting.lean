/-
RouteAccess/Proofs/Metrics/Counting.lean

What metrics tell about the things that were recorded in them, one after the other.
A tally into which rows are entered (`Tally.addAll`) counts each row as often as it
was entered, whatever stood in it before:

    (t.addAll rows).count row = t.count row + rows.count row,

its counts add up to the number of entries, also over the rows of one kind
(`totalOf_addAll`), and no other row stands in it (`mem_keys_addAll`).

A duration that is a number falls into exactly one bucket of a histogram, the last
one at the latest.  So where every decision is recorded with its duration, there are
as many durations as the counts of the decisions add up to (`IsBalanced`).
-/
import RouteAccess.Metrics.Basic

namespace RouteAccess

/-! ### Tallies -/

namespace Tally

/-- The tally with one more of each of several rows. -/
def addAll (t : Tally) (rows : List (List String)) : Tally :=
  rows.foldl add t

/-- The rows that stand in a tally. -/
def keys (t : Tally) : List (List String) :=
  t.rows.map (·.1)

/-- The sum of the counts of the rows that meet a condition. -/
def totalOf (t : Tally) (p : List String → Bool) : Nat :=
  ((t.rows.filter fun r => p r.1).map (·.2)).foldr (· + ·) 0

variable (t : Tally) (row : List String) (rows : List (List String)) (p : List String → Bool)

theorem totalOf_true : t.totalOf (fun _ => true) = t.total := by
  rw [totalOf, List.filter_eq_self.mpr fun _ _ => rfl]
  rfl

/-- A further row counts towards a sum exactly if the sum is about it. -/
theorem totalOf_add : (t.add row).totalOf p = t.totalOf p + if p row then 1 else 0 := by
  obtain ⟨entries⟩ := t
  simp only [totalOf, add]
  induction entries with
  | nil => cases h : p row <;> simp [raise, h]
  | cons entry rest ih =>
    obtain ⟨r, k⟩ := entry
    by_cases hr : r = row
    · -- the row is there
      subst hr
      cases h : p r <;> simp [raise, h]
      omega
    · cases h : p r <;> simp [raise, hr, h, ih]
      omega

/-- A row that is counted is among the rows from then on. -/
theorem mem_keys_add {key : List String} : key ∈ (t.add row).keys ↔ key ∈ t.keys ∨ key = row := by
  obtain ⟨entries⟩ := t
  simp only [keys, add]
  induction entries with
  | nil => simp [raise]
  | cons entry rest ih =>
    obtain ⟨r, k⟩ := entry
    by_cases hr : r = row
    · -- the row is counted where it stands, and no other one is added
      subst hr
      simp only [raise, if_pos, List.map_cons, List.mem_cons]
      exact (or_iff_left_of_imp Or.inl).symm
    · simp only [raise, if_neg hr, List.map_cons, List.mem_cons, ih, or_assoc]

theorem addAll_append (rows' : List (List String)) :
    t.addAll (rows ++ rows') = (t.addAll rows).addAll rows' :=
  List.foldl_append

/-- A row has been counted as often as it stands in the list. -/
theorem count_addAll : (t.addAll rows).count row = t.count row + rows.count row := by
  rw [addAll]
  induction rows generalizing t with
  | nil => rfl
  | cons r rest ih =>
    rw [List.foldl_cons, ih, count_add, List.count_cons, Nat.add_right_comm, Nat.add_assoc]
    simp only [beq_iff_eq]

/-- A sum has grown by the rows that it is about. -/
theorem totalOf_addAll : (t.addAll rows).totalOf p = t.totalOf p + rows.countP p := by
  rw [addAll]
  induction rows generalizing t with
  | nil => rfl
  | cons r rest ih =>
    rw [List.foldl_cons, ih, totalOf_add, List.countP_cons, Nat.add_right_comm, Nat.add_assoc]

/-- The rows that are counted are those before and those of the list. -/
theorem mem_keys_addAll {key : List String} :
    key ∈ (t.addAll rows).keys ↔ key ∈ t.keys ∨ key ∈ rows := by
  rw [addAll]
  induction rows generalizing t with
  | nil => simp
  | cons r rest ih => rw [List.foldl_cons, ih, mem_keys_add, List.mem_cons, or_assoc]

end Tally

/-! ### Histograms -/

namespace Histogram

variable {x : Binary64}

theorem atMost_infinite (hx : x ≠ .nan) : x.atMost (.infinite false) = true := by
  cases x with
  | finite negative m e => rfl
  | infinite negative => rfl
  | nan => exact absurd rfl hx

/-- A bucket is raised, and none is added. -/
theorem length_fill (x : Binary64) (bounds : List Binary64) (counts : List Nat) :
    (fill x bounds counts).length = counts.length := by
  induction bounds generalizing counts with
  | nil => rfl
  | cons bound bounds ih =>
    cases counts with
    | nil => rfl
    | cons n counts =>
      rw [fill]
      split
      · rfl
      · rw [List.length_cons, ih, List.length_cons]

/-- A duration that one of the bounds is not below falls into one bucket. -/
theorem sum_fill {bounds : List Binary64} {counts : List Nat}
    (hlength : counts.length = bounds.length) (hbound : ∃ b ∈ bounds, x.atMost b = true) :
    (fill x bounds counts).foldr (· + ·) 0 = counts.foldr (· + ·) 0 + 1 := by
  induction bounds generalizing counts with
  | nil =>
    obtain ⟨b, hb, -⟩ := hbound
    cases hb
  | cons bound bounds ih =>
    cases counts with
    | nil => cases hlength
    | cons n counts =>
      rw [fill]
      split
      · rw [List.foldr_cons, List.foldr_cons, Nat.add_right_comm]
      · rename_i hover
        -- not into the first bucket, so into one of the others
        have hrest : ∃ b ∈ bounds, x.atMost b = true := by
          obtain ⟨b, hb, hx⟩ := hbound
          rcases List.mem_cons.mp hb with rfl | hb
          · exact absurd hx hover
          · exact ⟨b, hb, hx⟩
        rw [List.foldr_cons, ih (Nat.succ.inj hlength) hrest, List.foldr_cons, Nat.add_assoc]

/-- Every duration that is a number is counted. -/
theorem count_observe {h : Histogram} (hlength : h.counts.length = bounds.length)
    (hx : x ≠ .nan) : (h.observe x).count = h.count + 1 :=
  sum_fill hlength ⟨.infinite false, by simp [bounds], atMost_infinite hx⟩

end Histogram

/-! ### Decisions with their durations -/

namespace Metrics

/-- What is recorded of decisions: how many there were of each kind, and how long they
took. -/
def decided (m : Metrics) : Tally × Histogram :=
  (m.decisions, m.decisionDurations)

/-- The metrics with several decisions, each with its verb and whether it grants. -/
def recordDecisions (m : Metrics) (seconds : Binary64) (ds : List (String × Bool)) : Metrics :=
  ds.foldl (fun m d => m.recordDecision d.1 d.2 seconds) m

/-- The labels of a decision. -/
def decisionRow (d : String × Bool) : List String :=
  [flagLabel d.2, verbLabel d.1]

variable {m m' : Metrics} {seconds : Binary64} {ds : List (String × Bool)}

theorem recordDecisions_append (m : Metrics) (seconds : Binary64)
    (ds ds' : List (String × Bool)) :
    m.recordDecisions seconds (ds ++ ds')
      = (m.recordDecisions seconds ds).recordDecisions seconds ds' :=
  List.foldl_append

/-- The decisions that are recorded are counted under their labels. -/
theorem decisions_recordDecisions :
    (m.recordDecisions seconds ds).decisions = m.decisions.addAll (ds.map decisionRow) := by
  rw [recordDecisions, Tally.addAll, List.foldl_map]
  induction ds generalizing m with
  | nil => rfl
  | cons d rest ih => exact ih

theorem requests_recordDecisions : (m.recordDecisions seconds ds).requests = m.requests := by
  rw [recordDecisions]
  induction ds generalizing m with
  | nil => rfl
  | cons d rest ih => exact ih

/-- What is recorded about decisions depends on what was recorded about decisions only. -/
theorem decided_recordDecisions (h : m.decided = m'.decided) :
    (m.recordDecisions seconds ds).decided = (m'.recordDecisions seconds ds).decided := by
  rw [recordDecisions, recordDecisions]
  induction ds generalizing m m' with
  | nil => exact h
  | cons d rest ih =>
    obtain ⟨htally, hdurations⟩ := Prod.mk.inj h
    refine ih (Prod.ext ?_ ?_)
    · exact congrArg (Tally.add · _) htally
    · exact congrArg (Histogram.observe · seconds) hdurations

/-- Whether there are as many durations of decisions as decisions. -/
structure IsBalanced (m : Metrics) : Prop where
  buckets : m.decisionDurations.counts.length = Histogram.bounds.length
  count : m.decisionDurations.count = m.decisions.total

theorem isBalanced_new (service : String) : IsBalanced { service := service } := by
  have hnone : Histogram.empty.count = 0 := by decide +kernel
  exact ⟨List.length_map _, hnone⟩

theorem IsBalanced.of_decided (h : m.IsBalanced) (hdecided : m.decided = m'.decided) :
    m'.IsBalanced := by
  obtain ⟨htally, hdurations⟩ := Prod.mk.inj hdecided
  exact ⟨hdurations ▸ h.buckets, hdurations ▸ htally ▸ h.count⟩

/-- Decisions and their durations are recorded together, so there remain as many of the ones as of
the others. -/
theorem IsBalanced.recordDecisions (h : m.IsBalanced) (hseconds : seconds ≠ .nan)
    (ds : List (String × Bool)) : (m.recordDecisions seconds ds).IsBalanced := by
  rw [Metrics.recordDecisions]
  induction ds generalizing m with
  | nil => exact h
  | cons d rest ih =>
    refine ih ⟨?_, ?_⟩
    · exact (Histogram.length_fill _ _ _).trans h.buckets
    · exact (Histogram.count_observe h.buckets hseconds).trans
        ((congrArg (· + 1) h.count).trans (Tally.total_add _ _).symm)

end Metrics

end RouteAccess
