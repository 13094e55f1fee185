/-
RouteAccess/Proofs/Pattern/Recency.lean

Which patterns are kept.  What a cache holds is determined by the patterns that were
compiled since it was cleared last (`compiled`, the latest first): a cache without a
limit would hold each of them once, in the order of their last use (`byLastUse`), and
the cache at hand holds the beginning of that list (`Records`):

    cache.entries.map Matcher.pattern = (byLastUse patterns).take capacity.

A pattern stands in that list behind those that were compiled after it, each once
(`mem_take_byLastUse`), so it is kept exactly while they are fewer than the capacity.
The invariant does not look at the matchers themselves.  That the one at hand is the
very one that was handed out before takes their serial numbers: what is handed out is
kept until it is dropped, and what is compiled anew has a number of its own
(`handedOut_eq_iff`).
-/
import Mathlib.Data.Finset.Card
import Mathlib.Data.List.Basic
import RouteAccess.Pattern.Cache
import RouteAccess.Proofs.Pattern.Matching

namespace RouteAccess

namespace MatcherCache

/-! ### Histories -/

/-- The patterns compiled since the last clearing, the latest first, after one more use. -/
def Use.record (patterns : List String) : Use → List String
  | compile pattern => pattern :: patterns
  | clear => []

/-- The patterns that are compiled after the last clearing, the latest first. -/
def compiled (uses : List Use) : List String :=
  uses.foldl Use.record []

/-- Whether a pattern is among those compiled, the latest first, with fewer other ones
after it than a cache holds. -/
def IsRecent (patterns : List String) (pattern : String) : Prop :=
  pattern ∈ patterns ∧ (patterns.takeWhile (· ≠ pattern)).toFinset.card < capacity

instance (patterns : List String) (pattern : String) : Decidable (IsRecent patterns pattern) :=
  inferInstanceAs (Decidable (_ ∧ _))

/-- Patterns, each once, in the order of their last use. -/
def byLastUse : List String → List String
  | [] => []
  | pattern :: earlier => pattern :: (byLastUse earlier).filter (· ≠ pattern)

variable {patterns : List String} {pattern : String}

/-- Patterns in the order of their last use are those that were used. -/
theorem mem_byLastUse : pattern ∈ byLastUse patterns ↔ pattern ∈ patterns := by
  induction patterns with
  | nil => rfl
  | cons latest earlier ih =>
    by_cases h : pattern = latest
    · simp [byLastUse, h]
    · simp [byLastUse, h, ih]

/-- In the order of last use no pattern stands twice. -/
theorem nodup_byLastUse (patterns : List String) : (byLastUse patterns).Nodup := by
  induction patterns with
  | nil => exact List.nodup_nil
  | cons latest earlier ih =>
    rw [byLastUse, List.nodup_cons]
    refine ⟨fun h => ?_, ih.filter _⟩
    simpa using List.of_mem_filter h

/-- In the order of last use there are as many patterns as different ones were used. -/
theorem length_byLastUse (patterns : List String) :
    (byLastUse patterns).length = patterns.toFinset.card := by
  rw [← List.toFinset_card_of_nodup (nodup_byLastUse patterns)]
  congr 1
  ext p
  rw [List.mem_toFinset, List.mem_toFinset, mem_byLastUse]

/-- What is used after a pattern is, each once, what stands before it. -/
theorem takeWhile_byLastUse (patterns : List String) (pattern : String) :
    (byLastUse patterns).takeWhile (· ≠ pattern)
      = byLastUse (patterns.takeWhile (· ≠ pattern)) := by
  induction patterns with
  | nil => rfl
  | cons latest earlier ih =>
    by_cases h : latest = pattern
    · simp [byLastUse, h]
    · -- dropping the latest one does not end the search earlier, for it is another one
      have hne : (fun p => !decide (p ≠ latest) || decide (p ≠ pattern))
          = fun p => decide (p ≠ pattern) := by
        funext p
        by_cases hp : p = latest
        · simp [hp, h]
        · simp [hp]
      simp only [byLastUse, List.takeWhile_cons, ne_eq, h, not_false_eq_true, decide_true, if_true]
      rw [← ih, List.takeWhile_filter, hne]

/-- A pattern stands behind those before its first place. -/
theorem idxOf_eq_length_takeWhile (l : List String) (pattern : String) :
    l.idxOf pattern = (l.takeWhile (· ≠ pattern)).length := by
  induction l with
  | nil => rfl
  | cons first rest ih =>
    by_cases h : first = pattern
    · simp [h]
    · simp [h, ih]

/-- A pattern is among the `n` used last if fewer than `n` others were used after it. -/
theorem mem_take_byLastUse {n : Nat} :
    pattern ∈ (byLastUse patterns).take n ↔
      pattern ∈ patterns ∧ (patterns.takeWhile (· ≠ pattern)).toFinset.card < n := by
  by_cases h : pattern ∈ patterns
  · rw [List.mem_take_iff_idxOf_lt (mem_byLastUse.mpr h), idxOf_eq_length_takeWhile,
      takeWhile_byLastUse, length_byLastUse]
    exact ⟨fun hlt => ⟨h, hlt⟩, fun hand => hand.2⟩
  · refine ⟨fun hmem => ?_, fun hand => absurd hand.1 h⟩
    exact absurd (mem_byLastUse.mp (List.mem_of_mem_take hmem)) h

/-! ### Putting a pattern in front -/

/-- If a pattern stands among the first, taking it out makes room for one more. -/
theorem take_filter_of_mem {l : List String} (hnodup : l.Nodup) {n : Nat}
    (h : pattern ∈ l.take (n + 1)) :
    (l.filter (· ≠ pattern)).take n = (l.take (n + 1)).filter (· ≠ pattern) := by
  induction l generalizing n with
  | nil => simp
  | cons first rest ih =>
    obtain ⟨hfirst, hrest⟩ := List.nodup_cons.mp hnodup
    by_cases heq : first = pattern
    · -- it is the first one, and does not come again
      subst heq
      have hall : ∀ p ∈ rest, decide (p ≠ first) = true := by
        intro p hp
        exact decide_eq_true fun hpf => hfirst (hpf ▸ hp)
      have hsome : ∀ p ∈ rest.take n, decide (p ≠ first) = true := fun p hp =>
        hall p (List.mem_of_mem_take hp)
      rw [List.take_succ_cons, List.filter_cons_of_neg (by simp), List.filter_cons_of_neg (by simp),
        List.filter_eq_self.mpr hall, List.filter_eq_self.mpr hsome]
    · cases n with
      | zero =>
        have hnot : pattern ≠ first := fun hpf => heq hpf.symm
        simp [hnot] at h
      | succ n =>
        have hmem : pattern ∈ rest.take (n + 1) := by
          rw [List.take_succ_cons, List.mem_cons] at h
          exact h.resolve_left fun hpf => heq hpf.symm
        rw [List.take_succ_cons, List.filter_cons_of_pos (by simp [heq]),
          List.filter_cons_of_pos (by simp [heq]), List.take_succ_cons, ih hrest hmem]

/-- If it does not, the first ones stay as they are. -/
theorem take_filter_of_notMem {l : List String} {n : Nat} (h : pattern ∉ l.take n) :
    (l.filter (· ≠ pattern)).take n = l.take n := by
  induction l generalizing n with
  | nil => simp
  | cons first rest ih =>
    cases n with
    | zero => rfl
    | succ n =>
      rw [List.take_succ_cons, List.mem_cons, not_or] at h
      have hne : first ≠ pattern := fun heq => h.1 heq.symm
      rw [List.filter_cons_of_pos (by simp [hne]), List.take_succ_cons, List.take_succ_cons,
        ih h.2]

/-! ### One use -/

variable {cache : MatcherCache} {m : Matcher} {use : Use} {uses : List Use}

/-- Whether a matcher of a pattern is kept. -/
def Keeps (cache : MatcherCache) (pattern : String) : Prop :=
  ∃ m ∈ cache.entries, m.pattern = pattern

theorem keeps_iff : cache.Keeps pattern ↔ pattern ∈ cache.entries.map Matcher.pattern :=
  List.mem_map.symm

/-- A pattern that is kept comes to the front and counts as a hit; one that is not is
compiled, drives out the one used longest ago, and counts as a miss. -/
theorem compile_cases (cache : MatcherCache) (pattern : String) :
    (∃ m ∈ cache.entries, m.pattern = pattern ∧
      cache.compile pattern = (m, { cache with
        entries := m :: cache.entries.filter (·.pattern ≠ pattern)
        hits := cache.hits + 1 })) ∨
    (¬ cache.Keeps pattern ∧
      cache.compile pattern = (⟨pattern, cache.next⟩, { cache with
        entries := (⟨pattern, cache.next⟩ :: cache.entries).take capacity
        misses := cache.misses + 1
        next := cache.next + 1 })) := by
  rw [compile]
  split
  · rename_i m hm
    exact .inl ⟨m, List.mem_of_find?_eq_some hm, by simpa using List.find?_some hm, rfl⟩
  · -- a pattern that was not found is that of no entry
    rename_i hnone
    refine .inr ⟨?_, rfl⟩
    rintro ⟨m, hm, hpattern⟩
    exact List.find?_eq_none.mp hnone m hm (decide_eq_true hpattern)

/-- A compilation counts as a hit exactly if the pattern is kept. -/
theorem hits_compile_iff :
    (cache.compile pattern).2.hits = cache.hits + 1 ↔ cache.Keeps pattern := by
  rcases compile_cases cache pattern with ⟨m, hm, hpattern, heq⟩ | ⟨hnot, heq⟩
  · rw [heq]
    exact ⟨fun _ => ⟨m, hm, hpattern⟩, fun _ => rfl⟩
  · rw [heq]
    exact ⟨fun h => absurd h (Nat.succ_ne_self _).symm, fun h => absurd h hnot⟩

/-- What is kept afterwards is the matcher that is handed out, and those of other
patterns that were kept before. -/
theorem mem_entries_compile (h : m ∈ (cache.compile pattern).2.entries) :
    m = (cache.compile pattern).1 ∨ m ∈ cache.entries ∧ m.pattern ≠ pattern := by
  rcases compile_cases cache pattern with ⟨kept, -, -, heq⟩ | ⟨hnot, heq⟩
  · rw [heq] at h ⊢
    rcases List.mem_cons.mp h with hm | hm
    · exact .inl hm
    · obtain ⟨hmem, hne⟩ := List.mem_filter.mp hm
      exact .inr ⟨hmem, of_decide_eq_true hne⟩
  · rw [heq] at h ⊢
    rcases List.mem_cons.mp (List.mem_of_mem_take h) with hm | hm
    · exact .inl hm
    · exact .inr ⟨hm, fun hpattern => hnot ⟨m, hm, hpattern⟩⟩

/-- The latest serial number grows, and the matchers that are kept have earlier ones. -/
theorem next_le_step (cache : MatcherCache) (use : Use) : cache.next ≤ (cache.step use).next := by
  cases use with
  | clear => exact Nat.le_refl _
  | compile pattern =>
    rw [step]
    rcases compile_cases cache pattern with ⟨m, -, -, heq⟩ | ⟨-, heq⟩
    · rw [heq]
    · rw [heq]
      exact Nat.le_succ _

/-! ### The invariant -/

/-- What a cache holds when patterns have been compiled since it was cleared last, the
latest first. -/
structure Records (cache : MatcherCache) (patterns : List String) : Prop where
  entries : cache.entries.map Matcher.pattern = (byLastUse patterns).take capacity
  counters : cache.hits + cache.misses = patterns.length
  serials : ∀ m ∈ cache.entries, m.serial < cache.next

theorem records_new : Records {} [] where
  entries := rfl
  counters := rfl
  serials := by simp

theorem records_clear (cache : MatcherCache) : cache.clear.Records [] where
  entries := rfl
  counters := rfl
  serials := by simp [clear]

theorem Records.keeps_iff_isRecent (h : cache.Records patterns) :
    cache.Keeps pattern ↔ IsRecent patterns pattern := by
  rw [keeps_iff, h.entries, mem_take_byLastUse, IsRecent]

/-- The matcher that is handed out has an earlier serial number than any to come. -/
theorem Records.serial_lt (h : cache.Records patterns) (pattern : String) :
    (cache.compile pattern).1.serial < (cache.compile pattern).2.next := by
  rcases compile_cases cache pattern with ⟨m, hm, -, heq⟩ | ⟨-, heq⟩
  · rw [heq]
    exact h.serials m hm
  · rw [heq]
    exact Nat.lt_succ_self _

/-- A compilation keeps the records: the pattern comes to the front, the last one goes if there is
no room, and one of the counters is raised. -/
theorem Records.compile (h : cache.Records patterns) (pattern : String) :
    (cache.compile pattern).2.Records (pattern :: patterns) := by
  obtain ⟨n, hn⟩ : ∃ n, capacity = n + 1 := ⟨1023, rfl⟩
  have hentries := h.entries
  have hcounters := h.counters
  have hserials : ∀ m ∈ (cache.compile pattern).2.entries,
      m.serial < (cache.compile pattern).2.next := by
    intro m hm
    rcases mem_entries_compile hm with rfl | ⟨hmem, -⟩
    · exact h.serial_lt pattern
    · exact (h.serials m hmem).trans_le (next_le_step cache (.compile pattern))
  refine ⟨?_, ?_, hserials⟩
  · rw [byLastUse, hn, List.take_succ_cons]
    rcases compile_cases cache pattern with ⟨m, hm, hpattern, heq⟩ | ⟨hnot, heq⟩
    · -- a hit: the pattern leaves its place for the front
      have hmem : pattern ∈ (byLastUse patterns).take (n + 1) := by
        rw [← hn, ← hentries]
        exact keeps_iff.mp ⟨m, hm, hpattern⟩
      rw [heq, take_filter_of_mem (nodup_byLastUse patterns) hmem, ← hn, ← hentries]
      simp [hpattern, List.filter_map, Function.comp_def]
    · -- a miss: the last one goes if there is no room
      have hmem : pattern ∉ (byLastUse patterns).take n := by
        intro hlast
        refine hnot (keeps_iff.mpr ?_)
        rw [hentries, hn]
        exact (List.take_subset_take_left _ (Nat.le_succ n)) hlast
      rw [heq, take_filter_of_notMem hmem]
      simp [hn, List.map_take, hentries, List.take_take]
  · rcases compile_cases cache pattern with ⟨m, -, -, heq⟩ | ⟨-, heq⟩
    · rw [heq, List.length_cons]
      show cache.hits + 1 + cache.misses = patterns.length + 1
      omega
    · rw [heq, List.length_cons]
      show cache.hits + (cache.misses + 1) = patterns.length + 1
      omega

theorem Records.step (h : cache.Records patterns) (use : Use) :
    (cache.step use).Records (use.record patterns) := by
  cases use with
  | compile pattern => exact h.compile pattern
  | clear => exact records_clear cache

/-! ### Runs -/

theorem Records.run (h : cache.Records patterns) (uses : List Use) :
    (cache.run uses).Records (uses.foldl Use.record patterns) := by
  induction uses generalizing cache patterns with
  | nil => exact h
  | cons use rest ih => exact ih (h.step use)

theorem records_run (uses : List Use) : (MatcherCache.run {} uses).Records (compiled uses) :=
  records_new.run uses

theorem next_le_run (cache : MatcherCache) (uses : List Use) :
    cache.next ≤ (cache.run uses).next := by
  induction uses generalizing cache with
  | nil => exact Nat.le_refl _
  | cons use rest ih => exact (next_le_step cache use).trans (ih (cache.step use))

/-- A matcher comes into the cache only when its pattern is compiled. -/
theorem mem_entries_of_step (hnot : use ≠ .compile m.pattern) (hm : m ∈ (cache.step use).entries) :
    m ∈ cache.entries := by
  cases use with
  | clear => exact absurd hm List.not_mem_nil
  | compile pattern =>
    rcases mem_entries_compile hm with rfl | ⟨hmem, -⟩
    · -- the matcher that is handed out is one of the pattern
      rw [Pattern.pattern_compile] at hnot
      exact absurd rfl hnot
    · exact hmem

/-- An entry that is not compiled anew was there before. -/
theorem mem_entries_of_run (hnot : .compile m.pattern ∉ uses)
    (hm : m ∈ (cache.run uses).entries) : m ∈ cache.entries := by
  induction uses generalizing cache with
  | nil => exact hm
  | cons use rest ih =>
    rw [List.mem_cons, not_or] at hnot
    exact mem_entries_of_step (Ne.symm hnot.1) (ih hnot.2 hm)

/-- A pattern that was compiled is compiled again, with other uses between: the very
matcher that was handed out is handed out again, if and only if one is kept. -/
theorem handedOut_eq_iff (h : cache.Records patterns) (hnot : .compile pattern ∉ uses) :
    (((cache.compile pattern).2.run uses).compile pattern).1 = (cache.compile pattern).1 ↔
      ((cache.compile pattern).2.run uses).Keeps pattern := by
  generalize hlater : (cache.compile pattern).2.run uses = later
  have hnext : (cache.compile pattern).2.next ≤ later.next := hlater ▸ next_le_run _ uses
  rcases compile_cases later pattern with ⟨m, hm, hpattern, heq⟩ | ⟨hnone, heq⟩
  · refine ⟨fun _ => ⟨m, hm, hpattern⟩, fun _ => ?_⟩
    -- what is kept has been kept since it was handed out
    rw [← hpattern] at hnot
    rw [← hlater] at hm
    rw [heq]
    rcases mem_entries_compile (mem_entries_of_run hnot hm) with hsame | ⟨-, hne⟩
    · exact hsame
    · exact absurd hpattern hne
  · refine ⟨fun hsame => ?_, fun hkept => absurd hkept hnone⟩
    -- what is compiled now has a number that was not in use yet
    have hserial := h.serial_lt pattern
    rw [← hsame, heq] at hserial
    exact absurd (hserial.trans_le hnext) (Nat.lt_irrefl _)

/-! ### What is kept -/

/-- After any uses of a cache that was empty at first, the matcher that is handed out is
one of the pattern as it is written.  It is a hit, and it is the very matcher that was
handed out for the pattern before, if and only if the pattern was compiled since the last
clearing and fewer than `capacity` other patterns were compiled since then.  Each pattern
that is kept is kept once; every compilation since the last clearing is counted as a hit
or as a miss; and as many patterns are kept as were compiled, up to the capacity. -/
theorem kept_while_recent (past : List Use) (pattern : String) :
    let cache := run {} past
    let patterns := compiled past
    (cache.compile pattern).1.pattern = pattern ∧
    ((cache.compile pattern).2.hits = cache.hits + 1 ↔ IsRecent patterns pattern) ∧
    (∀ before between, past = before ++ .compile pattern :: between →
      .compile pattern ∉ between →
        ((cache.compile pattern).1 = ((run {} before).compile pattern).1 ↔
          IsRecent patterns pattern)) ∧
    (cache.entries.map Matcher.pattern).Nodup ∧
    (∀ other, other ∈ cache.entries.map Matcher.pattern ↔ IsRecent patterns other) ∧
    cache.hits + cache.misses = patterns.length ∧
    cache.size = min capacity patterns.toFinset.card := by
  intro cache patterns
  have hrecords : cache.Records patterns := records_run past
  have hrecent : ∀ {p}, cache.Keeps p ↔ IsRecent patterns p := hrecords.keeps_iff_isRecent
  refine ⟨Pattern.pattern_compile cache pattern, ?_, ?_, ?_, ?_, hrecords.counters, ?_⟩
  · exact hits_compile_iff.trans hrecent
  · intro before between hpast hnot
    -- the uses before, the compilation and the uses between make up the past
    have hcache : cache = ((run {} before).compile pattern).2.run between := by
      show run {} past = _
      rw [hpast, run, List.foldl_append]
      rfl
    rw [← hrecent, hcache]
    exact handedOut_eq_iff (records_run before) hnot
  · rw [hrecords.entries]
    exact (nodup_byLastUse patterns).sublist (List.take_sublist _ _)
  · intro other
    rw [← keeps_iff]
    exact hrecent
  · rw [size, ← List.length_map (f := Matcher.pattern), hrecords.entries, List.length_take,
      length_byLastUse]

/-- A pattern is kept beside the one that differs from it in case, and comes back as the
matcher that it was; after a clearing it is compiled anew. -/
theorem kept_while_recent_until_cleared :
    let first := (({} : MatcherCache).compile "/a").1
    let kept := run {} [.compile "/a", .compile "/A", .compile "/b", .compile "/A"]
    let cleared := run {} [.compile "/a", .compile "/A", .clear, .compile "/b"]
    (kept.compile "/a").1 = first ∧ kept.size = 3 ∧ kept.hits + kept.misses = 4 ∧
      (cleared.compile "/a").1 ≠ first ∧ cleared.size = 1 := by
  intro first kept cleared
  obtain ⟨-, -, hkept, -, -, hcalls, hsize⟩ :=
    kept_while_recent [.compile "/a", .compile "/A", .compile "/b", .compile "/A"] "/a"
  obtain ⟨-, -, hcleared, -, -, -, hone⟩ :=
    kept_while_recent [.compile "/a", .compile "/A", .clear, .compile "/b"] "/a"
  refine ⟨?_, hsize, hcalls, ?_, hone⟩
  · exact (hkept [] _ rfl (by decide)).mpr (by decide)
  · -- between the two compilations the cache was cleared, so none is recent
    intro hsame
    have hrecent := (hcleared [] _ rfl (by decide)).mp hsame
    exact absurd hrecent (by decide)

end MatcherCache

end RouteAccess
