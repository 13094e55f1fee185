/-
RouteAccess/Proofs/Policy/Expansion.lean

What a statement stands for.  It names some of the verbs and speaks about all of
them: the verbs that it declares and the remaining ones are together the fixed
set, in another order (`declared_append_perm`).  So there is one rule for each
verb and subject (`mem_expansion_iff`), and all rules of a statement together are
even: each path and subject has equally many rules for each verb
(`areNormal_of_expandStatement`).  Verbs and subjects stand in the order in which
they are first mentioned (`firstMentions_eraseDups`).

Only a statement without a path or with an unknown verb stands for no rules
(`expandStatement_cases`).

Rules that are normal and even stay so under what happens to rule sets: joining
lists, and leaving rules out altogether.
-/
import Mathlib.Data.List.Basic
import Mathlib.Data.List.Count
import Mathlib.Data.List.Nodup
import RouteAccess.Policy.Statement
import RouteAccess.Proofs.Policy.Token

namespace RouteAccess

/-! ### First mentions -/

/-- Whether a list holds what is mentioned in another one, each once and in the order in
which it is first mentioned there. -/
structure FirstMentions (distinct mentioned : List String) : Prop where
  mem_iff : ∀ t, t ∈ distinct ↔ t ∈ mentioned
  order : distinct.Pairwise fun t u => mentioned.idxOf t < mentioned.idxOf u

theorem FirstMentions.nodup {distinct mentioned : List String}
    (h : FirstMentions distinct mentioned) : distinct.Nodup := by
  refine h.order.imp ?_
  rintro t u hlt rfl
  exact absurd hlt (Nat.lt_irrefl _)

/-- A further mention counts only if it is the first one. -/
theorem eraseDups_append_singleton (l : List String) (t : String) :
    (l ++ [t]).eraseDups = if t ∈ l then l.eraseDups else l.eraseDups ++ [t] := by
  rw [List.eraseDups_append]
  by_cases h : t ∈ l
  · simp [List.removeAll, h]
  · simp [List.removeAll, h, List.eraseDups_cons]

/-- Without their repetitions the members of a list stand in the order of their first mentions. -/
theorem firstMentions_eraseDups (l : List String) : FirstMentions l.eraseDups l where
  mem_iff := fun _ => List.mem_eraseDups
  order := by
    induction l using List.reverseRecOn with
    | nil => exact List.Pairwise.nil
    | append_singleton l t ih =>
      -- what was mentioned before stands where it stood
      have hbefore : l.eraseDups.Pairwise fun u v => (l ++ [t]).idxOf u < (l ++ [t]).idxOf v := by
        refine ih.imp_of_mem ?_
        intro u v hu hv hlt
        rwa [List.idxOf_append_of_mem (List.mem_eraseDups.mp hu),
          List.idxOf_append_of_mem (List.mem_eraseDups.mp hv)]
      rw [eraseDups_append_singleton]
      by_cases h : t ∈ l
      · rw [if_pos h]
        exact hbefore
      · rw [if_neg h, List.pairwise_append]
        refine ⟨hbefore, List.pairwise_singleton _ _, ?_⟩
        intro u hu v hv
        have hmem : u ∈ l := List.mem_eraseDups.mp hu
        rw [List.mem_singleton.mp hv, List.idxOf_append_of_mem hmem,
          List.idxOf_append_of_notMem h]
        exact (List.idxOf_lt_length_of_mem hmem).trans_le (Nat.le_add_right _ _)

/-! ### What is declared -/

/-- Whether a list declares a verb outside the fixed set, and no wildcard. -/
def HasUnknownVerb (list : Option String) : Prop :=
  tokens list ≠ [] ∧ wildcard ∉ tokens list ∧ ∃ t ∈ tokens list, t ∉ verbs

/-- Whether these are the verbs that a list declares: all of them, if it is empty or has
a wildcard, and else those that it mentions. -/
def DeclaresVerbs (list : Option String) (declared : List String) : Prop :=
  if tokens list = [] ∨ wildcard ∈ tokens list then declared = verbs
  else FirstMentions declared (tokens list)

/-- Whether these are the subjects that a list declares: the wildcard, if it is empty, and
else those that it mentions. -/
def DeclaresSubjects (list : Option String) (asked : List String) : Prop :=
  if tokens list = [] then asked = [wildcard] else FirstMentions asked (tokens list)

/-- A list of verbs is refused exactly if it has an unknown verb and no wildcard. -/
theorem expandVerbs_cases (list : Option String) :
    (HasUnknownVerb list ∧ ∃ fault, expandVerbs list = .error fault) ∨
      (¬ HasUnknownVerb list ∧ ∃ declared, expandVerbs list = .ok declared ∧
        DeclaresVerbs list declared) := by
  rw [expandVerbs]
  by_cases hall : tokens list = [] ∨ wildcard ∈ tokens list
  · refine .inr ⟨?_, verbs, if_pos hall, by rw [DeclaresVerbs, if_pos hall]⟩
    rintro ⟨hne, hnot, -⟩
    exact hall.elim hne hnot
  · rw [if_neg hall]
    obtain ⟨hne, hnot⟩ := not_or.mp hall
    -- without a wildcard each token has to be a verb of the fixed set
    by_cases hunknown : (tokens list).filter (· ∉ verbs) = []
    · refine .inr ⟨?_, (tokens list).eraseDups, if_neg (not_not_intro hunknown), ?_⟩
      · rintro ⟨-, -, t, ht, hverb⟩
        rw [List.filter_eq_nil_iff] at hunknown
        exact hunknown t ht (decide_eq_true hverb)
      · rw [DeclaresVerbs, if_neg hall]
        exact firstMentions_eraseDups _
    · obtain ⟨t, ht⟩ := List.exists_mem_of_ne_nil _ hunknown
      rw [List.mem_filter, decide_eq_true_eq] at ht
      exact .inl ⟨⟨hne, hnot, t, ht⟩, _, if_pos hunknown⟩

/-- The subjects that a list declares are its tokens, or the wildcard if there is none. -/
theorem declaresSubjects_expandSubjects (list : Option String) :
    DeclaresSubjects list (expandSubjects list) := by
  rw [DeclaresSubjects, expandSubjects]
  by_cases hall : tokens list = []
  · rw [if_pos hall, if_pos hall]
  · rw [if_neg hall, if_neg hall]
    exact firstMentions_eraseDups _

theorem nodup_expandSubjects (list : Option String) : (expandSubjects list).Nodup := by
  rw [expandSubjects]
  split
  · exact List.nodup_singleton wildcard
  · exact (firstMentions_eraseDups _).nodup

/-- The verbs of a list that is in order: some of the fixed set, each once. -/
theorem expandVerbs_ok {list : Option String} {declared : List String}
    (h : expandVerbs list = .ok declared) : declared ⊆ verbs ∧ declared.Nodup := by
  rcases expandVerbs_cases list with ⟨-, fault, hfault⟩ | ⟨hknown, declared', hok, hdeclares⟩
  · exact absurd (h.symm.trans hfault) (by simp)
  · obtain rfl := Except.ok.inj (h.symm.trans hok)
    by_cases hall : tokens list = [] ∨ wildcard ∈ tokens list
    · rw [DeclaresVerbs, if_pos hall] at hdeclares
      rw [hdeclares]
      exact ⟨List.Subset.refl _, by decide⟩
    · rw [DeclaresVerbs, if_neg hall] at hdeclares
      obtain ⟨hne, hnot⟩ := not_or.mp hall
      refine ⟨fun v hv => ?_, hdeclares.nodup⟩
      -- a verb outside the fixed set would have been refused
      by_contra hverb
      exact hknown ⟨hne, hnot, v, (hdeclares.mem_iff v).mp hv, hverb⟩

/-- The subjects of a list are tokens. -/
theorem isToken_of_mem_expandSubjects {list : Option String} {subject : String}
    (h : subject ∈ expandSubjects list) : IsToken subject := by
  have hdeclares := declaresSubjects_expandSubjects list
  rw [DeclaresSubjects] at hdeclares
  split at hdeclares
  · rw [hdeclares, List.mem_singleton] at h
    rw [h]
    exact isToken_wildcard
  · exact isToken_of_mem_tokens ((hdeclares.mem_iff subject).mp h)

/-! ### Verbs -/

theorem upper_of_mem_verbs {v : String} (h : v ∈ verbs) : Text.upper v = v :=
  (isToken_of_mem_verbs h).upper_eq

theorem nodup_verbs : verbs.Nodup := by decide

/-- The declared verbs and the remaining ones are together the fixed set. -/
theorem declared_append_perm {declared : List String} (hsub : declared ⊆ verbs)
    (hnodup : declared.Nodup) : (declared ++ verbs.filter (· ∉ declared)).Perm verbs := by
  -- neither side has a verb twice, so it is enough that they have the same ones
  rw [List.perm_ext_iff_of_nodup ?_ nodup_verbs]
  · intro v
    rw [List.mem_append, List.mem_filter, decide_eq_true_eq]
    constructor
    · rintro (hv | ⟨hv, -⟩)
      · exact hsub hv
      · exact hv
    · intro hv
      by_cases hd : v ∈ declared
      · exact .inl hd
      · exact .inr ⟨hv, hd⟩
  · refine hnodup.append (nodup_verbs.filter _) fun v hv hr => ?_
    rw [List.mem_filter, decide_eq_true_eq] at hr
    exact hr.2 hv

/-! ### Normal and even rules -/

namespace Rule

/-- What a rule speaks about: its verb, its path and its subject. -/
def topic (r : Rule) : String × String × String :=
  (r.verb, r.path, r.subject)

/-- Whether the parts of a rule are as statements leave them. -/
structure IsNormal (r : Rule) : Prop where
  verb_mem : r.verb ∈ verbs
  path_ne_empty : r.path ≠ ""
  path_eq : Text.lower r.path = r.path
  subject_isToken : IsToken r.subject

/-- A verb of the fixed set and a token stay as they are. -/
theorem normal_eq {policy : Policy} {verb path subject : String} (hverb : verb ∈ verbs)
    (hsubject : IsToken subject) :
    normal policy verb path subject = ⟨policy, verb, Text.lower path, subject⟩ := by
  rw [normal, upper_of_mem_verbs hverb, hsubject.upper_eq]

theorem isNormal_normal {policy : Policy} {verb path subject : String} (hverb : verb ∈ verbs)
    (hpath : path ≠ "") (hsubject : IsToken subject) :
    (normal policy verb path subject).IsNormal := by
  rw [normal_eq hverb hsubject]
  exact ⟨hverb, Text.lower_ne_empty hpath, Text.lower_lower path, hsubject⟩

end Rule

/-- Whether all topics that differ only in the verb occur equally often. -/
def IsEven (topics : List (String × String × String)) : Prop :=
  ∀ path subject, ∀ v ∈ verbs, ∀ w ∈ verbs,
    topics.count (v, path, subject) = topics.count (w, path, subject)

/-- Whether rules are normal, with equally many for each verb. -/
structure AreNormal (rules : List Rule) : Prop where
  isNormal : ∀ r ∈ rules, r.IsNormal
  isEven : IsEven (rules.map Rule.topic)

theorem areNormal_nil : AreNormal [] where
  isNormal := by simp
  isEven := by
    intro path subject v _ w _
    rfl

/-- Rules in normal form may be put behind others. -/
theorem AreNormal.append {a b : List Rule} (ha : AreNormal a) (hb : AreNormal b) :
    AreNormal (a ++ b) where
  isNormal := List.forall_mem_append.mpr ⟨ha.isNormal, hb.isNormal⟩
  isEven := by
    intro path subject v hv w hw
    rw [List.map_append, List.count_append, List.count_append,
      ha.isEven path subject v hv w hw, hb.isEven path subject v hv w hw]

/-- Rules in normal form may be gathered from many lists. -/
theorem AreNormal.flatMap {α : Type} {f : α → List Rule} {l : List α}
    (h : ∀ a ∈ l, AreNormal (f a)) : AreNormal (l.flatMap f) := by
  induction l with
  | nil => exact areNormal_nil
  | cons a rest ih =>
    obtain ⟨ha, hrest⟩ := List.forall_mem_cons.mp h
    rw [List.flatMap_cons]
    exact ha.append (ih hrest)

/-! ### The rules of a statement -/

variable {policy : Policy} {path subject : String} {declared : List String}

/-- The rules for one subject speak about each verb once. -/
theorem topics_rulesFor (hsub : declared ⊆ verbs) (hnodup : declared.Nodup) :
    ((rulesFor policy declared path subject).map Rule.topic).Perm
      (verbs.map fun v => (v, Text.lower path, Text.upper subject)) := by
  have htopics : (rulesFor policy declared path subject).map Rule.topic
      = (declared ++ verbs.filter (· ∉ declared)).map
          fun v => (Text.upper v, Text.lower path, Text.upper subject) := by
    rw [rulesFor, List.map_append, List.map_map, List.map_map, List.map_append]
    rfl
  -- what is declared and what is not come to the fixed set, whose verbs are in upper case
  rw [htopics]
  refine ((declared_append_perm hsub hnodup).map _).trans ?_
  rw [List.map_congr_left]
  intro v hv
  rw [upper_of_mem_verbs hv]

/-- Every verb occurs once in the fixed set, so it occurs once with a path and a
subject too. -/
theorem isEven_verbs (path subject : String) :
    IsEven (verbs.map fun v => (v, path, subject)) := by
  have hinj : Function.Injective fun v : String => (v, path, subject) := by
    intro v w h
    exact congrArg Prod.fst h
  intro path' subject' v hv w hw
  by_cases h : path' = path ∧ subject' = subject
  · obtain ⟨rfl, rfl⟩ := h
    rw [List.count_map_of_injective verbs _ hinj v, List.count_map_of_injective verbs _ hinj w,
      List.count_eq_one_of_mem nodup_verbs hv, List.count_eq_one_of_mem nodup_verbs hw]
  · -- with another path or subject there is no such topic at all
    have hnot : ∀ u, (u, path', subject') ∉ verbs.map fun v => (v, path, subject) := by
      intro u hu
      obtain ⟨t, -, ht⟩ := List.mem_map.mp hu
      simp only [Prod.mk.injEq] at ht
      exact h ⟨ht.2.1.symm, ht.2.2.symm⟩
    rw [List.count_eq_zero_of_not_mem (hnot v), List.count_eq_zero_of_not_mem (hnot w)]

/-- The policy that a statement has for a verb: its own for those that it declares, and
the other one for the remaining ones. -/
def effect (policy : Policy) (declared : List String) (v : String) : Policy :=
  if v ∈ declared then policy else policy.invert

/-- A subject has one rule for each verb of the fixed set, with the effect on this verb. -/
theorem mem_rulesFor_iff {r : Rule} (hsub : declared ⊆ verbs) :
    r ∈ rulesFor policy declared path subject ↔
      ∃ v ∈ verbs, r = Rule.normal (effect policy declared v) v path subject := by
  rw [rulesFor, List.mem_append, List.mem_map, List.mem_map]
  constructor
  · -- the first rules are for declared verbs, the others for the rest of the fixed set
    rintro (⟨v, hv, rfl⟩ | ⟨v, hv, rfl⟩)
    · exact ⟨v, hsub hv, by rw [effect, if_pos hv]⟩
    · rw [List.mem_filter, decide_eq_true_eq] at hv
      exact ⟨v, hv.1, by rw [effect, if_neg hv.2]⟩
  · rintro ⟨v, hv, rfl⟩
    by_cases hd : v ∈ declared
    · exact .inl ⟨v, hd, by rw [effect, if_pos hd]⟩
    · refine .inr ⟨v, ?_, by rw [effect, if_neg hd]⟩
      rw [List.mem_filter, decide_eq_true_eq]
      exact ⟨hv, hd⟩

/-- The rules for a subject are in normal form. -/
theorem areNormal_rulesFor (hsub : declared ⊆ verbs) (hnodup : declared.Nodup)
    (hpath : path ≠ "") (hsubject : IsToken subject) :
    AreNormal (rulesFor policy declared path subject) where
  isNormal := by
    intro r hr
    obtain ⟨v, hv, rfl⟩ := (mem_rulesFor_iff hsub).mp hr
    exact Rule.isNormal_normal hv hpath hsubject
  isEven := by
    intro path' subject' v hv w hw
    rw [(topics_rulesFor hsub hnodup).count_eq, (topics_rulesFor hsub hnodup).count_eq]
    exact isEven_verbs _ _ path' subject' v hv w hw

/-- Whether a statement is refused: it has no path, or an unknown verb. -/
def IsFaulty (list path : Option String) : Prop :=
  path.getD "" = "" ∨ HasUnknownVerb list

/-- A statement is refused if it is faulty, for the same reason whatever its policy is; if
it is not, it stands for rules. -/
theorem expandStatement_cases (list path subjects : Option String) :
    (IsFaulty list path ∧
      ∃ fault, ∀ policy, expandStatement policy list path subjects = .error fault) ∨
    (¬ IsFaulty list path ∧ ∃ declared, expandVerbs list = .ok declared ∧
      DeclaresVerbs list declared ∧ ∀ policy, expandStatement policy list path subjects
        = .ok ((expandSubjects subjects).flatMap (rulesFor policy declared (path.getD "")))) := by
  cases path with
  | none => exact .inl ⟨.inl rfl, _, fun _ => rfl⟩
  | some pattern =>
    by_cases hpath : pattern = ""
    · exact .inl ⟨.inl hpath, _, fun _ => by rw [expandStatement, if_pos hpath]⟩
    · rcases expandVerbs_cases list with
        ⟨hunknown, fault, hfault⟩ | ⟨hknown, declared, hok, hdeclares⟩
      · refine .inl ⟨.inr hunknown, fault, fun _ => ?_⟩
        rw [expandStatement, if_neg hpath, hfault]
        rfl
      · -- the path and the verbs are the only things that can be at fault
        have hnot : ¬ IsFaulty list (some pattern) := fun hfaulty => hfaulty.elim hpath hknown
        refine .inr ⟨hnot, declared, hok, hdeclares, fun _ => ?_⟩
        rw [expandStatement, if_neg hpath, hok]
        rfl

/-- A statement that expands has a path and verbs in order. -/
theorem expandStatement_ok {list path subjects : Option String} {rules : List Rule}
    (h : expandStatement policy list path subjects = .ok rules) :
    ∃ pattern declared, path = some pattern ∧ pattern ≠ "" ∧ expandVerbs list = .ok declared ∧
      rules = (expandSubjects subjects).flatMap (rulesFor policy declared pattern) := by
  rcases expandStatement_cases list path subjects with
    ⟨-, fault, hfault⟩ | ⟨hnot, declared, hverbs, -, hok⟩
  · exact absurd (h.symm.trans (hfault policy)) (by simp)
  · obtain ⟨hpath, -⟩ := not_or.mp hnot
    cases path with
    | none => exact absurd rfl hpath
    | some pattern =>
      exact ⟨pattern, declared, rfl, hpath, hverbs, Except.ok.inj (h.symm.trans (hok policy))⟩

/-- The rules of a statement: one for each verb of the fixed set and each of its subjects. -/
theorem mem_expansion_iff {list subjects : Option String} {rules : List Rule} {r : Rule}
    (h : expandStatement policy list (some path) subjects = .ok rules)
    (hdeclared : expandVerbs list = .ok declared) :
    r ∈ rules ↔ ∃ subject ∈ expandSubjects subjects, ∃ v ∈ verbs,
      r = ⟨effect policy declared v, v, Text.lower path, subject⟩ := by
  -- the list declares its verbs in one way only
  obtain ⟨pattern, declared', hpattern, -, hdeclared', rfl⟩ := expandStatement_ok h
  obtain rfl := Option.some.inj hpattern
  obtain rfl := Except.ok.inj (hdeclared.symm.trans hdeclared')
  obtain ⟨hsub, -⟩ := expandVerbs_ok hdeclared
  rw [List.mem_flatMap]
  refine exists_congr fun subject => and_congr_right fun hsubject => ?_
  rw [mem_rulesFor_iff hsub]
  refine exists_congr fun v => and_congr_right fun hv => ?_
  rw [Rule.normal_eq hv (isToken_of_mem_expandSubjects hsubject)]

/-- The rules of a statement are in normal form. -/
theorem areNormal_of_expandStatement {list path subjects : Option String} {rules : List Rule}
    (h : expandStatement policy list path subjects = .ok rules) : AreNormal rules := by
  obtain ⟨pattern, declared, rfl, hpath, hverbs, rfl⟩ := expandStatement_ok h
  obtain ⟨hsub, hnodup⟩ := expandVerbs_ok hverbs
  refine .flatMap fun subject hsubject => ?_
  exact areNormal_rulesFor hsub hnodup hpath (isToken_of_mem_expandSubjects hsubject)

end RouteAccess
