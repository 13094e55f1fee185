/-
RouteAccess/Proofs/Policy/Wording.lean

One query in other words.  The case of letters, the order of subjects and their number,
blanks around them and blank ones between them are matters of wording; and the subject that
stands for all adds nothing that a rule could ask for.  A list of subjects is `Reworded` by
any number of such changes, each made or taken back.

What is read from a list may differ after such a change only in the wildcard
(`Rewording.sameSubjects`), and rules for all subjects do not ask for it.  So the same rules
speak about both queries (`speaking_congr`), and the decision is the same
(`evaluate_reworded`).
-/
import Mathlib.Logic.Relation
import RouteAccess.Proofs.Policy.Decision
import RouteAccess.Proofs.Subject.Joining
import RouteAccess.Proofs.Text.Letters

namespace RouteAccess

/-! ### Reading a list text by text -/

theorem tokensOf_congr {a b : String} (h : Text.smallLetters a = Text.smallLetters b) :
    tokensOf a = tokensOf b := by
  rw [← tokensOf_upper a, Text.upper_congr h, tokensOf_upper]

/-- Blanks around a text change nothing about its tokens. -/
theorem tokensOf_padded {front back : String} (hfront : ∀ c ∈ front.toList, Text.isBlank c = true)
    (hback : ∀ c ∈ back.toList, Text.isBlank c = true) (t : String) :
    tokensOf (front ++ t ++ back) = tokensOf t := by
  have htrim : Text.trim (front ++ t ++ back) = Text.trim t := by
    rw [Text.trim, String.toList_append, String.toList_append,
      Text.trimChars_append_blanks hback, Text.trimChars_blanks_append hfront, Text.trim]
  rw [← tokensOf_trim, htrim, tokensOf_trim]

/-- A text of blanks has no tokens. -/
theorem tokensOf_blank {t : String} (h : ∀ c ∈ t.toList, Text.isBlank c = true) :
    tokensOf t = [] := by
  have hnone : ∀ c ∈ "".toList, Text.isBlank c = true := by simp
  have hpadded := tokensOf_padded h hnone ""
  rw [String.append_empty, String.append_empty] at hpadded
  rw [hpadded, tokensOf_empty]

theorem tokensOf_wildcard : tokensOf wildcard = [wildcard] :=
  isToken_wildcard.tokensOf_eq

/-- The texts between the separators of a list; a missing list has none. -/
def mentions : Option String → List String
  | none => []
  | some s => Text.fields separator s

/-- A list is read text by text. -/
theorem tokens_eq_flatMap_mentions (list : Option String) :
    tokens list = (mentions list).flatMap tokensOf := by
  cases list with
  | none => rfl
  | some s =>
    have hpiece : ∀ piece ∈ Text.cutAt (· == separator) s.toList,
        tokensOf (String.ofList piece) = ([Text.trimChars piece].filter (· ≠ [])).map
          fun cs => String.ofList (Text.upperChars cs) := by
      intro piece hmem
      rw [tokensOf, String.toList_ofList, Text.cutAt_eq_singleton (Text.not_of_mem_cutAt hmem)]
      rfl
    -- cutting the whole list gives the pieces that the texts are made of
    rw [mentions, Text.fields, List.flatMap_map, List.flatMap_congr hpiece, tokens, tokensOf]
    induction Text.cutAt (· == separator) s.toList with
    | nil => rfl
    | cons piece pieces ih =>
      rw [List.flatMap_cons, ← ih, ← List.map_append, ← List.filter_append]
      rfl

/-! ### Changes of a list -/

/-- A change of a list of subjects that should not matter: of the case of letters, of the
order, by a subject that is mentioned again, by blanks around one, by one of nothing but
blanks, or by the one that stands for all. -/
inductive Rewording : List String → List String → Prop
  | recase {texts texts' : List String} :
      texts.map Text.smallLetters = texts'.map Text.smallLetters → Rewording texts texts'
  | reorder {texts texts' : List String} : texts.Perm texts' → Rewording texts texts'
  | again (before after : List String) {t : String} :
      t ∈ before ++ after → Rewording (before ++ after) (before ++ t :: after)
  | pad (before after : List String) (t front back : String) :
      (∀ c ∈ front.toList, Text.isBlank c = true) → (∀ c ∈ back.toList, Text.isBlank c = true) →
        Rewording (before ++ t :: after) (before ++ (front ++ t ++ back) :: after)
  | blank (before after : List String) {t : String} :
      (∀ c ∈ t.toList, Text.isBlank c = true) →
        Rewording (before ++ after) (before ++ t :: after)
  | star (before after : List String) :
      Rewording (before ++ after) (before ++ wildcard :: after)

/-- Whether one list of subjects becomes another by such changes, made or taken back. -/
def Reworded (subjects subjects' : Option String) : Prop :=
  Relation.EqvGen Rewording (mentions subjects) (mentions subjects')

/-- Whether two lists hold the same subjects, apart from the one that stands for all. -/
def SameSubjects (subjects subjects' : List String) : Prop :=
  ∀ t ≠ wildcard, t ∈ subjects ↔ t ∈ subjects'

theorem mem_flatMap_tokensOf_insert {before after : List String} {s t : String} :
    t ∈ (before ++ s :: after).flatMap tokensOf ↔
      t ∈ tokensOf s ∨ t ∈ (before ++ after).flatMap tokensOf := by
  simp only [List.flatMap_append, List.flatMap_cons, List.mem_append]
  tauto

/-- Texts with the same letters, apart from case, have the same tokens. -/
theorem flatMap_tokensOf_congr {texts texts' : List String}
    (h : texts.map Text.smallLetters = texts'.map Text.smallLetters) :
    texts.flatMap tokensOf = texts'.flatMap tokensOf := by
  induction texts generalizing texts' with
  | nil =>
    rw [List.map_eq_nil_iff.mp h.symm]
  | cons s rest ih =>
    obtain ⟨s', rest', rfl, hs, hrest⟩ := List.map_eq_cons_iff.mp h.symm
    rw [List.flatMap_cons, List.flatMap_cons, tokensOf_congr hs.symm, ih hrest.symm]

/-- What is read from a list is the same after a change, apart from the wildcard. -/
theorem Rewording.sameSubjects {texts texts' : List String} (h : Rewording texts texts') :
    SameSubjects (texts.flatMap tokensOf) (texts'.flatMap tokensOf) := by
  intro t ht
  -- each kind of change touches one text, or the order of the texts only
  cases h with
  | recase hcase =>
    rw [flatMap_tokensOf_congr hcase]
  | reorder hperm => exact (hperm.flatMap_right tokensOf).mem_iff
  | again before after hmem =>
    rw [mem_flatMap_tokensOf_insert]
    exact (or_iff_right_of_imp fun htoken => List.mem_flatMap.mpr ⟨_, hmem, htoken⟩).symm
  | pad before after s front back hfront hback =>
    rw [mem_flatMap_tokensOf_insert, mem_flatMap_tokensOf_insert, tokensOf_padded hfront hback]
  | blank before after hblank =>
    rw [mem_flatMap_tokensOf_insert, tokensOf_blank hblank]
    simp
  | star before after =>
    rw [mem_flatMap_tokensOf_insert, tokensOf_wildcard, List.mem_singleton, or_iff_right ht]

/-- So it is after any number of changes. -/
theorem sameSubjects_of_rewordings {texts texts' : List String}
    (h : Relation.EqvGen Rewording texts texts') :
    SameSubjects (texts.flatMap tokensOf) (texts'.flatMap tokensOf) := by
  induction h with
  | rel _ _ hstep => exact hstep.sameSubjects
  | refl _ => exact fun _ _ => .rfl
  | symm _ _ _ ih => exact fun t ht => (ih t ht).symm
  | trans _ _ _ _ _ ih ih' => exact fun t ht => (ih t ht).trans (ih' t ht)

theorem Reworded.sameSubjects {subjects subjects' : Option String}
    (h : Reworded subjects subjects') : SameSubjects (tokens subjects) (tokens subjects') := by
  rw [tokens_eq_flatMap_mentions, tokens_eq_flatMap_mentions]
  exact sameSubjects_of_rewordings h

/-! ### The decision -/

/-- Whether two texts, if they are there, differ in nothing but the case of the letters `a`
to `z`. -/
def SameLetters (a b : Option String) : Prop :=
  a.map Text.smallLetters = b.map Text.smallLetters

instance (a b : Option String) : Decidable (SameLetters a b) :=
  inferInstanceAs (Decidable (_ = _))

variable {verb verb' path path' subjects subjects' : Option String}

/-- Two queries with the same letters have them without a verb too, for which the empty text
stands. -/
theorem SameLetters.getD (h : SameLetters verb verb') :
    Text.smallLetters (verb.getD "") = Text.smallLetters (verb'.getD "") := by
  cases verb with
  | none => cases verb' with
    | none => rfl
    | some v => cases h
  | some u => cases verb' with
    | none => cases h
    | some v => exact Option.some.inj h

namespace RuleSet

/-- The same rules speak about a query in other words. -/
theorem speaking_congr (s : RuleSet) {verb verb' : String}
    (hverb : Text.upper verb = Text.upper verb')
    (hpath : Text.lower (path.getD "") = Text.lower (path'.getD ""))
    (hsubjects : SameSubjects (tokens subjects) (tokens subjects')) :
    s.speaking verb path subjects = s.speaking verb' path' subjects' := by
  apply List.filter_congr
  intro r _
  rw [decide_eq_decide, Rule.SpeaksAbout, Rule.SpeaksAbout, hverb, hpath]
  refine and_congr_right fun _ => and_congr_left fun _ => ?_
  by_cases hwildcard : r.subject = wildcard
  · simp [hwildcard]
  · exact or_congr_right (hsubjects r.subject hwildcard)

/-- For a decision only the subjects count, apart from the one that stands for all. -/
theorem evaluate_congr (s : RuleSet) (verb path : Option String)
    (h : SameSubjects (tokens subjects) (tokens subjects')) :
    s.evaluate verb path subjects = s.evaluate verb path subjects' := by
  rw [evaluate, evaluate]
  split
  · rfl
  · rw [meeting_eq, meeting_eq, speaking_congr s rfl rfl h]

/-- A query has the same decision in other words: with letters `a` to `z` of the verb, the
path or the subjects in the other case, and with its list of subjects reworded. -/
theorem evaluate_reworded (s : RuleSet) (hverb : SameLetters verb verb')
    (hpath : SameLetters path path') (hsubjects : Reworded subjects subjects') :
    s.evaluate verb path subjects = s.evaluate verb' path' subjects' := by
  have hupper : Text.upper (verb.getD "") = Text.upper (verb'.getD "") :=
    Text.upper_congr hverb.getD
  have hempty : verb.getD "" = "" ↔ verb'.getD "" = "" := by
    rw [← Text.upper_eq_empty_iff, hupper, Text.upper_eq_empty_iff]
  rw [evaluate, evaluate]
  by_cases hnone : verb.getD "" = ""
  · rw [if_pos hnone, if_pos (hempty.mp hnone)]
  · rw [if_neg hnone, if_neg (mt hempty.mpr hnone), meeting_eq, meeting_eq,
      speaking_congr s hupper (Text.lower_congr hpath.getD) hsubjects.sameSubjects]

/-- An admin who is a guest too may read below a closed path, however the query is put: the
subjects may change places, have blanks and others without letters about them, and all
subjects may be named beside them. -/
theorem evaluate_reworded_admin :
    let s : RuleSet := ⟨[.normal .allow "get" "/admin/*" "admin",
      .normal .deny "get" "/admin/*" "*"], .deny⟩
    let shouted := s.evaluate (some "GeT") (some "/Admin/X") (some "GUEST| Admin ||*|GUEST")
    s.evaluate (some "get") (some "/admin/x") (some "admin|guest") = shouted ∧
      shouted.granted = true ∧ shouted.tier = .individual := by
  intro s shouted
  have hreworded : Reworded (some "admin|guest") (some "GUEST| Admin ||*|GUEST") := by
    have hmentions : mentions (some "admin|guest") = ["admin", "guest"] ∧
        mentions (some "GUEST| Admin ||*|GUEST") = ["GUEST", " Admin ", "", "*", "GUEST"] := by
      decide +kernel
    have hspace : ∀ c ∈ " ".toList, Text.isBlank c = true := Text.forall_mem_of_all (by decide)
    have hpadded : " " ++ "Admin" ++ " " = " Admin " := by decide
    have horder : Rewording ["admin", "guest"] ["guest", "admin"] := .reorder (.swap _ _ _)
    have hcase : Rewording ["guest", "admin"] ["GUEST", "Admin"] := .recase (by decide +kernel)
    have hpad : Rewording ["GUEST", "Admin"] ["GUEST", " Admin "] :=
      hpadded ▸ .pad ["GUEST"] [] "Admin" " " " " hspace hspace
    have hblank : Rewording ["GUEST", " Admin "] ["GUEST", " Admin ", ""] :=
      .blank ["GUEST", " Admin "] [] (by simp)
    have hstar : Rewording ["GUEST", " Admin ", ""] ["GUEST", " Admin ", "", "*"] :=
      .star ["GUEST", " Admin ", ""] []
    have hagain : Rewording ["GUEST", " Admin ", "", "*"] ["GUEST", " Admin ", "", "*", "GUEST"] :=
      .again ["GUEST", " Admin ", "", "*"] [] (by decide)
    -- the change is made in six steps
    rw [Reworded, hmentions.1, hmentions.2]
    exact .trans _ _ _ (.rel _ _ horder) (.trans _ _ _ (.rel _ _ hcase) (.trans _ _ _
      (.rel _ _ hpad) (.trans _ _ _ (.rel _ _ hblank) (.trans _ _ _ (.rel _ _ hstar)
        (.rel _ _ hagain)))))
  have hverb : SameLetters (some "get") (some "GeT") := by decide +kernel
  have hpath : SameLetters (some "/admin/x") (some "/Admin/X") := by decide +kernel
  refine ⟨evaluate_reworded s hverb hpath hreworded, ?_, ?_⟩
  · decide +kernel
  · decide +kernel

end RuleSet

end RouteAccess
