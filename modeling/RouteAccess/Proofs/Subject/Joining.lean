/-
RouteAccess/Proofs/Subject/Joining.lean

Lists of subjects in one text, written and read.  Reading cuts a text at its
separators, trims what is between them and puts it into upper case.  So a token is read
as it is (`IsToken.tokensOf_eq`), and it makes no difference to what is read whether the
text as a whole has been trimmed or put into upper case before (`tokensOf_trim`,
`tokensOf_upper`).  What is read from subjects that were joined is what is read from
each of them:

    t ∈ tokensOf (join values) ↔ ∃ s, some s ∈ values ∧ t ∈ tokensOf s.

In particular, a subject with a separator in it is read as several.  Tokens can be put together
as they are, and are read as they were (`tokensOf_intercalate_of_isToken`).
-/
import RouteAccess.Proofs.Policy.Token
import RouteAccess.Subject.List

namespace RouteAccess

/-! ### Cutting texts that are put together -/

namespace Text

variable {p : Char → Bool}

/-- What follows a text without separators joins its one piece. -/
theorem exists_cutAt_append_left {as : List Char} (h : ∀ c ∈ as, p c = false) (bs : List Char) :
    ∃ first pieces, cutAt p bs = first :: pieces ∧
      cutAt p (as ++ bs) = (as ++ first) :: pieces := by
  induction as with
  | nil =>
    obtain ⟨first, pieces, hcut⟩ := List.exists_cons_of_ne_nil (cutAt_ne_nil p bs)
    exact ⟨first, pieces, hcut, hcut⟩
  | cons c rest ih =>
    obtain ⟨hc, hrest⟩ := List.forall_mem_cons.mp h
    obtain ⟨first, pieces, hbs, hcut⟩ := ih hrest
    exact ⟨first, pieces, hbs, by simp [cutAt, hc, hcut]⟩

/-- A text without separators joins the last piece of what is before it. -/
theorem exists_cutAt_append_right {bs : List Char} (h : ∀ c ∈ bs, p c = false)
    (as : List Char) :
    ∃ pieces last, cutAt p as = pieces ++ [last] ∧ cutAt p (as ++ bs) = pieces ++ [last ++ bs] := by
  induction as with
  | nil => exact ⟨[], [], rfl, cutAt_eq_singleton h⟩
  | cons c rest ih =>
    obtain ⟨pieces, last, hrest, hcut⟩ := ih
    by_cases hc : p c
    · exact ⟨[] :: pieces, last, by simp [cutAt, hc, hrest], by simp [cutAt, hc, hcut]⟩
    · -- no separator, so the character is put in front of the first piece
      cases pieces with
      | nil => exact ⟨[], c :: last, by simp [cutAt, hc, hrest], by simp [cutAt, hc, hcut]⟩
      | cons first pieces =>
        exact ⟨(c :: first) :: pieces, last, by simp [cutAt, hc, hrest], by simp [cutAt, hc, hcut]⟩

/-- Blanks that are no separators make no difference to the trimmed pieces. -/
theorem map_trimChars_cutAt_trimChars (h : ∀ c, isBlank c = true → p c = false)
    (cs : List Char) :
    (cutAt p (trimChars cs)).map trimChars = (cutAt p cs).map trimChars := by
  obtain ⟨before, after, hbefore, hafter, hcs⟩ := exists_blanks_around cs
  obtain ⟨pieces, last, hmid, hright⟩ :=
    exists_cutAt_append_right (fun c hc => h c (hafter c hc)) (before ++ trimChars cs)
  obtain ⟨first, others, htrim, hleft⟩ :=
    exists_cutAt_append_left (fun c hc => h c (hbefore c hc)) (trimChars cs)
  calc (cutAt p (trimChars cs)).map trimChars
      = (cutAt p (before ++ trimChars cs)).map trimChars := by
        rw [htrim, hleft, List.map_cons, List.map_cons, trimChars_blanks_append hbefore]
    _ = (cutAt p (before ++ trimChars cs ++ after)).map trimChars := by
        rw [hmid, hright, List.map_append, List.map_append, List.map_singleton,
          List.map_singleton, trimChars_append_blanks hafter]
    _ = (cutAt p cs).map trimChars := by rw [← hcs]

/-- The pieces of a text in upper case are the pieces of the text in upper case. -/
theorem cutAt_upperChars (cs : List Char) :
    cutAt (· == separator) (upperChars cs) = (cutAt (· == separator) cs).map upperChars := by
  induction cs with
  | nil => rfl
  | cons c rest ih =>
    rw [upperChars_cons]
    by_cases hc : c = separator
    · subst hc
      simp [cutAt, upperChar_separator, ih, upperChars_nil]
    · have hnot : ∀ d ∈ upperChar c, (d == separator) = false := fun d hd =>
        beq_false_of_ne (ne_separator_of_mem_upperChar hc hd)
      -- a character may have an upper case of three, but no separator is among them
      obtain ⟨first, pieces, hrest, hcut⟩ := exists_cutAt_append_left hnot (upperChars rest)
      rw [ih] at hrest
      obtain ⟨piece, others, hpieces⟩ :=
        List.exists_cons_of_ne_nil (cutAt_ne_nil (· == separator) rest)
      rw [hpieces, List.map_cons, List.cons.injEq] at hrest
      obtain ⟨rfl, rfl⟩ := hrest
      simp [hcut, cutAt, hpieces, hc, upperChars_cons]

theorem beq_eq_false_of_notMem {c : Char} {cs : List Char} (h : c ∉ cs) :
    ∀ d ∈ cs, (d == c) = false := by
  intro d hd
  exact beq_false_of_ne fun heq => h (heq ▸ hd)

theorem fields_append_separator {c : Char} {a : String} (h : c ∉ a.toList) (b : String) :
    fields c (a ++ String.singleton c ++ b) = a :: fields c b := by
  simp only [fields, String.toList_append, String.toList_singleton, List.append_assoc,
    List.singleton_append, cutAt_append_cons (p := (· == c)) (beq_self_eq_true c),
    cutAt_eq_singleton (beq_eq_false_of_notMem h), List.map_cons, String.ofList_toList]

/-- Texts without separators are the pieces of the text in which they are joined. -/
theorem fields_intercalate {c : Char} {texts : List String} (hne : texts ≠ [])
    (h : ∀ s ∈ texts, c ∉ s.toList) :
    fields c (String.intercalate (String.singleton c) texts) = texts := by
  induction texts with
  | nil => exact absurd rfl hne
  | cons s rest ih =>
    obtain ⟨hs, hrest⟩ := List.forall_mem_cons.mp h
    cases rest with
    | nil => simp [fields, cutAt_eq_singleton (beq_eq_false_of_notMem hs)]
    | cons s' rest =>
      rw [String.intercalate_cons_cons, fields_append_separator hs,
        ih (List.cons_ne_nil _ _) hrest]

end Text

/-! ### Reading -/

theorem tokensOf_empty : tokensOf "" = [] := rfl

/-- A token is read as it is. -/
theorem IsToken.tokensOf_eq {t : String} (h : IsToken t) : tokensOf t = [t] := by
  have htrim : Text.trimChars t.toList = t.toList := by
    rw [← Text.toList_trim, h.trim_eq]
  have hne : t.toList ≠ [] := mt String.toList_eq_nil_iff.mp h.ne_empty
  have hupper : String.ofList (Text.upperChars t.toList) = t := h.upper_eq
  rw [tokensOf, Text.cutAt_eq_singleton (Text.beq_eq_false_of_notMem h.no_separator)]
  simp [htrim, hne, hupper]

/-- What is read from a text does not depend on blanks around it. -/
theorem tokensOf_trim (s : String) : tokensOf (Text.trim s) = tokensOf s := by
  have hblank : ∀ c, Text.isBlank c = true → (c == separator) = false := by
    rintro c hc
    refine beq_false_of_ne ?_
    rintro rfl
    exact absurd hc (by decide)
  rw [tokensOf, Text.toList_trim, Text.map_trimChars_cutAt_trimChars hblank, tokensOf]

/-- What is read from a text does not depend on its case. -/
theorem tokensOf_upper (s : String) : tokensOf (Text.upper s) = tokensOf s := by
  have hne : ∀ cs, decide (Text.upperChars cs ≠ []) = decide (cs ≠ []) := fun cs =>
    decide_eq_decide.mpr (not_congr Text.upperChars_eq_nil)
  simp only [tokensOf, Text.upper, String.toList_ofList, Text.cutAt_upperChars, List.map_map,
    List.filter_map, Function.comp_def, Text.trimChars_upperChars, Text.upperChars_upperChars, hne]

/-- What is read from two texts with a separator between them is what is read from each. -/
theorem tokensOf_append_separator (a b : String) :
    tokensOf (a ++ String.singleton separator ++ b) = tokensOf a ++ tokensOf b := by
  have hcut := Text.cutAt_append_cons (p := (· == separator)) (beq_self_eq_true separator)
    a.toList b.toList
  simp only [tokensOf, String.toList_append, String.toList_singleton, List.append_assoc,
    List.singleton_append, hcut, List.map_append, List.filter_append]

/-- What is read from texts with separators between them is what is read from each of them. -/
theorem tokensOf_intercalate (texts : List String) :
    tokensOf (String.intercalate (String.singleton separator) texts) = texts.flatMap tokensOf := by
  induction texts with
  | nil => rfl
  | cons s rest ih =>
    cases rest with
    | nil => simp
    | cons s' rest =>
      rw [String.intercalate_cons_cons, tokensOf_append_separator, ih, ← List.flatMap_cons]

/-- A text without separators is read as one token, or as none if it is blank. -/
theorem tokensOf_of_no_separator {s : String} (h : separator ∉ s.toList) :
    tokensOf s = if Text.trim s = "" then [] else [Text.upper (Text.trim s)] := by
  rw [tokensOf, Text.cutAt_eq_singleton (Text.beq_eq_false_of_notMem h), Text.upper,
    Text.toList_trim]
  by_cases hblank : Text.trimChars s.toList = []
  · have htrim : Text.trim s = "" := by rw [Text.trim, hblank, String.ofList_nil]
    simp [hblank, htrim]
  · have htrim : Text.trim s ≠ "" := by rwa [Text.trim, Ne, String.ofList_eq_empty_iff]
    simp [hblank, htrim]

/-- Tokens are read back from the text in which they are put together. -/
theorem tokensOf_intercalate_of_isToken {texts : List String} (h : ∀ t ∈ texts, IsToken t) :
    tokensOf (String.intercalate (String.singleton separator) texts) = texts := by
  have hread : ∀ t ∈ texts, tokensOf t = [t] := fun t ht => (h t ht).tokensOf_eq
  rw [tokensOf_intercalate, List.flatMap_congr hread, List.flatMap_singleton']

/-- How lists in one text are read.  Two lists with a separator between them are read one after
the other, and a list without separators is one token, trimmed and in upper case, if it is not
blank.  Whatever is read can stand as a token, and is read again as it is. -/
theorem tokens_append_and_join (a b : String) :
    tokens (some (a ++ String.singleton separator ++ b)) = tokens (some a) ++ tokens (some b) ∧
      (separator ∉ a.toList →
        tokens (some a) = if Text.trim a = "" then [] else [Text.upper (Text.trim a)]) ∧
      (∀ t ∈ tokens (some a),
        t ≠ "" ∧ separator ∉ t.toList ∧ Text.trim t = t ∧ Text.upper t = t) ∧
      tokens (some (String.intercalate (String.singleton separator) (tokens (some a)))) =
        tokens (some a) := by
  -- all four parts but the first go by what a token is
  have htoken : ∀ t ∈ tokens (some a), IsToken t := fun t ht => isToken_of_mem_tokens ht
  refine ⟨tokensOf_append_separator a b, tokensOf_of_no_separator, ?_,
    tokensOf_intercalate_of_isToken htoken⟩
  intro t ht
  obtain ⟨hne, hupper, htrim, hsep⟩ := htoken t ht
  exact ⟨hne, hsep, htrim, hupper⟩

/-- Entries that are blank are passed over, one that is repeated is read twice, and one may
become longer. -/
theorem tokens_append_and_join_street :
    let a := " straße\t"
    let b := "get|| \t|get"
    separator ∉ a.toList ∧ tokens (some a) = ["STRASSE"] ∧
      tokens (some (a ++ String.singleton separator ++ b)) = ["STRASSE", "GET", "GET"] ∧
      ("STRASSE" ≠ "" ∧ separator ∉ "STRASSE".toList ∧ Text.trim "STRASSE" = "STRASSE" ∧
        Text.upper "STRASSE" = "STRASSE") ∧
      tokens (some (String.intercalate (String.singleton separator) ["GET", "GET"])) =
        ["GET", "GET"] := by
  intro a b
  have hsep : separator ∉ a.toList := by decide
  obtain ⟨happend, hone, htoken, -⟩ := tokens_append_and_join a b
  obtain ⟨-, -, -, hagain⟩ := tokens_append_and_join b a
  have hwords : Text.trim a ≠ "" ∧ Text.upper (Text.trim a) = "STRASSE" := by decide +kernel
  have ha : tokens (some a) = ["STRASSE"] := by rw [hone hsep, if_neg hwords.1, hwords.2]
  have hb : tokens (some b) = ["GET", "GET"] := by decide +kernel
  rw [hb] at hagain
  refine ⟨hsep, ha, ?_, htoken "STRASSE" (ha ▸ List.mem_singleton_self _), hagain⟩
  rw [happend, ha, hb]
  rfl

/-! ### Joining -/

namespace Subject

variable {values : List (Option String)} {t : String}

/-- The subjects of a list are its texts that are not blank, trimmed and in upper case. -/
theorem mem_normalise :
    t ∈ normalise values ↔
      ∃ s, some s ∈ values ∧ Text.trim s ≠ "" ∧ t = Text.upper (Text.trim s) := by
  simp only [normalise, List.mem_mergeSort, List.mem_eraseDups, List.mem_map, List.mem_filter,
    List.mem_filterMap, id_eq, exists_eq_right, decide_eq_true_eq]
  constructor
  · rintro ⟨_, ⟨⟨s, hs, rfl⟩, hne⟩, rfl⟩
    exact ⟨s, hs, hne, rfl⟩
  · rintro ⟨s, hs, hne, rfl⟩
    exact ⟨_, ⟨⟨s, hs, rfl⟩, hne⟩, rfl⟩

/-- What is read from subjects that were joined is what is read from each of them. -/
theorem mem_tokensOf_join :
    t ∈ tokensOf (join values) ↔ ∃ s, some s ∈ values ∧ t ∈ tokensOf s := by
  rw [join, tokensOf_intercalate, List.mem_flatMap]
  constructor
  · rintro ⟨_, hmem, ht⟩
    obtain ⟨s, hs, -, rfl⟩ := mem_normalise.mp hmem
    rw [tokensOf_upper, tokensOf_trim] at ht
    exact ⟨s, hs, ht⟩
  · rintro ⟨s, hs, ht⟩
    -- a text of blanks has no token that could be read
    have hne : Text.trim s ≠ "" := by
      intro hblank
      rw [← tokensOf_trim, hblank, tokensOf_empty] at ht
      exact absurd ht List.not_mem_nil
    refine ⟨_, mem_normalise.mpr ⟨s, hs, hne, rfl⟩, ?_⟩
    rw [tokensOf_upper, tokensOf_trim]
    exact ht

end Subject

end RouteAccess
