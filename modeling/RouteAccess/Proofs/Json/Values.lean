/-
RouteAccess/Proofs/Json/Values.lean

A value that was written is read back.  This holds of the values whose text a reader takes
(`Fits`): they nest no deeper than it follows, their whole numbers are not too long, no
object has a name twice, and there are no fractions.  A value stands in the text before a
comma or a closing bracket (`Follows`), which no part of the value is taken for:

    readValue dialect fuel depth (write layout value ++ rest) = .ok (value, rest).
-/
import RouteAccess.Proofs.Json.Texts

namespace RouteAccess

namespace Json

/-! ### Whole numbers -/

theorem isDigit_of_mem_toDigits {n : Nat} {c : Char} (h : c ∈ Nat.toDigits 10 n) :
    Text.isDigit c = true := by
  have hdigit := Nat.isDigit_of_mem_toDigits (by decide) (by decide) h
  simpa [Char.isDigit, Text.isDigit, Char.le_def] using hdigit

theorem natOf_toDigits (n : Nat) : natOf (Nat.toDigits 10 n) = n := by
  have h := Nat.ofDigitChars_ten_toDigits (n := n)
  rw [Nat.ofDigitChars_eq_foldl] at h
  simpa only [natOf, Nat.mul_comm] using h

/-- Only zero starts with a zero. -/
theorem head?_toDigits_ne {n : Nat} (h : 0 < n) : (Nat.toDigits 10 n).head? ≠ some '0' := by
  induction n using Nat.strongRecOn with
  | ind n ih =>
    -- a longer number starts as its tenth part does
    rcases Nat.lt_or_ge n 10 with hlt | hge
    · have hall : ∀ k : Fin 10, 0 < k.val → k.val.digitChar ≠ '0' := by decide
      rw [Nat.toDigits_of_lt_base hlt]
      exact fun hzero => hall ⟨n, hlt⟩ h (Option.some.inj hzero)
    · have hfirst := ih (n / 10) (Nat.div_lt_self h (by decide)) (by omega)
      rw [Nat.toDigits_of_base_le (by decide) hge, List.head?_append]
      cases hhead : (Nat.toDigits 10 (n / 10)).head? with
      | none => exact absurd (List.head?_eq_none_iff.mp hhead) Nat.toDigits_ne_nil
      | some c =>
        rw [hhead] at hfirst
        exact hfirst

/-! ### What follows a value -/

/-- Whether a text starts with what may follow a value: nothing, a comma, or a closing
bracket. -/
def Follows (cs : List Char) : Prop :=
  ∀ c ∈ cs.head?, c = ',' ∨ c = ']' ∨ c = '\x7d'

theorem follows_cons {c : Char} (h : c = ',' ∨ c = ']' ∨ c = '\x7d') (cs : List Char) :
    Follows (c :: cs) := by
  intro d hd
  obtain rfl : c = d := by simpa using hd
  exact h

/-- The digits of a number are all that is read as digits. -/
theorem spanDigits_toDigits (n : Nat) {rest : List Char} (h : Follows rest) :
    spanDigits (Nat.toDigits 10 n ++ rest) = (Nat.toDigits 10 n, rest) := by
  have hdigits : ∀ c ∈ Nat.toDigits 10 n, Text.isDigit c = true :=
    fun c => isDigit_of_mem_toDigits
  -- what follows a value is no digit, so the run of digits ends with the number
  have hrest : rest.takeWhile Text.isDigit = [] ∧ rest.dropWhile Text.isDigit = rest := by
    cases rest with
    | nil => exact ⟨rfl, rfl⟩
    | cons c cs =>
      have hno : Text.isDigit c = false := by
        rcases h c rfl with rfl | rfl | rfl <;> rfl
      simp [hno]
  rw [spanDigits, List.takeWhile_append_of_pos hdigits, List.dropWhile_append_of_pos hdigits,
    hrest.1, hrest.2, List.append_nil]

/-- A whole number is read as its digits, without a fraction and without an exponent. -/
theorem readParts_toDigits (n : Nat) {rest : List Char} (h : Follows rest) :
    readParts (Nat.toDigits 10 n ++ rest) = some (⟨Nat.toDigits 10 n, none, none⟩, rest) := by
  have hzero : (Nat.toDigits 10 n).head? = some '0' → (Nat.toDigits 10 n).length = 1 := by
    intro hhead
    rcases Nat.eq_zero_or_pos n with rfl | hpos
    · rfl
    · exact absurd hhead (head?_toDigits_ne hpos)
  -- none of the three characters that may follow starts a fraction or an exponent
  have hfraction : readFraction rest = some (none, rest) := by
    cases rest with
    | nil => rfl
    | cons c cs => rcases h c rfl with rfl | rfl | rfl <;> rfl
  have hexponent : readExponent rest = some (none, rest) := by
    cases rest with
    | nil => rfl
    | cons c cs => rcases h c rfl with rfl | rfl | rfl <;> rfl
  simpa [readParts, spanDigits_toDigits n h, hfraction, hexponent] using hzero

variable {d : Dialect} {fuel depth : Nat}

/-- The digits of a number that is not too long are read as the number, with the sign before them.
-/
theorem readSigned_toDigits (hd : d.numbersAsText = false) (negative : Bool) {n : Nat}
    (hn : (Nat.toDigits 10 n).length ≤ maxDigits) {rest : List Char} (h : Follows rest) :
    readSigned d negative (Nat.toDigits 10 n ++ rest) =
      .ok (.int (if negative then -(n : Int) else n), rest) := by
  simp [readSigned, readParts_toDigits n h, orMalformed, hd, Nat.not_lt.mpr hn,
    NumberParts.value, natOf_toDigits, bind, Except.bind, pure, Except.pure]

theorem exists_digit (n : Nat) :
    ∃ c cs, Nat.toDigits 10 n = c :: cs ∧ Text.isDigit c = true := by
  obtain ⟨c, cs, hcons⟩ := List.exists_cons_of_ne_nil (Nat.toDigits_ne_nil (n := n) (b := 10))
  exact ⟨c, cs, hcons, isDigit_of_mem_toDigits (hcons ▸ List.mem_cons_self)⟩

theorem readNumber_digit {c : Char} (hc : Text.isDigit c = true) (cs : List Char) :
    readNumber d (c :: cs) = readSigned d false (c :: cs) := by
  unfold readNumber
  split <;> simp_all [Text.isDigit]

theorem readNumber_minus {c : Char} (hc : Text.isDigit c = true) (cs : List Char) :
    readNumber d ('-' :: c :: cs) = readSigned d true (c :: cs) := by
  unfold readNumber
  split <;> simp_all [Text.isDigit]

/-- A whole number starts with a sign or a digit. -/
theorem exists_writeInt (n : Int) :
    ∃ c cs, writeInt n = c :: cs ∧ (c = '-' ∨ Text.isDigit c = true) := by
  obtain ⟨c, cs, hcons, hc⟩ := exists_digit n.natAbs
  rw [writeInt, hcons]
  split
  · exact ⟨_, _, rfl, .inl rfl⟩
  · exact ⟨_, _, rfl, .inr hc⟩

/-- A whole number that is not too long is read back from its text. -/
theorem readNumber_writeInt (hd : d.numbersAsText = false) {n : Int}
    (hn : (Nat.toDigits 10 n.natAbs).length ≤ maxDigits) {rest : List Char} (h : Follows rest) :
    readNumber d (writeInt n ++ rest) = .ok (.int n, rest) := by
  obtain ⟨c, cs, hcons, hc⟩ := exists_digit n.natAbs
  have hsigned (negative : Bool) := readSigned_toDigits hd negative hn h
  rw [hcons] at hsigned
  rw [writeInt, hcons]
  split
  · rw [List.cons_append, List.cons_append, readNumber_minus hc, ← List.cons_append, hsigned,
      if_pos rfl, show -(n.natAbs : Int) = n by omega]
  · rw [List.cons_append, readNumber_digit hc, ← List.cons_append, hsigned,
      if_neg Bool.false_ne_true, show (n.natAbs : Int) = n by omega]

/-! ### Layouts -/

/-- Whether a layout has a comma between items and a colon after names, with no more than
space after them. -/
structure Layout.Separates (l : Layout) : Prop where
  item : ∃ space, l.item = ',' :: space ∧ ∀ c ∈ space, isSpace c = true
  name : ∃ space, l.name = ':' :: space ∧ ∀ c ∈ space, isSpace c = true

theorem separates_compact : Layout.compact.Separates :=
  ⟨⟨[], rfl, by simp⟩, ⟨[], rfl, by simp⟩⟩

theorem separates_spaced : Layout.spaced.Separates :=
  ⟨⟨[' '], rfl, by simp [isSpace]⟩, ⟨[' '], rfl, by simp [isSpace]⟩⟩

theorem skip_append {space : List Char} (h : ∀ c ∈ space, isSpace c = true) (rest : List Char) :
    skip (space ++ rest) = skip rest :=
  List.dropWhile_append_of_pos h

theorem skip_cons {c : Char} (h : isSpace c = false) (rest : List Char) :
    skip (c :: rest) = c :: rest := by
  simp [skip, h]

/-! ### Values that are read back -/

/-- Whether a reader takes the text of a value, inside `depth` more levels. -/
inductive Fits : Nat → Json → Prop
  | null {depth : Nat} : Fits depth .null
  | bool {depth : Nat} (b : Bool) : Fits depth (.bool b)
  | int {depth : Nat} {n : Int} (short : (Nat.toDigits 10 n.natAbs).length ≤ maxDigits) :
      Fits depth (.int n)
  | str {depth : Nat} (s : String) : Fits depth (.str s)
  | noItems {depth : Nat} : Fits depth (.arr [])
  | arr {depth : Nat} {items : List Json} (inside : ∀ item ∈ items, Fits depth item) :
      Fits (depth + 1) (.arr items)
  | noFields {depth : Nat} : Fits depth (.obj [])
  | obj {depth : Nat} {fields : List (String × Json)} (names : (fields.map (·.1)).Nodup)
      (inside : ∀ field ∈ fields, Fits depth field.2) : Fits (depth + 1) (.obj fields)

/-- Whether the text of a value starts with something to read. -/
def Starts (l : Layout) (v : Json) : Prop :=
  ∃ c cs, write l v = c :: cs ∧ isSpace c = false ∧ c ≠ ']'

/-- Whether the text of a value is read as this value, before whatever follows values. -/
def ReadsBack (d : Dialect) (l : Layout) (depth : Nat) (v : Json) : Prop :=
  ∀ fuel rest, (write l v).length ≤ fuel → Follows rest →
    readValue d fuel depth (write l v ++ rest) = .ok (v, rest)

variable {l : Layout} {v : Json}

/-- A value of some depth has a text that starts with something to read. -/
theorem Fits.starts (h : Fits depth v) : Starts l v := by
  cases h with
  | null | noItems | arr | noFields | obj => exact ⟨_, _, rfl, rfl, by decide⟩
  | bool b => cases b <;> exact ⟨_, _, rfl, rfl, by decide⟩
  | str s => exact ⟨_, _, rfl, rfl, by decide⟩
  | @int _ n short =>
    -- the text of a number starts with a digit or a minus
    obtain ⟨c, cs, hcons, hc⟩ := exists_writeInt n
    refine ⟨c, cs, hcons, ?_, ?_⟩
    · cases hspace : isSpace c with
      | false => rfl
      | true =>
        simp only [isSpace, Bool.or_eq_true, decide_eq_true_eq] at hspace
        rcases hspace with ((rfl | rfl) | rfl) | rfl <;> rcases hc with hc | hc <;> cases hc
    · rintro rfl
      rcases hc with hc | hc <;> cases hc

theorem Starts.length_pos (h : Starts l v) : 0 < (write l v).length := by
  obtain ⟨c, cs, hcons, -⟩ := h
  simp [hcons]

theorem Starts.skip_eq (h : Starts l v) (rest : List Char) :
    skip (write l v ++ rest) = write l v ++ rest := by
  obtain ⟨c, cs, hcons, hspace, -⟩ := h
  rw [hcons, List.cons_append, skip_cons hspace]

/-- In front of items nothing is skipped. -/
theorem Starts.skip_writeItems (h : Starts l v) (items : List Json) (rest : List Char) :
    skip (writeItems l (v :: items) ++ rest) = writeItems l (v :: items) ++ rest := by
  cases items with
  | nil => exact h.skip_eq rest
  | cons next items =>
    rw [writeItems, List.append_assoc, List.append_assoc]
    exact h.skip_eq _

theorem skip_writeFields (name : String) (v : Json) (fields : List (String × Json))
    (rest : List Char) :
    skip (writeFields l ((name, v) :: fields) ++ rest) =
      writeFields l ((name, v) :: fields) ++ rest := by
  cases fields <;> simp only [writeFields, writeText, List.cons_append] <;> exact skip_cons rfl _

/-! ### Items and fields -/

/-- After a separator, its space is skipped and nothing of what comes next. -/
theorem exists_skip {c : Char} {sep rest : List Char}
    (h : ∃ space, sep = c :: space ∧ ∀ d ∈ space, isSpace d = true)
    (hrest : skip rest = rest) : ∃ more, sep ++ rest = c :: more ∧ skip more = rest := by
  obtain ⟨space, rfl, hspace⟩ := h
  exact ⟨space ++ rest, rfl, (skip_append hspace rest).trans hrest⟩

/-- Items that are read back one by one are read back up to the closing bracket. -/
theorem readItems_writeItems (hl : l.Separates) {items : List Json} (hne : items ≠ [])
    (hitems : ∀ item ∈ items, Starts l item ∧ ReadsBack d l depth item)
    (hfuel : (writeItems l items).length < fuel) (rest : List Char) :
    readItems d fuel depth (writeItems l items ++ ']' :: rest) = .ok (items, rest) := by
  induction items generalizing fuel with
  | nil => exact absurd rfl hne
  | cons item tail ih =>
    obtain ⟨⟨hstarts, hback⟩, htail⟩ := List.forall_mem_cons.mp hitems
    obtain ⟨fuel, rfl⟩ : ∃ k, fuel = k + 1 := ⟨fuel - 1, by omega⟩
    cases tail with
    | nil =>
      -- the last item is followed by the bracket, every other by a comma
      have hread := hback fuel (']' :: rest) (Nat.lt_succ_iff.mp hfuel)
        (follows_cons (.inr (.inl rfl)) _)
      have hclose : skip (']' :: rest) = ']' :: rest := skip_cons rfl _
      simp only [writeItems, readItems, hread, bind, Except.bind, hclose]
      rfl
    | cons next tail =>
      have hnext : Starts l next := (htail next List.mem_cons_self).1
      obtain ⟨more, hitem, hskip⟩ :=
        exists_skip hl.item (hnext.skip_writeItems tail (']' :: rest))
      have hread := hback fuel (',' :: more) (by simp [writeItems] at hfuel; omega)
        (follows_cons (.inl rfl) _)
      have hcomma : skip (',' :: more) = ',' :: more := skip_cons rfl _
      have hpos := hstarts.length_pos
      have hmore : readItems d fuel depth (writeItems l (next :: tail) ++ ']' :: rest) =
          .ok (next :: tail, rest) :=
        ih (List.cons_ne_nil _ _) htail (by simp [writeItems] at hfuel ⊢; omega)
      rw [writeItems, List.append_assoc, List.append_assoc, hitem, readItems, hread]
      simp only [bind, Except.bind, hcomma, hskip, hmore]
      rfl

/-- A field whose value is read is the last one before a closing bracket, and the first of
more before a comma. -/
theorem readFields_field (hl : l.Separates) (hstarts : Starts l v) (name : String)
    {after : List Char} (hread : readValue d fuel depth (write l v ++ after) = .ok (v, after)) :
    (∀ rest, skip after = '\x7d' :: rest →
      readFields d (fuel + 1) depth (writeText name ++ (l.name ++ (write l v ++ after))) =
        .ok ([(name, v)], rest)) ∧
    ∀ more fields rest, skip after = ',' :: more →
      readFields d fuel depth (skip more) = .ok (fields, rest) →
        readFields d (fuel + 1) depth (writeText name ++ (l.name ++ (write l v ++ after))) =
          .ok ((name, v) :: fields, rest) := by
  obtain ⟨text, hvalue, hskip⟩ := exists_skip hl.name (hstarts.skip_eq after)
  obtain ⟨body, hbody, hname⟩ := readText_writeText d.halves name (':' :: text)
  -- no blank stands in front of the colon
  have hcolon : skip (':' :: text) = ':' :: text := skip_cons rfl _
  rw [hvalue, hbody, readFields, hname]
  constructor
  · intro rest hafter
    simp only [bind, Except.bind, hcolon, hskip, hread, hafter]
    rfl
  · intro more fields rest hafter hmore
    simp only [bind, Except.bind, hcolon, hskip, hread, hafter, hmore]
    rfl

/-- Fields whose values are read back one by one are read back up to the closing
bracket. -/
theorem readFields_writeFields (hl : l.Separates) {fields : List (String × Json)}
    (hne : fields ≠ [])
    (hfields : ∀ field ∈ fields, Starts l field.2 ∧ ReadsBack d l depth field.2)
    (hfuel : (writeFields l fields).length < fuel) (rest : List Char) :
    readFields d fuel depth (writeFields l fields ++ '\x7d' :: rest) = .ok (fields, rest) := by
  induction fields generalizing fuel with
  | nil => exact absurd rfl hne
  | cons field tail ih =>
    obtain ⟨name, v⟩ := field
    obtain ⟨hv, htail⟩ := List.forall_mem_cons.mp hfields
    have hback : ReadsBack d l depth v := hv.2
    -- a text that is not empty leaves fuel for its first field
    obtain ⟨fuel, rfl⟩ : ∃ k, fuel = k + 1 := ⟨fuel - 1, by omega⟩
    cases tail with
    | nil =>
      have hread := hback fuel ('\x7d' :: rest) (by simp [writeFields, writeText] at hfuel; omega)
        (follows_cons (.inr (.inr rfl)) _)
      rw [writeFields, List.append_assoc, List.append_assoc]
      exact (readFields_field hl hv.1 name hread).1 rest (skip_cons rfl _)
    -- the field is followed by a comma, and the others are read in the same way
    | cons next tail =>
      obtain ⟨nextName, next⟩ := next
      obtain ⟨more, hitem, hskip⟩ :=
        exists_skip hl.item (skip_writeFields nextName next tail ('\x7d' :: rest))
      have hread := hback fuel (',' :: more) (by simp [writeFields] at hfuel; omega)
        (follows_cons (.inl rfl) _)
      have hmore : readFields d fuel depth
          (writeFields l ((nextName, next) :: tail) ++ '\x7d' :: rest) =
          .ok ((nextName, next) :: tail, rest) :=
        ih (List.cons_ne_nil _ _) htail
          (by simp [writeFields, writeText] at hfuel ⊢; omega)
      rw [← hskip] at hmore
      rw [writeFields]
      simp only [List.append_assoc]
      rw [hitem]
      exact (readFields_field hl hv.1 name hread).2 more _ rest (skip_cons rfl _) hmore

/-! ### Objects -/

/-- A name that an object does not have goes to its end. -/
theorem put_of_notMem {fields : List (String × Json)} {name : String} (value : Json)
    (h : name ∉ fields.map (·.1)) : put fields name value = fields ++ [(name, value)] := by
  induction fields with
  | nil => rfl
  | cons field fields ih =>
    obtain ⟨hne, hnot⟩ := not_or.mp (mt List.mem_cons.mpr h)
    rw [put, if_neg (Ne.symm hne), ih hnot, List.cons_append]

/-- An object keeps its fields as they are if no name occurs twice. -/
theorem ofFields_of_nodup {fields : List (String × Json)} (h : (fields.map (·.1)).Nodup) :
    ofFields fields = .obj fields := by
  have hfold (acc rest : List (String × Json)) (h : ((acc ++ rest).map (·.1)).Nodup) :
      rest.foldl (fun acc f => put acc f.1 f.2) acc = acc ++ rest := by
    induction rest generalizing acc with
    | nil => rw [List.foldl_nil, List.append_nil]
    | cons field rest ih =>
      -- a name that comes later is none of those gathered before
      have hfresh : field.1 ∉ acc.map (·.1) := by
        rw [List.map_append, List.nodup_append] at h
        exact fun hmem => h.2.2 _ hmem _ List.mem_cons_self rfl
      rw [List.foldl_cons, put_of_notMem _ hfresh, ih _ (by simpa using h), List.append_assoc,
        List.singleton_append]
  rw [ofFields, hfold [] fields h, List.nil_append]

/-! ### Reading back -/

/-- What starts like a number is read as one. -/
theorem readValue_number {c : Char} (hc : c = '-' ∨ Text.isDigit c = true) (cs : List Char) :
    readValue d (fuel + 1) depth (c :: cs) = readNumber d (c :: cs) := by
  unfold readValue
  split <;> simp_all [Text.isDigit]

/-- A whole number that is not too long is read back as a value. -/
theorem readValue_writeInt (hd : d.numbersAsText = false) {n : Int}
    (hn : (Nat.toDigits 10 n.natAbs).length ≤ maxDigits) {rest : List Char} (h : Follows rest) :
    readValue d (fuel + 1) depth (writeInt n ++ rest) = .ok (.int n, rest) := by
  have hread := readNumber_writeInt hd hn h
  obtain ⟨c, cs, hcons, hc⟩ := exists_writeInt n
  rw [hcons, List.cons_append] at hread ⊢
  rw [readValue_number hc, hread]

/-- Items that are read back one by one are read back as an array. -/
theorem readValue_writeItems (hl : l.Separates) {items : List Json}
    (hitems : ∀ item ∈ items, Starts l item ∧ ReadsBack d l depth item)
    (hfuel : (writeItems l items).length < fuel) (rest : List Char) :
    readValue d (fuel + 1) (depth + 1) ('[' :: (writeItems l items ++ ']' :: rest)) =
      .ok (.arr items, rest) := by
  cases items with
  | nil => rfl
  | cons item tail =>
    have hitem := (hitems item List.mem_cons_self).1
    have hskip := hitem.skip_writeItems tail (']' :: rest)
    have hmore := readItems_writeItems hl (List.cons_ne_nil item tail) hitems hfuel rest
    obtain ⟨c, cs, hcons, hc⟩ : ∃ c cs, writeItems l (item :: tail) ++ ']' :: rest = c :: cs ∧
        c ≠ ']' := by
      obtain ⟨c, cs, hcons, -, hc⟩ := hitem
      cases tail <;> exact ⟨c, _, by rw [writeItems, hcons]; rfl, hc⟩
    rw [hcons] at hskip hmore ⊢
    rw [readValue, hskip]
    split
    · -- the array is not empty, since no item starts with a closing bracket
      rename_i heq
      exact absurd (List.cons.inj heq).1 hc
    · simp only [hmore, bind, Except.bind]
      rfl

/-- Fields that are read back one by one are read back as an object, if no name occurs twice. -/
theorem readValue_writeFields (hl : l.Separates) {fields : List (String × Json)}
    (hnames : (fields.map (·.1)).Nodup)
    (hfields : ∀ field ∈ fields, Starts l field.2 ∧ ReadsBack d l depth field.2)
    (hfuel : (writeFields l fields).length < fuel) (rest : List Char) :
    readValue d (fuel + 1) (depth + 1) ('\x7b' :: (writeFields l fields ++ '\x7d' :: rest)) =
      .ok (.obj fields, rest) := by
  cases fields with
  | nil => rfl
  | cons field tail =>
    obtain ⟨name, v⟩ := field
    have hskip := skip_writeFields (l := l) name v tail ('\x7d' :: rest)
    have hmore := readFields_writeFields hl (List.cons_ne_nil (name, v) tail) hfields hfuel rest
    obtain ⟨cs, hcons⟩ : ∃ cs, writeFields l ((name, v) :: tail) ++ '\x7d' :: rest = '"' :: cs := by
      cases tail <;> exact ⟨_, rfl⟩
    rw [hcons] at hskip hmore ⊢
    rw [readValue, hskip]
    -- the object is not empty, since a field starts with a quote
    split
    · rename_i heq
      cases (List.cons.inj heq).1
    · simp only [hmore, bind, Except.bind, ofFields_of_nodup hnames]
      rfl

/-- The text of a value is not empty, so that some fuel is left when it is read. -/
theorem readsBack_of_succ (hfits : Fits depth v)
    (h : ∀ fuel rest, (write l v).length ≤ fuel + 1 → Follows rest →
      readValue d (fuel + 1) depth (write l v ++ rest) = .ok (v, rest)) :
    ReadsBack d l depth v := by
  intro fuel rest hfuel hrest
  have hpos := hfits.starts.length_pos (l := l)
  obtain ⟨fuel, rfl⟩ : ∃ k, fuel = k + 1 := ⟨fuel - 1, by omega⟩
  exact h fuel rest hfuel hrest

/-- The text of a value that a reader takes is read as this value. -/
theorem Fits.readsBack (hd : d.numbersAsText = false) (hl : l.Separates) (h : Fits depth v) :
    ReadsBack d l depth v := by
  -- on the way the value fits: the parts of an array or an object are read back by induction
  induction h with
  | null => exact readsBack_of_succ .null fun _ _ _ _ => rfl
  | bool b => exact readsBack_of_succ (.bool b) fun _ _ _ _ => by cases b <;> rfl
  | int short =>
    exact readsBack_of_succ (.int short) fun _ _ _ hrest =>
      readValue_writeInt hd short hrest
  | str s =>
    refine readsBack_of_succ (.str s) fun fuel rest _ _ => ?_
    obtain ⟨body, hbody, hread⟩ := readText_writeText d.halves s rest
    rw [write, hbody, readValue, hread]
    rfl
  | noItems => exact readsBack_of_succ .noItems fun _ _ _ _ => rfl
  | noFields => exact readsBack_of_succ .noFields fun _ _ _ _ => rfl
  | @arr _ items inside ih =>
    refine readsBack_of_succ (.arr inside) fun fuel rest hfuel _ => ?_
    have hinside : (writeItems l items).length < fuel := by
      simp [write] at hfuel
      omega
    simpa [write] using
      readValue_writeItems hl (fun item h => ⟨(inside item h).starts, ih item h⟩) hinside rest
  | @obj _ fields names inside ih =>
    refine readsBack_of_succ (.obj names inside) fun fuel rest hfuel _ => ?_
    have hinside : (writeFields l fields).length < fuel := by
      simp [write] at hfuel
      omega
    simpa [write] using readValue_writeFields hl names
      (fun field h => ⟨(inside field h).starts, ih field h⟩) hinside rest

/-- A value that a reader takes is read back from its text. -/
theorem read_render (hd : d.numbersAsText = false) (hl : l.Separates)
    (h : Fits d.maxDepth v) : read d (render l v) = .ok v := by
  have hskip : skip (write l v) = write l v := by
    simpa using h.starts.skip_eq (l := l) []
  have hread := h.readsBack hd hl (2 * (write l v).length + 2) [] (by omega)
    (by intro c hc; cases hc)
  rw [List.append_nil] at hread
  simp only [read, render, String.toList_ofList, readChars, hskip, hread, bind, Except.bind]
  rfl

end Json

end RouteAccess
