/-
RouteAccess/Proofs/FileStore.lean

How names lead to files.  A name is looked at as a whole, for a null character and for its
length, and then its parts are followed.  What the walk can be blamed for is said once
(`Blames`, `follow_error`), and from it when a name can be looked up (`Answers`) or is
refused for a null character (`resolve_eq_nullCharacter_iff`): one within the limits always
can, unless some folder may not be entered (`answers_of_fits`).  A name of one part leads to
the entry under it in the folder of the service (`IsPart.resolve_eq`).

A file that was written is what its name leads to, whatever stood there before
(`resolve_of_write?`):

    store.write? name content = some store' → store'.resolve name = .ok (.file content).
-/
import RouteAccess.FileStore

namespace RouteAccess

namespace FileStore

variable {store store' : FileStore} {name : String} {f : PathFault}
variable {here path names : List String}

/-! ### The folder of the service -/

/-- The folder of the service and those above it can be entered, whatever the entries are. -/
theorem entry?_of_home (h : path.isPrefixOf store.home = true) :
    store.entry? path = some .folder :=
  if_pos h

theorem entry?_home (store : FileStore) : store.entry? store.home = some .folder :=
  entry?_of_home (by simp)

/-- The folder that a name starts from can be entered. -/
theorem entry?_origin (store : FileStore) (name : String) :
    store.entry? (store.origin name) = some .folder := by
  rw [origin]
  split
  · exact entry?_of_home rfl
  · exact entry?_home store

/-- A name without a slash before it starts from the folder of the service. -/
theorem origin_of_relative (h : ¬ ['/'] <+: name.toList) (store : FileStore) :
    store.origin name = store.home := by
  have hstart : name.startsWith "/" = false :=
    Bool.eq_false_iff.mpr fun hs => h (String.startsWith_string_iff.mp hs)
  rw [origin, hstart]
  rfl

/-! ### Names within the limits -/

/-- Whether a name keeps to the limits, in each part and as a whole. -/
structure Fits (name : String) : Prop where
  whole : (normal name).utf8ByteSize ≤ maxName
  part : ∀ p ∈ parts name, p.utf8ByteSize ≤ maxPart

/-- Whether no folder is closed to the service. -/
def IsOpen (store : FileStore) : Prop :=
  ∀ path, store.entry? path ≠ some .closed

/-- What the walk along the parts of a name can be blamed for: they are too long only if one
of them is, entry is refused only where a folder is closed, and no null character is looked
for in them. -/
structure Blames (store : FileStore) (names : List String) (f : PathFault) : Prop where
  not_null : f ≠ .nullCharacter
  long : f = .nameTooLong → ∃ p ∈ names, maxPart < p.utf8ByteSize
  refused : f = .refused → ¬ store.IsOpen

/-- What is to blame behind a part is to blame behind one more part. -/
theorem Blames.cons (h : store.Blames names f) (part : String) :
    store.Blames (part :: names) f where
  not_null := h.not_null
  long hf := by
    obtain ⟨p, hp, hlong⟩ := h.long hf
    exact ⟨p, List.mem_cons_of_mem part hp, hlong⟩
  refused := h.refused

theorem blames_missing (names : List String) : store.Blames names .missing :=
  ⟨by simp, by simp, by simp⟩

theorem blames_notFolder (names : List String) : store.Blames names .notFolder :=
  ⟨by simp, by simp, by simp⟩

theorem blames_refused (names : List String) (h : store.entry? path = some .closed) :
    store.Blames names .refused :=
  ⟨by simp, by simp, fun _ hopen => hopen path h⟩

theorem blames_long {p : String} (hp : p ∈ names) (hlong : maxPart < p.utf8ByteSize) :
    store.Blames names .nameTooLong :=
  ⟨by simp, fun _ => ⟨p, hp, hlong⟩, by simp⟩

/-- A walk that fails does so for one of these reasons, whichever part it fails at. -/
theorem follow_error (h : store.follow here names = .error f) : store.Blames names f := by
  induction names generalizing here with
  | nil =>
    -- no part is left: the folder itself is found or missing
    rw [follow] at h
    split at h
    · cases h
    · cases h
      exact blames_missing []
  | cons part rest ih =>
    rw [follow] at h
    split at h
    · cases h
      exact blames_missing _
    · cases h
      exact blames_notFolder _
    · cases h
      exact blames_notFolder _
    · rename_i hclosed
      cases h
      exact blames_refused _ hclosed
    · split at h
      · -- one folder up
        exact (ih h).cons part
      · -- into the entry that the part names
        split at h
        · rename_i hlong
          cases h
          exact blames_long List.mem_cons_self hlong
        · exact (ih h).cons part

/-- A name is refused as a whole, or the walk is to blame. -/
theorem resolve_error (h : store.resolve name = .error f) :
    '\x00' ∈ name.toList ∧ f = .nullCharacter ∨
      maxName < (normal name).utf8ByteSize ∧ f = .nameTooLong ∨
        store.Blames (parts name) f := by
  rw [resolve, String.contains_char_eq] at h
  split at h
  · rename_i hnull
    cases h
    exact .inl ⟨of_decide_eq_true hnull, rfl⟩
  · split at h
    · rename_i hlong
      cases h
      exact .inr (.inl ⟨hlong, rfl⟩)
    · exact .inr (.inr (follow_error h))

/-- Whether a name can be looked up: neither is it too long, nor does a folder on the way
refuse it.  Any other fault is taken for a file that is not there. -/
structure Answers (store : FileStore) (name : String) : Prop where
  not_long : store.resolve name ≠ .error .nameTooLong
  not_refused : store.resolve name ≠ .error .refused

/-- A name can be looked up exactly if no fault comes up. -/
theorem answers_iff_comesUp :
    store.Answers name ↔ ∀ f, store.resolve name = .error f → f.comesUp = false := by
  constructor
  · intro h f hf
    cases f with
    | nameTooLong => exact absurd hf h.not_long
    | refused => exact absurd hf h.not_refused
    | missing | notFolder | nullCharacter => rfl
  · intro h
    exact ⟨fun hf => Bool.noConfusion (h _ hf), fun hf => Bool.noConfusion (h _ hf)⟩

/-- A name that leads somewhere can be looked up. -/
theorem answers_of_resolve {e : FileEntry} (h : store.resolve name = .ok e) :
    store.Answers name :=
  ⟨by rw [h]; simp, by rw [h]; simp⟩

/-- A name within the limits is not too long. -/
theorem not_long_of_fits (h : Fits name) (store : FileStore) :
    store.resolve name ≠ .error .nameTooLong := by
  intro herror
  rcases resolve_error herror with ⟨-, hf⟩ | ⟨hlong, -⟩ | hblames
  · cases hf
  · exact Nat.not_lt.mpr h.whole hlong
  · obtain ⟨p, hp, hlong⟩ := hblames.long rfl
    exact Nat.not_lt.mpr (h.part p hp) hlong

/-- Where no folder is closed, every name within the limits can be looked up. -/
theorem answers_of_fits (h : Fits name) (hopen : store.IsOpen) : store.Answers name where
  not_long := not_long_of_fits h store
  not_refused herror := by
    rcases resolve_error herror with ⟨-, hf⟩ | ⟨-, hf⟩ | hblames
    · cases hf
    · cases hf
    · exact hblames.refused rfl hopen

/-- A null character is reported exactly where the name has one, since the walk never finds any. -/
theorem resolve_eq_nullCharacter_iff :
    store.resolve name = .error .nullCharacter ↔ '\x00' ∈ name.toList := by
  constructor
  · intro h
    rcases resolve_error h with ⟨hnull, -⟩ | ⟨-, hf⟩ | hblames
    · exact hnull
    · cases hf
    · exact absurd rfl hblames.not_null
  · intro hnull
    rw [resolve, String.contains_char_eq]
    exact if_pos (decide_eq_true hnull)

/-! ### Names of one part -/

/-- A name without slashes is one part, unless it is empty or a point. -/
theorem parts_eq_singleton (hslash : '/' ∉ name.toList) (hne : name ≠ "") (hpoint : name ≠ ".") :
    parts name = [name] := by
  have hcut : name.toList.splitOnP (· = '/') = [name.toList] := by
    refine List.splitOnP_eq_singleton fun c hc => decide_eq_false ?_
    rintro rfl
    exact hslash hc
  rw [parts, hcut]
  simp [hne, hpoint]

/-- Each character takes a byte at least. -/
theorem length_le_utf8ByteSize (cs : List Char) : cs.length ≤ (String.ofList cs).utf8ByteSize := by
  induction cs with
  | nil => exact Nat.zero_le _
  | cons c cs ih =>
    rw [String.ofList_cons, String.utf8ByteSize_append, String.utf8ByteSize_singleton,
      List.length_cons, Nat.add_comm]
    exact Nat.add_le_add c.utf8Size_pos ih

/-- In no store can a name be looked up whose first part is too long. -/
theorem resolve_of_long_part {part : String} {rest : List String}
    (hparts : parts name = part :: rest) (hlong : maxPart < part.utf8ByteSize)
    (hnull : '\x00' ∉ name.toList) (store : FileStore) :
    store.resolve name = .error .nameTooLong := by
  -- going up is no name, and so never too long
  have hup : part ≠ ".." := by
    rintro rfl
    revert hlong
    decide
  have hfollow : store.follow (store.origin name) (part :: rest) = .error .nameTooLong := by
    rw [follow, entry?_origin]
    simp [hup, hlong]
  rw [resolve, String.contains_char_eq, hparts, hfollow]
  simp [hnull]

/-- In no store can a name of one part be looked up that has more characters than a
part may have bytes. -/
theorem resolve_of_long_name {cs : List Char} (hslash : '/' ∉ cs) (hnull : '\x00' ∉ cs)
    (hlong : maxPart < cs.length) (store : FileStore) :
    store.resolve (String.ofList cs) = .error .nameTooLong := by
  have hsize : maxPart < (String.ofList cs).utf8ByteSize :=
    Nat.lt_of_lt_of_le hlong (length_le_utf8ByteSize cs)
  have hne : ∀ short : String, short.utf8ByteSize ≤ maxPart → String.ofList cs ≠ short := by
    rintro short hshort rfl
    exact absurd hsize (Nat.not_lt.mpr hshort)
  have hparts : parts (String.ofList cs) = [String.ofList cs] :=
    parts_eq_singleton (by rwa [String.toList_ofList]) (hne "" (by decide)) (hne "." (by decide))
  exact resolve_of_long_part hparts hsize (by rwa [String.toList_ofList]) store

/-- A name without a slash before it is followed from the folder of the service. -/
theorem resolve_relative (hnull : '\x00' ∉ name.toList) (hslash : ¬ ['/'] <+: name.toList)
    (h : Fits name) (store : FileStore) :
    store.resolve name = store.follow store.home (parts name) := by
  rw [resolve, String.contains_char_eq, origin_of_relative hslash,
    if_neg (Nat.not_lt.mpr h.whole)]
  simp [hnull]

/-- The empty name leads to the folder of the service. -/
theorem resolve_empty (store : FileStore) : store.resolve "" = .ok .folder := by
  have hfits : Fits "" := ⟨by decide +kernel, by decide +kernel⟩
  have hparts : parts "" = [] := by decide +kernel
  rw [resolve_relative (by decide) (by decide) hfits, hparts, follow, entry?_home]

/-- Whether a name is one part that names an entry of the folder of the service. -/
structure IsPart (name : String) : Prop where
  no_slash : '/' ∉ name.toList
  no_null : '\x00' ∉ name.toList
  leads : name ≠ "" ∧ name ≠ "." ∧ name ≠ ".."
  short : name.utf8ByteSize ≤ maxPart

namespace IsPart

theorem parts_eq (h : IsPart name) : parts name = [name] :=
  parts_eq_singleton h.no_slash h.leads.1 h.leads.2.1

theorem not_rooted (h : IsPart name) : ¬ ['/'] <+: name.toList := fun hstart =>
  h.no_slash (hstart.subset List.mem_cons_self)

theorem normal_eq (h : IsPart name) : normal name = name := by
  have hstart : start name = "" := by
    have hnone : name.toList.takeWhile (· = '/') = [] := by
      cases hcs : name.toList with
      | nil => rfl
      | cons c cs =>
        have hc : c ≠ '/' := by
          rintro rfl
          exact h.no_slash (hcs ▸ List.mem_cons_self)
        simp [hc]
    rw [start, hnone]
    rfl
  rw [normal, hstart, h.parts_eq]
  simp [h.leads.1]

/-- A name of one part is within the limits. -/
theorem fits (h : IsPart name) : Fits name where
  whole := by
    rw [h.normal_eq]
    -- a part may be no longer than a whole name
    exact Nat.le_trans h.short (by decide)
  part := by
    rw [h.parts_eq]
    exact List.forall_mem_singleton.mpr h.short

/-- A name of one part leads to the entry under it, if there is one. -/
theorem resolve_eq (h : IsPart name) (store : FileStore) :
    store.resolve name = match store.entry? (store.home ++ [name]) with
      | some e => .ok e
      | none => .error .missing := by
  -- from the folder of the service into the entry, where the name ends
  rw [resolve_relative h.no_null h.not_rooted h.fits, h.parts_eq, follow, entry?_home]
  simp only [if_neg h.leads.2.2, if_neg (Nat.not_lt.mpr h.short)]
  cases hentry : store.entry? (store.home ++ [name]) with
  | none => simp only [follow, hentry]
  | some e => simp only [follow, hentry]

/-- A name of one part can always be looked up: nothing is entered but the folder of the
service. -/
theorem answers (h : IsPart name) (store : FileStore) : store.Answers name where
  not_long := not_long_of_fits h.fits store
  not_refused := by
    rw [h.resolve_eq]
    cases store.entry? (store.home ++ [name]) with
    | none => simp
    | some e => simp

end IsPart

/-- The usual names of the two files that a service reads. -/
theorem isPart_access : IsPart "access.json" :=
  ⟨by decide, by decide, by decide, by decide⟩

theorem isPart_apikeys : IsPart "apikeys.json" :=
  ⟨by decide, by decide, by decide, by decide⟩

/-! ### Files that were written -/

variable {content : ByteArray} {e : FileEntry}

theorem entry?_set_self (h : store.entry? path ≠ some .folder) :
    FileStore.entry? (store.set path e) path = some e := by
  have hhome : ¬ path.isPrefixOf store.home = true := fun hpath => h (entry?_of_home hpath)
  unfold entry? set
  rw [if_neg hhome, List.lookup_cons_self]

theorem entry?_set_of_ne {q : List String} (h : q ≠ path) :
    FileStore.entry? (store.set path e) q = store.entry? q := by
  have hbeq : (q == path) = false := beq_false_of_ne h
  unfold entry? set
  rw [List.lookup_cons, hbeq]

/-- Names lead through the same folders when nothing changes but an entry that was no
folder. -/
theorem follow_of_place? (hplace : store.place? here names = some path)
    (hfolder : store.entry? path ≠ some .folder) :
    (store.set path e).follow here names = .ok e := by
  -- the place was found by the same steps, through folders only
  induction names generalizing here with
  | nil =>
    obtain rfl : here = path := Option.some.inj hplace
    rw [follow, entry?_set_self hfolder]
  | cons part rest ih =>
    rw [place?] at hplace
    split at hplace
    · -- a folder on the way is not the entry that changes
      rename_i hhere
      have hne : here ≠ path := by
        rintro rfl
        exact hfolder hhere
      rw [follow, entry?_set_of_ne hne, hhere]
      split at hplace
      · rename_i hup
        simp only [if_pos hup]
        exact ih hplace
      · rename_i hup
        split at hplace
        · cases hplace
        · rename_i hshort
          simp only [if_neg hup, if_neg hshort]
          exact ih hplace
    · cases hplace

/-- A file can be written under a name that can be followed to a place where nothing is, or a
file that may be replaced. -/
theorem write?_eq_some_iff :
    store.write? name content = some store' ↔
      ('\x00' ∉ name.toList ∧ (normal name).utf8ByteSize ≤ maxName) ∧
        ∃ path, store.place? (store.origin name) (parts name) = some path ∧
          (store.entry? path).all FileEntry.isWritable = true ∧
          store' = store.set path (.file content) := by
  have hname : ¬ (name.contains '\x00' || maxName < (normal name).utf8ByteSize) = true ↔
      '\x00' ∉ name.toList ∧ (normal name).utf8ByteSize ≤ maxName := by
    simp only [Bool.or_eq_true, decide_eq_true_eq, not_or, Nat.not_lt,
      String.contains_char_eq]
  -- the two checks of the name say together what the first part of the statement says
  rw [← hname, write?]
  constructor
  · intro h
    split at h
    · cases h
    · rename_i hallowed
      refine ⟨hallowed, ?_⟩
      split at h
      · cases h
      · rename_i path hplace
        split at h
        · rename_i hwritable
          exact ⟨path, hplace, hwritable, (Option.some.inj h).symm⟩
        · cases h
  · rintro ⟨hallowed, path, hplace, hwritable, rfl⟩
    rw [if_neg hallowed, hplace]
    exact if_pos hwritable

/-- A name leads to the file that was written under it. -/
theorem resolve_of_write? (h : store.write? name content = some store') :
    store'.resolve name = .ok (.file content) := by
  obtain ⟨⟨hnull, hshort⟩, path, hplace, hwritable, rfl⟩ := write?_eq_some_iff.mp h
  have hfolder : store.entry? path ≠ some .folder := by
    intro hfolder
    rw [hfolder] at hwritable
    cases hwritable
  rw [resolve, String.contains_char_eq, if_neg (by simpa using hnull),
    if_neg (Nat.not_lt.mpr hshort)]
  exact follow_of_place? hplace hfolder

/-- A file can be written under a name of one part where nothing stands but a file. -/
theorem IsPart.write?_eq (h : IsPart name)
    (hwritable : (store.entry? (store.home ++ [name])).all FileEntry.isWritable = true)
    (content : ByteArray) :
    store.write? name content = some (store.set (store.home ++ [name]) (.file content)) := by
  have hplace : store.place? (store.origin name) (parts name) = some (store.home ++ [name]) := by
    rw [origin_of_relative h.not_rooted, h.parts_eq, place?, entry?_home]
    simp only [if_neg h.leads.2.2, if_neg (Nat.not_lt.mpr h.short)]
    rw [place?]
  exact write?_eq_some_iff.mpr
    ⟨⟨h.no_null, h.fits.whole⟩, store.home ++ [name], hplace, hwritable, rfl⟩

end FileStore

end RouteAccess
