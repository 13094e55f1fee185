/-
RouteAccess/Proofs/Vault/Registration.lean

Who is known by a key of the vault.  A request presents an identifier, a key and the
address of a known peer (`Presents`).  The vault looks at one entry only, the first one
that is for this identifier from this address (`find?_eq_some_iff`), and gives the name of
this entry if it holds the key and its deadline is not over by the clocks (`Clock.IsWithin`).
In no other case does it give anything (`subjects_eq_some_iff`):

    (v.resolve now request).subjects = some s
      ↔ Presents request id key address, c is the first entry for them, c.Holds now key,
        s = Subject.join [some c.name].

So whoever is known is registered, with all that was presented in one and the same entry
(`registered_of_subjects`).  The converse holds of the first entry: a key that only a later
entry for the same identifier and address holds is of no use (`known_iff_first_holds`).
-/
import RouteAccess.Subject.Resolver

namespace RouteAccess

variable {v : Vault} {c : VaultClient} {now : Clock} {request : Request}
variable {id key address s : String}

/-! ### Entries -/

namespace VaultClient

/-- Whether an entry is for an identifier from an address. -/
structure IsFor (c : VaultClient) (id address : String) : Prop where
  id_eq : c.id = id
  listed : address ∈ c.addresses

/-- Whether an entry holds a key whose deadline is not over. -/
def Holds (c : VaultClient) (now : Clock) (key : String) : Prop :=
  ∃ k ∈ c.keys, k.secret = key ∧ now.IsWithin k.deadline

/-- An entry is taken for an identifier and an address if it has the one and lists the other. -/
theorem isFor_iff :
    (decide (c.id = id) && c.addresses.contains address) = true ↔ c.IsFor id address := by
  rw [Bool.and_eq_true, decide_eq_true_eq, List.contains_iff_mem]
  constructor
  · rintro ⟨hid, hlisted⟩
    exact ⟨hid, hlisted⟩
  · rintro ⟨hid, hlisted⟩
    exact ⟨hid, hlisted⟩

/-- The secrets of an entry that are valid are those of the keys that have not expired. -/
theorem mem_validSecrets : key ∈ c.validSecrets now none ↔ c.Holds now key := by
  rw [validSecrets, List.mem_map]
  constructor
  · rintro ⟨k, hk, rfl⟩
    obtain ⟨hmem, hvalid⟩ := List.mem_filter.mp hk
    have hlive : now.IsWithin k.deadline := of_decide_eq_true hvalid
    exact ⟨k, hmem, rfl, hlive⟩
  · rintro ⟨k, hmem, rfl, hlive⟩
    have hvalid : k.isValid now none = true := decide_eq_true hlive
    exact ⟨k, List.mem_filter.mpr ⟨hmem, hvalid⟩, rfl⟩

end VaultClient

namespace Vault

/-- The entry that is looked at is the first one for the identifier from the address. -/
theorem find?_eq_some_iff :
    v.find? id (some address) = some c ↔
      c.IsFor id address ∧ ∃ before after, v.clients = before ++ c :: after ∧
        ∀ d ∈ before, ¬ d.IsFor id address := by
  show v.clients.find? _ = some c ↔ _
  rw [List.find?_eq_some_iff_append, VaultClient.isFor_iff]
  simp only [Bool.not_eq_true', ← Bool.not_eq_true, VaultClient.isFor_iff]

theorem mem_of_find? (h : v.find? id (some address) = some c) : c ∈ v.clients := by
  obtain ⟨-, before, after, hsplit, -⟩ := find?_eq_some_iff.mp h
  rw [hsplit]
  exact List.mem_append_right before List.mem_cons_self

/-! ### Requests -/

/-- Whether a request presents an identifier, which must not be empty, and a key, and comes
from an address. -/
structure Presents (request : Request) (id key address : String) : Prop where
  id_eq : request.header? "x-client-id" = some id
  id_ne : id ≠ ""
  key_eq : request.header? "x-client-key" = some key
  peer_eq : request.peer = some address

/-- A request presents no more than one identifier, key and address. -/
theorem Presents.unique {id' key' address' : String} (h : Presents request id key address)
    (h' : Presents request id' key' address') : id = id' ∧ key = key' ∧ address = address' :=
  ⟨Option.some.inj (h.id_eq.symm.trans h'.id_eq), Option.some.inj (h.key_eq.symm.trans h'.key_eq),
    Option.some.inj (h.peer_eq.symm.trans h'.peer_eq)⟩

/-- What was presented decides, by the entry that is looked at. -/
theorem subjects_of_presents (h : Presents request id key address) :
    (v.resolve now request).subjects =
      match v.find? id (some address) with
      | none => none
      | some c =>
        if key ∈ c.validSecrets now none then some (Subject.join [some c.name]) else none := by
  have hid : request.header? "x-client-id" = some id := h.id_eq
  rw [resolve, hid]
  -- the key is not looked at before an entry was found
  simp only [if_neg h.id_ne, h.peer_eq, h.key_eq]
  cases hfound : v.find? id (some address) with
  | none =>
    -- with clients or without any, nothing comes of it but a notice
    split <;> rfl
  | some c =>
    have hclients : v.clients ≠ [] := by
      obtain ⟨-, before, after, hsplit, -⟩ := find?_eq_some_iff.mp hfound
      rw [hsplit]
      exact List.append_ne_nil_of_right_ne_nil _ (List.cons_ne_nil _ _)
    simp only [if_neg hclients, Option.map_some, Option.getD_some, List.contains_iff_mem]
    split
    · -- without a valid key the entry holds none
      rename_i hnone
      rw [hnone, if_neg List.not_mem_nil]
    · split <;> rfl

/-- Subjects come from requests only that present all there is to present. -/
theorem exists_presents (h : (v.resolve now request).subjects = some s) :
    ∃ id key address, Presents request id key address := by
  rw [resolve] at h
  cases hid : request.header? "x-client-id" with
  | none =>
    rw [hid] at h
    cases h
  | some id =>
    simp only [hid] at h
    by_cases hempty : id = ""
    · rw [if_pos hempty] at h
      cases h
    · rw [if_neg hempty] at h
      cases hpeer : request.peer with
      | none =>
        -- no entry is looked at for a peer that is not known
        have hfind : v.find? id none = none := rfl
        simp only [hpeer, hfind] at h
        split at h <;> cases h
      | some address =>
        cases hkey : request.header? "x-client-key" with
        | none =>
          -- an entry that is found is of no use without a key
          simp only [hkey] at h
          split at h
          · cases h
          · split at h
            · cases h
            · split at h <;> cases h
        | some key => exact ⟨id, key, address, hid, hempty, hkey, hpeer⟩

/-- A request is resolved exactly if the first entry for what it presents holds its key. -/
theorem subjects_eq_some_iff :
    (v.resolve now request).subjects = some s ↔
      ∃ id key address c, Presents request id key address ∧
        v.find? id (some address) = some c ∧ c.Holds now key ∧
        s = Subject.join [some c.name] := by
  constructor
  · intro h
    obtain ⟨id, key, address, hpresents⟩ := exists_presents h
    rw [subjects_of_presents hpresents] at h
    cases hfound : v.find? id (some address) with
    | none =>
      rw [hfound] at h
      cases h
    | some c =>
      -- the key that is presented is among the valid ones of the first entry
      simp only [hfound] at h
      split at h
      · rename_i hmem
        have hs : Subject.join [some c.name] = s := Option.some.inj h
        exact ⟨id, key, address, c, hpresents, hfound, VaultClient.mem_validSecrets.mp hmem,
          hs.symm⟩
      · cases h
  · rintro ⟨id, key, address, c, hpresents, hfound, hholds, rfl⟩
    rw [subjects_of_presents hpresents, hfound]
    exact if_pos (VaultClient.mem_validSecrets.mpr hholds)

/-! ### Known senders are registered -/

/-- Whoever is known has presented an identifier, a key and an address that stand in one
entry of the vault, where the key has not expired, and is known by the name of this entry.
Without an identifier, a key or an address nobody is known. -/
theorem registered_of_subjects (v : Vault) (now : Clock) (request : Request) :
    (∀ s, (v.resolve now request).subjects = some s →
      ∃ id key address, Presents request id key address ∧
        ∃ c ∈ v.clients, c.id = id ∧ address ∈ c.addresses ∧
          (∃ k ∈ c.keys, k.secret = key ∧ now.IsWithin k.deadline) ∧
          s = Subject.join [some c.name]) ∧
    (request.header? "x-client-id" = none ∨ request.header? "x-client-key" = none ∨
        request.peer = none →
      (v.resolve now request).subjects = none) := by
  constructor
  · intro s hs
    obtain ⟨id, key, address, c, hpresents, hfound, hholds, hname⟩ := subjects_eq_some_iff.mp hs
    obtain ⟨hfor, -⟩ := find?_eq_some_iff.mp hfound
    exact ⟨id, key, address, hpresents, c, mem_of_find? hfound, hfor.id_eq, hfor.listed, hholds,
      hname⟩
  · intro hmissing
    apply Option.eq_none_iff_forall_ne_some.mpr
    intro s hs
    obtain ⟨id, key, address, hpresents⟩ := exists_presents hs
    rcases hmissing with hnone | hnone | hnone
    · exact Option.some_ne_none _ (hpresents.id_eq.symm.trans hnone)
    · exact Option.some_ne_none _ (hpresents.key_eq.symm.trans hnone)
    · exact Option.some_ne_none _ (hpresents.peer_eq.symm.trans hnone)

/-- A request that presents an identifier and a key from an address. -/
def requestFrom (address id key : String) : Request :=
  { path := "/api/x", headers := [("x-client-id", id), ("x-client-key", key)],
    peer := some address }

/-- A request with all three headers presents what it was made of. -/
theorem presents_requestFrom (hne : id ≠ "") (address key : String) :
    Presents (requestFrom address id key) id key address where
  id_eq := by simp [requestFrom, Request.header?]
  id_ne := hne
  key_eq := by
    have hother : "x-client-id".toLower ≠ "x-client-key".toLower := by decide +kernel
    simp [requestFrom, Request.header?, hother]
  peer_eq := rfl

/-- A vault in which one identifier has an entry for each of two addresses, the second with
a key whose deadline is on a clock ahead of universal time. -/
def twoSites : Vault :=
  ⟨[⟨"reporting", "Reporting", ["10.0.0.7"], [⟨"east", ⟨5000000, none⟩⟩]⟩,
    ⟨"reporting", "Archive", ["10.0.0.8"],
      [⟨"old", ⟨1000000, none⟩⟩, ⟨"west", ⟨3605000000, some 3600⟩⟩]⟩]⟩

/-- At the instant of the deadline, the key of the second site makes its client known. -/
theorem registered_of_twoSites :
    let request := requestFrom "10.0.0.8" "reporting" "west"
    let now : Clock := .universal 5000000
    (twoSites.resolve now request).subjects = some "ARCHIVE" ∧
      ∃ id key address, Presents request id key address ∧
        ∃ c ∈ twoSites.clients, c.id = id ∧ address ∈ c.addresses ∧
          (∃ k ∈ c.keys, k.secret = key ∧ now.IsWithin k.deadline) ∧
          "ARCHIVE" = Subject.join [some c.name] := by
  intro request now
  have hknown : (twoSites.resolve now request).subjects = some "ARCHIVE" := by
    decide +kernel
  exact ⟨hknown, (registered_of_subjects twoSites now request).1 "ARCHIVE" hknown⟩

/-! ### Registered senders -/

/-- A sender is known exactly if the first entry for the identifier from the address holds
the key. -/
theorem subjects_ne_none_iff (h : Presents request id key address) :
    (v.resolve now request).subjects ≠ none ↔
      ∃ before c after, v.clients = before ++ c :: after ∧
        (∀ d ∈ before, ¬ d.IsFor id address) ∧ c.IsFor id address ∧ c.Holds now key := by
  rw [Option.ne_none_iff_exists']
  constructor
  · rintro ⟨s, hs⟩
    obtain ⟨id', key', address', c, hpresents, hfound, hholds, -⟩ := subjects_eq_some_iff.mp hs
    -- a request presents one identifier, one key and one address
    obtain ⟨rfl, rfl, rfl⟩ := hpresents.unique h
    obtain ⟨hfor, before, after, hsplit, hbefore⟩ := find?_eq_some_iff.mp hfound
    exact ⟨before, c, after, hsplit, hbefore, hfor, hholds⟩
  · rintro ⟨before, c, after, hsplit, hbefore, hfor, hholds⟩
    have hfound : v.find? id (some address) = some c :=
      find?_eq_some_iff.mpr ⟨hfor, before, after, hsplit, hbefore⟩
    exact ⟨_, subjects_eq_some_iff.mpr ⟨id, key, address, c, h, hfound, hholds, rfl⟩⟩

/-- Whether no two entries are for one identifier from one address. -/
def IsApart (v : Vault) (id address : String) : Prop :=
  v.clients.Pairwise fun c d => ¬ (c.IsFor id address ∧ d.IsFor id address)

/-- An entry is the first one of its kind if there is no other. -/
theorem IsApart.first (hapart : v.IsApart id address) (hmem : c ∈ v.clients)
    (hfor : c.IsFor id address) :
    ∃ before after, v.clients = before ++ c :: after ∧ ∀ d ∈ before, ¬ d.IsFor id address := by
  obtain ⟨before, after, hsplit⟩ := List.append_of_mem hmem
  rw [IsApart, hsplit, List.pairwise_append] at hapart
  obtain ⟨-, -, hcross⟩ := hapart
  refine ⟨before, after, hsplit, ?_⟩
  intro d hd hdfor
  exact hcross d hd c List.mem_cons_self ⟨hdfor, hfor⟩

/-- A sender is known exactly if the first entry for the identifier from the address holds
the key.  Where no two entries are for this identifier from this address, every registered
key that has not expired makes its sender known. -/
theorem known_iff_first_holds (h : Presents request id key address) :
    ((v.resolve now request).subjects ≠ none ↔
      ∃ before c after, v.clients = before ++ c :: after ∧
        (∀ d ∈ before, ¬ d.IsFor id address) ∧ c.IsFor id address ∧ c.Holds now key) ∧
    (v.IsApart id address → (∃ c ∈ v.clients, c.IsFor id address ∧ c.Holds now key) →
      (v.resolve now request).subjects ≠ none) := by
  refine ⟨subjects_ne_none_iff h, ?_⟩
  rintro hapart ⟨c, hmem, hfor, hholds⟩
  obtain ⟨before, after, hsplit, hbefore⟩ := hapart.first hmem hfor
  exact (subjects_ne_none_iff h).mpr ⟨before, c, after, hsplit, hbefore, hfor, hholds⟩

/-- The moment at which a year starts, on a clock of which no more is known. -/
def startOf (year : Nat) : Moment :=
  ⟨Moment.wallOf ⟨year, 1, 1⟩ 0 0, none⟩

/-- A vault in which a key was replaced by adding an entry. -/
def rotated : Vault :=
  ⟨[⟨"reporting", "Reporting", ["10.0.0.7"], [⟨"old", startOf 2030⟩]⟩,
    ⟨"reporting", "Reporting", ["10.0.0.7"], [⟨"new", startOf 2031⟩]⟩]⟩

/-- The key of the first entry makes its sender known. -/
theorem known_by_first_entry :
    let request := requestFrom "10.0.0.7" "reporting" "old"
    Presents request "reporting" "old" "10.0.0.7" ∧
      (rotated.resolve (.universal (startOf 2024).instant) request).subjects ≠ none := by
  intro request
  have hpresents : Presents request "reporting" "old" "10.0.0.7" :=
    presents_requestFrom (by decide) "10.0.0.7" "old"
  refine ⟨hpresents, (known_iff_first_holds hpresents).1.mpr ?_⟩
  refine ⟨[], _, _, rfl, ?_, ⟨rfl, List.mem_cons_self⟩, ?_⟩
  · intro d hd
    cases hd
  · exact ⟨⟨"old", startOf 2030⟩, List.mem_cons_self, rfl, by decide +kernel⟩

/-- The key of the second entry does not, though this entry is for the same identifier from
the same address, and the key has not expired. -/
theorem unknown_by_second_entry :
    let request := requestFrom "10.0.0.7" "reporting" "new"
    let now : Clock := .universal (startOf 2024).instant
    Presents request "reporting" "new" "10.0.0.7" ∧
      (∃ c ∈ rotated.clients, c.IsFor "reporting" "10.0.0.7" ∧ c.Holds now "new") ∧
      (rotated.resolve now request).subjects = none := by
  intro request now
  refine ⟨presents_requestFrom (by decide) "10.0.0.7" "new", ?_, by decide +kernel⟩
  refine ⟨_, List.mem_cons_of_mem _ List.mem_cons_self, ⟨rfl, List.mem_cons_self⟩, ?_⟩
  exact ⟨⟨"new", startOf 2031⟩, List.mem_cons_self, rfl, by decide +kernel⟩

end Vault

end RouteAccess
