import Mathlib.Data.List.AList

/-!
# Finite maps

Hash maps are modelled by Mathlib's association lists with distinct keys. This
module adds what a packet log needs on top of `insert`, `erase` and `lookup`:
the number of entries, `retain`, and how the two ways of deleting a range of
keys (one by one, or in one sweep) relate.
-/

/-- A map from keys to values with finitely many entries. -/
abbrev FiniteMap (κ α : Type) : Type := AList fun _ : κ => α

namespace FiniteMap

variable {κ α : Type}

/-- Number of entries. -/
def len (m : FiniteMap κ α) : Nat := m.entries.length

/-- Keep the entries that satisfy `p`. -/
def retain (p : κ → α → Bool) (m : FiniteMap κ α) : FiniteMap κ α :=
  ⟨m.entries.filter fun e => p e.1 e.2, m.nodupKeys.sublist List.filter_sublist⟩

theorem len_empty : len (∅ : FiniteMap κ α) = 0 := rfl

theorem mem_of_mem_retain {p : κ → α → Bool} {m : FiniteMap κ α} {k : κ}
    (h : k ∈ retain p m) : k ∈ m := by
  simp only [AList.mem_keys, AList.keys, List.mem_keys, retain, List.mem_filter] at h ⊢
  obtain ⟨v, member, -⟩ := h
  exact ⟨v, member⟩

theorem mem_retain_key {p : κ → Bool} {m : FiniteMap κ α} {k : κ} :
    k ∈ retain (fun k _ => p k) m ↔ k ∈ m ∧ p k = true := by
  simp only [AList.mem_keys, AList.keys, List.mem_keys, retain, List.mem_filter]
  constructor
  · rintro ⟨v, member, kept⟩
    exact ⟨⟨v, member⟩, kept⟩
  · rintro ⟨⟨v, member⟩, kept⟩
    exact ⟨v, member, kept⟩

variable [DecidableEq κ]

/-- A sweep on the key keeps the values of the keys that stay. -/
theorem lookup_retain_key (p : κ → Bool) (m : FiniteMap κ α) (k : κ) :
    (retain (fun k _ => p k) m).lookup k = if p k then m.lookup k else none := by
  apply Option.ext
  intro v
  have entry : v ∈ (retain (fun k _ => p k) m).lookup k ↔ v ∈ m.lookup k ∧ p k = true := by
    rw [AList.mem_lookup_iff, AList.mem_lookup_iff]
    simp only [retain, List.mem_filter]
  by_cases kept : p k = true
  · simpa [kept] using entry
  · simpa [kept] using entry

theorem len_erase_le (k : κ) (m : FiniteMap κ α) : len (m.erase k) ≤ m.len :=
  (List.kerase_sublist _ _).length_le

theorem len_insert_le (k : κ) (v : α) (m : FiniteMap κ α) : len (m.insert k v) ≤ m.len + 1 := by
  change (List.kinsert k v m.entries).length ≤ m.entries.length + 1
  simpa [List.kinsert] using (List.kerase_sublist k m.entries).length_le

private theorem kerase_eq_filter (k : κ) (l : List (Sigma fun _ : κ => α)) (nodup : l.NodupKeys) :
    l.kerase k = l.filter fun e => decide (e.1 ≠ k) := by
  induction l with
  | nil => rfl
  | cons e rest ih =>
    obtain ⟨head, tail⟩ := List.nodupKeys_cons.mp nodup
    by_cases same : k = e.1
    · subst same
      have untouched : rest.filter (fun e' => decide (e'.1 ≠ e.1)) = rest := by
        apply List.filter_eq_self.mpr
        intro e' member
        have differs : e'.1 ≠ e.1 := by
          intro equal
          exact head (equal ▸ List.mem_keys_of_mem member)
        simpa using differs
      rw [List.kerase_cons_eq rfl, List.filter_cons_of_neg (by simp), untouched]
    · rw [List.kerase_cons_ne same, ih tail, List.filter_cons_of_pos (by simpa using Ne.symm same)]

/-- Deleting one key is a sweep that keeps every other one. -/
theorem erase_eq_retain (k : κ) (m : FiniteMap κ α) :
    m.erase k = retain (fun k' _ => decide (k' ≠ k)) m :=
  AList.ext (kerase_eq_filter k m.entries m.nodupKeys)

/-- Deleting a key that is present leaves one entry less. -/
theorem len_erase_add_one {k : κ} {m : FiniteMap κ α} (member : k ∈ m) :
    len (m.erase k) + 1 = m.len := by
  obtain ⟨v, found⟩ := Option.isSome_iff_exists.mp (AList.lookup_isSome.mpr member)
  have entry : (⟨k, v⟩ : Sigma fun _ : κ => α) ∈ m.entries := AList.mem_lookup_iff.mp found
  obtain ⟨_, before, after, fresh, split, rest⟩ := List.exists_of_kerase (List.mem_keys_of_mem entry)
  change (List.kerase k m.entries).length + 1 = m.entries.length
  rw [rest, split]
  simp only [List.length_append, List.length_cons]
  omega

omit [DecidableEq κ] in
/-- Sweeps on the key compose. -/
theorem retain_retain_key (p q : κ → Bool) (m : FiniteMap κ α) :
    retain (fun k _ => q k) (retain (fun k _ => p k) m) = retain (fun k _ => p k && q k) m := by
  apply AList.ext
  simp only [retain, List.filter_filter]
  congr 1
  funext e
  exact Bool.and_comm _ _

/-- Deleting a list of keys one after the other is one sweep over the map. -/
theorem foldl_erase_eq_retain (ks : List κ) (m : FiniteMap κ α) :
    ks.foldl (fun m k => AList.erase k m) m = retain (fun k _ => decide (k ∉ ks)) m := by
  induction ks generalizing m with
  | nil =>
    apply AList.ext
    simp [retain]
  | cons k rest ih =>
    rw [List.foldl_cons, ih, erase_eq_retain, retain_retain_key]
    apply AList.ext
    simp [retain]

omit [DecidableEq κ] in
/-- Two sweeps on the key agree when they agree on the keys present. -/
theorem retain_congr_key {p q : κ → Bool} {m : FiniteMap κ α} (h : ∀ k ∈ m, p k = q k) :
    retain (fun k _ => p k) m = retain (fun k _ => q k) m := by
  apply AList.ext
  simp only [retain]
  apply List.filter_congr
  intro e member
  exact h e.1 (List.mem_keys_of_mem member)

omit [DecidableEq κ] in
/-- Two sweeps that leave the same map agree on every key present. -/
theorem retain_key_inj {p q : κ → Bool} {m : FiniteMap κ α}
    (h : retain (fun k _ => p k) m = retain (fun k _ => q k) m) :
    ∀ k ∈ m, p k = q k := by
  intro k member
  have same : k ∈ retain (fun k _ => p k) m ↔ k ∈ retain (fun k _ => q k) m := by rw [h]
  simp only [mem_retain_key, member, true_and] at same
  exact Bool.eq_iff_iff.mpr same

/-- A key holds what the last insertion under it wrote, or what it held before all of them. -/
theorem lookup_foldl_insert {β : Type} (key : β → κ) (value : β → α) (entries : List β)
    (m : FiniteMap κ α) (k : κ) :
    (∃ entry ∈ entries, key entry = k ∧
      (entries.foldl (fun m entry => m.insert (key entry) (value entry)) m).lookup k =
        some (value entry)) ∨
    ((∀ entry ∈ entries, key entry ≠ k) ∧
      (entries.foldl (fun m entry => m.insert (key entry) (value entry)) m).lookup k =
        m.lookup k) := by
  induction entries generalizing m with
  | nil => exact Or.inr ⟨fun entry member => absurd member List.not_mem_nil, rfl⟩
  | cons first rest ih =>
    rw [List.foldl_cons]
    rcases ih (m.insert (key first) (value first)) with ⟨entry, member, same, held⟩ | ⟨others, held⟩
    · exact Or.inl ⟨entry, List.mem_cons_of_mem _ member, same, held⟩
    · by_cases same : key first = k
      · subst same
        refine Or.inl ⟨first, List.mem_cons_self, rfl, ?_⟩
        rw [held, AList.lookup_insert]
      · refine Or.inr ⟨fun entry member => ?_, ?_⟩
        · rcases List.mem_cons.mp member with rfl | later
          · exact same
          · exact others entry later
        · rw [held, AList.lookup_insert_ne (Ne.symm same)]

theorem lookup_foldl_erase (ks : List κ) (m : FiniteMap κ α) (k : κ) :
    (ks.foldl (fun m k => m.erase k) m).lookup k = if k ∈ ks then none else m.lookup k := by
  induction ks generalizing m with
  | nil => simp
  | cons first rest ih =>
    rw [List.foldl_cons, ih]
    by_cases same : k = first
    · subst same
      simp [AList.lookup_erase]
    · simp [same, AList.lookup_erase_ne]

end FiniteMap
