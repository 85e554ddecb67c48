import SensorGateway.KeyMap

/-!
# Looking up, putting in and taking away

What `insert` and `erase` do to a look-up holds of every list of pairs: `insert` puts its pair in
front of every other with the same key, and `erase` takes all of them away.  Order matters for one
thing only, that a key stands in a map once.
-/

namespace SensorGateway.KeyMap

variable {α : Type}

/-- What has just been put under a key is found there. -/
@[simp] theorem find?_insert_self (m : KeyMap α) (key : String) (value : α) :
    (m.insert key value).find? key = some value := by
  unfold find?
  induction m with
  | nil => simp [KeyMap.insert]
  | cons entry rest ih =>
      obtain ⟨k, v⟩ := entry
      unfold KeyMap.insert
      split
      · exact List.lookup_cons_self
      · split
        · exact List.lookup_cons_self
        next hne =>
          rw [List.lookup_cons, beq_eq_false_iff_ne.mpr hne]
          exact ih

/-- Putting a value under one key leaves the others alone. -/
theorem find?_insert_of_ne (m : KeyMap α) {key other : String} (value : α) (h : other ≠ key) :
    (m.insert key value).find? other = m.find? other := by
  have hbeq : (other == key) = false := beq_eq_false_iff_ne.mpr h
  unfold find?
  induction m with
  | nil => simp [KeyMap.insert, h]
  | cons entry rest ih =>
      obtain ⟨k, v⟩ := entry
      unfold KeyMap.insert
      split
      · rw [List.lookup_cons, hbeq]
      · split
        next heq =>
          rw [List.lookup_cons, List.lookup_cons, ← heq, hbeq]
        · rw [List.lookup_cons, List.lookup_cons, ih]

/-- What has been erased is not found any more. -/
@[simp] theorem find?_erase_self (m : KeyMap α) (key : String) :
    (m.erase key).find? key = none := by
  unfold find? erase
  rw [List.lookup_eq_none_iff]
  intro entry hmem
  obtain ⟨-, hne⟩ := List.mem_filter.mp hmem
  exact bne_iff_ne.mpr (Ne.symm (bne_iff_ne.mp hne))

/-- Erasing one key leaves the others alone. -/
theorem find?_erase_of_ne (m : KeyMap α) {key other : String} (h : other ≠ key) :
    (m.erase key).find? other = m.find? other := by
  unfold find? erase
  induction m with
  | nil => rfl
  | cons entry rest ih =>
      obtain ⟨k, v⟩ := entry
      rw [List.filter_cons]
      split
      · rw [List.lookup_cons, List.lookup_cons, ih]
      next hk =>
        have hk : k = key := by simpa using hk
        rw [ih, List.lookup_cons, hk, beq_eq_false_iff_ne.mpr h]

/-- What is found after a value has been put under a key. -/
theorem find?_insert (m : KeyMap α) (key : String) (value : α) (other : String) :
    (m.insert key value).find? other = if other = key then some value else m.find? other := by
  split
  next heq => rw [heq, find?_insert_self]
  next hne => rw [find?_insert_of_ne m value hne]

/-- What is found after a key has been erased. -/
theorem find?_erase (m : KeyMap α) (key other : String) :
    (m.erase key).find? other = if other = key then none else m.find? other := by
  split
  next heq => rw [heq, find?_erase_self]
  next hne => rw [find?_erase_of_ne m hne]

/-- Erasing a key that is not there changes nothing. -/
theorem erase_of_find?_eq_none {m : KeyMap α} {key : String} (h : m.find? key = none) :
    m.erase key = m := by
  unfold find? at h
  rw [List.lookup_eq_none_iff] at h
  refine List.filter_eq_self.mpr fun entry hmem => ?_
  exact bne_iff_ne.mpr (Ne.symm (bne_iff_ne.mp (h entry hmem)))

/-- What is found under a key is an entry. -/
theorem mem_of_find? {m : KeyMap α} {key : String} {value : α} (h : m.find? key = some value) :
    (key, value) ∈ m := by
  obtain ⟨before, behind, rfl, -⟩ := List.lookup_eq_some_iff.mp h
  simp

/-! ## Changing the values -/

/-- Values can be changed before or after another one is put in. -/
theorem insert_map {β : Type} (m : KeyMap α) (f : String → α → β) (key : String) (value : α) :
    (m.insert key value).map (fun entry => (entry.1, f entry.1 entry.2))
      = KeyMap.insert (m.map fun entry => (entry.1, f entry.1 entry.2)) key (f key value) := by
  induction m with
  | nil => rfl
  | cons entry rest ih =>
      obtain ⟨k, v⟩ := entry
      unfold KeyMap.insert
      rw [List.map_cons]
      dsimp only
      split
      · rfl
      · split
        · rfl
        · rw [List.map_cons, ih]

/-- The same holds of several values. -/
theorem insertAll_map {β : Type} (m : KeyMap α) (f : String → α → β)
    (entries : List (String × α)) :
    (m.insertAll entries).map (fun entry => (entry.1, f entry.1 entry.2))
      = KeyMap.insertAll (m.map fun entry => (entry.1, f entry.1 entry.2))
          (entries.map fun entry => (entry.1, f entry.1 entry.2)) := by
  unfold insertAll
  induction entries generalizing m with
  | nil => rfl
  | cons entry entries ih =>
      rw [List.foldl_cons, ih, insert_map]
      rfl

/-! ## Order -/

/-- The keys stand in order, each once. -/
def Sorted (m : KeyMap α) : Prop := m.keys.Pairwise (· < ·)

/-- A map without entries is sorted. -/
theorem sorted_nil : Sorted ([] : KeyMap α) := List.Pairwise.nil

/-- The keys of a map after an insertion are the old ones and the one that was put in. -/
theorem mem_keys_insert {m : KeyMap α} {key other : String} {value : α}
    (h : other ∈ (m.insert key value).keys) : other = key ∨ other ∈ m.keys := by
  unfold keys at h ⊢
  induction m with
  | nil => simpa [KeyMap.insert] using h
  | cons entry rest ih =>
      obtain ⟨k, v⟩ := entry
      unfold KeyMap.insert at h
      split at h
      · simpa using h
      · split at h
        · rcases List.mem_cons.mp h with heq | hmem
          · exact Or.inl heq
          · exact Or.inr (List.mem_cons_of_mem _ hmem)
        · rcases List.mem_cons.mp h with rfl | hmem
          · exact Or.inr List.mem_cons_self
          · exact (ih hmem).imp_right (List.mem_cons_of_mem _)

/-- An insertion keeps the keys sorted, and each of them single. -/
theorem Sorted.insert {m : KeyMap α} (h : Sorted m) (key : String) (value : α) :
    Sorted (m.insert key value) := by
  induction m with
  | nil => exact List.pairwise_singleton _ _
  | cons entry rest ih =>
      obtain ⟨k, v⟩ := entry
      obtain ⟨hk, hrest⟩ := List.pairwise_cons.mp h
      unfold KeyMap.insert
      split
      next hlt =>
        refine List.pairwise_cons.mpr ⟨fun other hmem => ?_, h⟩
        rcases List.mem_cons.mp hmem with rfl | hmem
        · exact hlt
        · exact String.lt_trans hlt (hk other hmem)
      next hnot =>
        split
        next heq =>
          subst heq
          exact List.pairwise_cons.mpr ⟨hk, hrest⟩
        next hne =>
          have hlt : k < key := Std.lt_of_le_of_ne (String.not_lt.mp hnot) (Ne.symm hne)
          refine List.pairwise_cons.mpr ⟨fun other hmem => ?_, ih hrest⟩
          rcases mem_keys_insert hmem with rfl | hmem
          · exact hlt
          · exact hk other hmem

/-- Erasing a key leaves the others in their order. -/
theorem Sorted.erase {m : KeyMap α} (h : Sorted m) (key : String) : Sorted (m.erase key) :=
  List.Pairwise.sublist (List.Sublist.map Prod.fst List.filter_sublist) h

/-- An entry of a sorted map is found under its key, since no other entry has that key. -/
theorem find?_of_mem {m : KeyMap α} (h : Sorted m) {key : String} {value : α}
    (hmem : (key, value) ∈ m) : m.find? key = some value := by
  unfold find?
  induction m with
  | nil => cases hmem
  | cons entry rest ih =>
      obtain ⟨k, v⟩ := entry
      obtain ⟨hk, hrest⟩ := List.pairwise_cons.mp h
      rcases List.mem_cons.mp hmem with heq | hmem
      · cases heq
        exact List.lookup_cons_self
      · have hlt : k < key := hk key (List.mem_map_of_mem hmem)
        have hne : key ≠ k := fun heq => String.lt_irrefl k (heq ▸ hlt)
        rw [List.lookup_cons, beq_eq_false_iff_ne.mpr hne]
        exact ih hrest hmem

/-- In a sorted map, to be found and to be an entry are the same. -/
theorem find?_eq_some_iff {m : KeyMap α} (h : Sorted m) {key : String} {value : α} :
    m.find? key = some value ↔ (key, value) ∈ m :=
  ⟨mem_of_find?, find?_of_mem h⟩

/-- A sorted map has each entry once. -/
theorem Sorted.nodup {m : KeyMap α} (h : Sorted m) : m.Nodup := by
  refine List.Pairwise.imp (fun {a b} hab heq => ?_) (List.pairwise_map.mp h)
  rw [heq] at hab
  exact String.lt_irrefl b.1 hab

/-- A map is what look-ups in it find. -/
theorem Sorted.ext {m m' : KeyMap α} (h : Sorted m) (h' : Sorted m')
    (heq : ∀ key, m.find? key = m'.find? key) : m = m' := by
  have hmem (entry : String × α) : entry ∈ m ↔ entry ∈ m' := by
    obtain ⟨key, value⟩ := entry
    rw [← find?_eq_some_iff h, ← find?_eq_some_iff h', heq]
  have hperm : m.Perm m' := (List.perm_ext_iff_of_nodup h.nodup h'.nodup).mpr hmem
  have hsorted : m.Pairwise fun a b => a.1 < b.1 := List.pairwise_map.mp h
  have hsorted' : m'.Pairwise fun a b => a.1 < b.1 := List.pairwise_map.mp h'
  refine hperm.eq_of_pairwise ?_ hsorted hsorted'
  intro a b _ _ hab hba
  exact absurd (String.lt_trans hab hba) (String.lt_irrefl a.1)

/-- Erasing a key removes the entries that have it, and no others. -/
theorem mem_erase_iff {m : KeyMap α} {key : String} {entry : String × α} :
    entry ∈ m.erase key ↔ entry ∈ m ∧ entry.1 ≠ key := by
  simp [KeyMap.erase]

/-- A pair stands beside those with other keys. -/
theorem Sorted.perm_erase {m : KeyMap α} (h : Sorted m) {key : String} {value : α}
    (hfound : m.find? key = some value) : m.Perm ((key, value) :: m.erase key) := by
  have hnodup : ((key, value) :: m.erase key).Nodup := by
    refine List.nodup_cons.mpr ⟨fun hmem => ?_, (h.erase key).nodup⟩
    exact (mem_erase_iff.mp hmem).2 rfl
  refine (List.perm_ext_iff_of_nodup h.nodup hnodup).mpr fun entry => ?_
  obtain ⟨k, v⟩ := entry
  rw [List.mem_cons, mem_erase_iff, ← find?_eq_some_iff h]
  by_cases hk : k = key
  · simp [hk, hfound, eq_comm]
  · simp [hk]

/-- A value that is put in takes the place of the one that its key had. -/
theorem Sorted.insert_perm {m : KeyMap α} (h : Sorted m) (key : String) (value : α) :
    (m.insert key value).Perm ((key, value) :: m.erase key) := by
  have hothers : (m.insert key value).erase key = m.erase key := by
    refine ((h.insert key value).erase key).ext (h.erase key) fun other => ?_
    rw [find?_erase, find?_erase, find?_insert]
    split <;> rfl
  have hperm := (h.insert key value).perm_erase (find?_insert_self m key value)
  rw [hothers] at hperm
  exact hperm

/-! ## Several pairs at once -/

/-- After several insertions the last value for a key counts. -/
theorem find?_insertAll (m : KeyMap α) (entries : List (String × α)) (key : String) :
    (m.insertAll entries).find? key = (entries.reverse.lookup key).or (m.find? key) := by
  unfold insertAll
  induction entries generalizing m with
  | nil => rfl
  | cons entry entries ih =>
      obtain ⟨k, v⟩ := entry
      rw [List.foldl_cons, ih, find?_insert, List.reverse_cons, List.lookup_append, Option.or_assoc,
        List.lookup_cons, List.lookup_nil]
      by_cases hkey : key = k
      · simp [hkey]
      · simp [hkey, beq_eq_false_iff_ne.mpr hkey]

/-- A map stays sorted however many values are put in. -/
theorem Sorted.insertAll {m : KeyMap α} (h : Sorted m) (entries : List (String × α)) :
    Sorted (m.insertAll entries) := by
  unfold KeyMap.insertAll
  induction entries generalizing m with
  | nil => exact h
  | cons entry entries ih => exact ih (h.insert entry.1 entry.2)

/-- Under a new key a value is added. -/
theorem insert_perm_cons {m : KeyMap α} (h : Sorted m) {key : String} (value : α)
    (hnew : key ∉ m.keys) : (m.insert key value).Perm ((key, value) :: m) := by
  have hnone : m.find? key = none := by
    refine List.lookup_eq_none_iff.mpr fun entry hmem => bne_iff_ne.mpr ?_
    rintro rfl
    exact hnew (List.mem_map_of_mem hmem)
  have hperm := h.insert_perm key value
  rw [erase_of_find?_eq_none hnone] at hperm
  exact hperm

/-- Where no key comes twice, all pairs are there, beside those that were. -/
theorem insertAll_perm {m : KeyMap α} (h : Sorted m) {entries : List (String × α)}
    (hnodup : (keys (entries ++ m)).Nodup) : (m.insertAll entries).Perm (entries ++ m) := by
  unfold KeyMap.insertAll
  induction entries generalizing m with
  | nil => exact .refl _
  | cons entry entries ih =>
      obtain ⟨key, value⟩ := entry
      have hkeys : (keys ((key, value) :: (entries ++ m))).Nodup := hnodup
      have hnew : key ∉ m.keys := by
        intro hmem
        refine (List.nodup_cons.mp hkeys).1 ?_
        rw [List.map_append]
        exact List.mem_append_right _ hmem
      have hinsert := insert_perm_cons h value hnew
      have hmove : (entries ++ m.insert key value).Perm ((key, value) :: (entries ++ m)) :=
        (hinsert.append_left entries).trans List.perm_middle
      have hnodup' : (keys (entries ++ m.insert key value)).Nodup :=
        (hmove.map Prod.fst).nodup_iff.mpr hkeys
      exact (ih (h.insert key value) hnodup').trans hmove

/-- A map made of entries is sorted. -/
theorem sorted_ofList (entries : List (String × α)) : Sorted (ofList entries) :=
  sorted_nil.insertAll entries

/-- If no key occurs twice, a map made of entries has just these. -/
theorem ofList_perm {entries : List (String × α)} (h : (keys entries).Nodup) :
    (ofList entries).Perm entries := by
  have hnodup : (keys (entries ++ [])).Nodup := by rwa [List.append_nil]
  have hperm := insertAll_perm sorted_nil hnodup
  rw [List.append_nil] at hperm
  exact hperm

/-- If no key occurs twice, each entry is found under its key. -/
theorem find?_ofList {entries : List (String × α)} (h : (keys entries).Nodup) {key : String}
    {value : α} (hmem : (key, value) ∈ entries) : (ofList entries).find? key = some value :=
  find?_of_mem (sorted_ofList entries) ((ofList_perm h).mem_iff.mpr hmem)

end SensorGateway.KeyMap
