import TestFleet.Directory

/-!
# Laws of directories

Every update of a directory is described in two ways: by the look-ups after it, and by the list of
its entries, up to their order.

* `get?_eq_some_iff`, `ext_get?`: a directory is its look-ups;
* `get?_filter`, `get?_mapValues`, `modify_eq_insert`: the updates, seen through look-up;
* `entries_insert_perm`, `entries_erase_perm`: a new key adds its entry, and erasing a key takes
  away the entry that it had;
* `ofList_entries`: a directory is made again from its entries.
-/

namespace TestFleet

theorem Key.text_inj {κ : Type} [Key κ] {a b : κ} : Key.text a = Key.text b ↔ a = b :=
  ⟨Key.text_injective, fun h => h ▸ rfl⟩

namespace Directory

variable {κ α β : Type} [Key κ]

theorem keys_nodup (d : Directory κ α) : d.keys.Nodup :=
  d.keys_sorted.imp fun h e => absurd (e ▸ h) (String.lt_irrefl _)

theorem entries_nodup (d : Directory κ α) : d.entries.Nodup :=
  d.sorted.imp fun h e => absurd (e ▸ h) (String.lt_irrefl _)

/-- Two entries of one key are the same. -/
theorem eq_of_mem_entries {d : Directory κ α} {k : κ} {v w : α} (hv : (k, v) ∈ d.entries)
    (hw : (k, w) ∈ d.entries) : v = w := by
  obtain ⟨i, hi, ei⟩ := List.getElem_of_mem hv
  obtain ⟨j, hj, ej⟩ := List.getElem_of_mem hw
  rcases Nat.lt_trichotomy i j with h | rfl | h
  · have := List.pairwise_iff_getElem.1 d.sorted i j hi hj h
    rw [ei, ej] at this
    exact absurd this (String.lt_irrefl _)
  · exact (Prod.ext_iff.1 (ei.symm.trans ej)).2
  · have := List.pairwise_iff_getElem.1 d.sorted j i hj hi h
    rw [ei, ej] at this
    exact absurd this (String.lt_irrefl _)

/-! ## Look-up -/

theorem get?_eq_some_iff {d : Directory κ α} {k : κ} {v : α} :
    d.get? k = some v ↔ (k, v) ∈ d.entries := by
  have atKey {e : κ × α} (he : d.entries.find? (fun e => Key.text e.1 == Key.text k) = some e) :
      (k, e.2) ∈ d.entries := by
    have hk : e.1 = k := Key.text_injective (by simpa using List.find?_some he)
    exact hk ▸ List.mem_of_find?_eq_some he
  simp only [get?, Option.map_eq_some_iff]
  constructor
  · rintro ⟨e, he, rfl⟩
    exact atKey he
  · intro h
    cases he : d.entries.find? (fun e => Key.text e.1 == Key.text k) with
    | none => simpa using List.find?_eq_none.1 he _ h
    | some e => exact ⟨e, rfl, eq_of_mem_entries (atKey he) h⟩

theorem get?_eq_none_iff {d : Directory κ α} {k : κ} : d.get? k = none ↔ k ∉ d.keys := by
  rw [Option.eq_none_iff_forall_ne_some]
  simp only [keys, List.mem_map, Prod.exists, not_exists, ne_eq, get?_eq_some_iff]
  exact ⟨fun h a v ⟨hv, e⟩ => h v (e ▸ hv), fun h v hv => h k v ⟨hv, rfl⟩⟩

theorem mem_keys {d : Directory κ α} {k : κ} : k ∈ d.keys ↔ ∃ v, d.get? k = some v := by
  simp [keys, get?_eq_some_iff]

theorem contains_eq_isSome (d : Directory κ α) (k : κ) : d.contains k = (d.get? k).isSome := by
  rw [Bool.eq_iff_iff, Option.isSome_iff_exists, ← mem_keys]
  simp [contains, keys, Key.text_inj]

theorem contains_iff_mem_keys {d : Directory κ α} {k : κ} : d.contains k = true ↔ k ∈ d.keys := by
  rw [contains_eq_isSome, Option.isSome_iff_exists, mem_keys]

theorem mem_values {d : Directory κ α} {v : α} : v ∈ d.values ↔ ∃ k, d.get? k = some v := by
  simp [values, get?_eq_some_iff]

/-- The values of a directory are found at its keys. -/
theorem values_eq_map_keys (d : Directory κ α) (default : α) :
    d.values = d.keys.map fun k => (d.get? k).getD default := by
  rw [values, keys, List.map_map]
  refine List.map_congr_left fun e he => ?_
  rw [Function.comp_apply, get?_eq_some_iff.2 he, Option.getD_some]

theorem values_eq_nil_iff {d : Directory κ α} : d.values = [] ↔ d.keys = [] := by
  rw [values, keys, List.map_eq_nil_iff, List.map_eq_nil_iff]

/-- Directories with the same look-ups are the same. -/
theorem ext_get? {d e : Directory κ α} (h : ∀ k, d.get? k = e.get? k) : d = e := by
  have perm : d.entries.Perm e.entries :=
    (List.perm_ext_iff_of_nodup d.entries_nodup e.entries_nodup).2 fun (k, v) => by
      rw [← get?_eq_some_iff, ← get?_eq_some_iff, h]
  have same : d.entries = e.entries := by
    refine perm.eq_of_pairwise (fun a b _ _ hab hba => ?_) d.sorted e.sorted
    exact absurd (String.lt_trans hab hba) (String.lt_irrefl _)
  cases d
  cases e
  congr

/-! ## Updates, seen through look-up -/

@[simp] theorem get?_emptyCollection (k : κ) : (∅ : Directory κ α).get? k = none := rfl

theorem get?_insert_self (d : Directory κ α) (k : κ) (v : α) : (d.insert k v).get? k = some v := by
  rw [get?_insert, if_pos rfl]

theorem get?_insert_of_ne (d : Directory κ α) {k k' : κ} (v : α) (h : k' ≠ k) :
    (d.insert k v).get? k' = d.get? k' := by
  rw [get?_insert, if_neg fun e => h (Key.text_injective e).symm]

theorem get?_erase_self (d : Directory κ α) (k : κ) : (d.erase k).get? k = none := by
  rw [get?_erase, if_pos rfl]

theorem get?_erase_of_ne (d : Directory κ α) {k k' : κ} (h : k' ≠ k) :
    (d.erase k).get? k' = d.get? k' := by
  rw [get?_erase, if_neg fun e => h (Key.text_injective e).symm]

theorem get?_filter (d : Directory κ α) (p : κ → α → Bool) (k : κ) :
    (d.filter p).get? k = (d.get? k).filter (p k) := by
  ext v
  rw [get?_eq_some_iff, Option.filter_eq_some_iff, get?_eq_some_iff]
  exact List.mem_filter

theorem get?_mapValues (d : Directory κ α) (f : κ → α → β) (k : κ) :
    (d.mapValues f).get? k = (d.get? k).map (f k) := by
  ext v
  simp only [get?_eq_some_iff, Option.map_eq_some_iff, mapValues, List.mem_map, Prod.exists,
    Prod.mk.injEq]
  exact ⟨fun ⟨_, a, h, e, hv⟩ => ⟨a, e ▸ h, e ▸ hv⟩, fun ⟨a, h, hv⟩ => ⟨k, a, h, rfl, hv⟩⟩

theorem get?_modify_self (d : Directory κ α) (k : κ) (f : α → α) :
    (d.modify k f).get? k = (d.get? k).map f := by
  simp [modify, get?_mapValues]

theorem get?_modify_of_ne (d : Directory κ α) {k k' : κ} (f : α → α) (h : k' ≠ k) :
    (d.modify k f).get? k' = d.get? k' := by
  simp [modify, get?_mapValues, Key.text_inj, h]

theorem keys_mapValues (d : Directory κ α) (f : κ → α → β) : (d.mapValues f).keys = d.keys := by
  simp [keys, mapValues]

theorem keys_modify (d : Directory κ α) (k : κ) (f : α → α) : (d.modify k f).keys = d.keys :=
  keys_mapValues _ _

/-- Replacing the value of a key is writing what becomes of it. -/
theorem modify_eq_insert {d : Directory κ α} {k : κ} {v : α} (h : d.get? k = some v) (f : α → α) :
    d.modify k f = d.insert k (f v) := by
  refine ext_get? fun k' => ?_
  by_cases hk : k' = k
  · subst hk
    rw [get?_modify_self, get?_insert_self, h]
    rfl
  · rw [get?_modify_of_ne _ _ hk, get?_insert_of_ne _ _ hk]

/-- Writing entries one after another: a key that is written holds something, and every other key
holds what it held. -/
theorem get?_foldl_insert_of_not_mem (ks : List κ) (v : α) (d : Directory κ α) {k : κ}
    (h : k ∉ ks) : (ks.foldl (fun d k => d.insert k v) d).get? k = d.get? k := by
  induction ks generalizing d with
  | nil => rfl
  | cons a ks ih =>
    obtain ⟨ha, hks⟩ := not_or.1 (mt List.mem_cons.2 h)
    rw [List.foldl_cons, ih _ hks, get?_insert_of_ne _ _ ha]

theorem get?_foldl_insert_of_mem (ks : List κ) (v : α) (d : Directory κ α) {k : κ}
    (h : k ∈ ks) : (ks.foldl (fun d k => d.insert k v) d).get? k = some v := by
  induction ks generalizing d with
  | nil => cases h
  | cons a ks ih =>
    by_cases hks : k ∈ ks
    · exact ih _ hks
    · obtain rfl : k = a := (List.mem_cons.1 h).resolve_right hks
      rw [List.foldl_cons, get?_foldl_insert_of_not_mem _ _ _ hks, get?_insert_self]

theorem get?_foldl_erase_of_not_mem (ks : List κ) (d : Directory κ α) {k : κ} (h : k ∉ ks) :
    (ks.foldl (fun d k => d.erase k) d).get? k = d.get? k := by
  induction ks generalizing d with
  | nil => rfl
  | cons a ks ih =>
    obtain ⟨ha, hks⟩ := not_or.1 (mt List.mem_cons.2 h)
    rw [List.foldl_cons, ih _ hks, get?_erase_of_ne _ ha]

theorem get?_foldl_erase_of_mem (ks : List κ) (d : Directory κ α) {k : κ} (h : k ∈ ks) :
    (ks.foldl (fun d k => d.erase k) d).get? k = none := by
  induction ks generalizing d with
  | nil => cases h
  | cons a ks ih =>
    by_cases hks : k ∈ ks
    · exact ih _ hks
    · obtain rfl : k = a := (List.mem_cons.1 h).resolve_right hks
      rw [List.foldl_cons, get?_foldl_erase_of_not_mem _ _ hks, get?_erase_self]

/-! ## Updates, seen through the entries -/

/-- A key that had no value adds its entry. -/
theorem entries_insert_perm {d : Directory κ α} {k : κ} (v : α) (h : d.get? k = none) :
    (d.insert k v).entries.Perm ((k, v) :: d.entries) := by
  have fresh : (k, v) ∉ d.entries := fun hv => by simp [get?_eq_some_iff.2 hv] at h
  refine (List.perm_ext_iff_of_nodup (entries_nodup _)
    (List.nodup_cons.2 ⟨fresh, d.entries_nodup⟩)).2 fun (k', v') => ?_
  rw [← get?_eq_some_iff, List.mem_cons, ← get?_eq_some_iff]
  by_cases hk : k' = k
  · subst hk
    rw [get?_insert_self, h]
    simp [eq_comm]
  · rw [get?_insert_of_ne _ _ hk]
    simp [hk]

/-- Erasing a key takes away the entry that it had. -/
theorem entries_erase_perm {d : Directory κ α} {k : κ} {v : α} (h : d.get? k = some v) :
    d.entries.Perm ((k, v) :: (d.erase k).entries) := by
  have gone : (k, v) ∉ (d.erase k).entries := fun hv => by
    simp [← get?_eq_some_iff, get?_erase_self] at hv
  refine (List.perm_ext_iff_of_nodup d.entries_nodup
    (List.nodup_cons.2 ⟨gone, entries_nodup _⟩)).2 fun (k', v') => ?_
  rw [← get?_eq_some_iff, List.mem_cons, ← get?_eq_some_iff]
  by_cases hk : k' = k
  · subst hk
    rw [get?_erase_self, h]
    simp [eq_comm]
  · rw [get?_erase_of_ne _ hk]
    simp [hk]

/-- What a filter keeps and what it leaves out are all entries. -/
theorem entries_filter_perm (d : Directory κ α) (p : κ → α → Bool) :
    ((d.filter p).entries ++ (d.filter fun k v => !p k v).entries).Perm d.entries :=
  List.filter_append_perm _ _

theorem values_filter (d : Directory κ α) (p : α → Bool) :
    (d.filter fun _ v => p v).values = d.values.filter p := by
  rw [values, values, filter, List.filter_map]
  rfl

theorem keys_insert_perm {d : Directory κ α} {k : κ} (v : α) (h : k ∉ d.keys) :
    (d.insert k v).keys.Perm (k :: d.keys) :=
  (entries_insert_perm v (get?_eq_none_iff.2 h)).map Prod.fst

theorem keys_erase_perm {d : Directory κ α} {k : κ} {v : α} (h : d.get? k = some v) :
    d.keys.Perm (k :: (d.erase k).keys) :=
  (entries_erase_perm h).map Prod.fst

theorem values_erase_perm {d : Directory κ α} {k : κ} {v : α} (h : d.get? k = some v) :
    d.values.Perm (v :: (d.erase k).values) :=
  (entries_erase_perm h).map Prod.snd

theorem values_insert_perm {d : Directory κ α} {k : κ} (v : α) (h : k ∉ d.keys) :
    (d.insert k v).values.Perm (v :: d.values) :=
  (entries_insert_perm v (get?_eq_none_iff.2 h)).map Prod.snd

theorem mem_keys_insert {d : Directory κ α} {k k' : κ} (v : α) :
    k' ∈ (d.insert k v).keys ↔ k' = k ∨ k' ∈ d.keys := by
  by_cases h : k' = k
  · simp [mem_keys, h, get?_insert_self]
  · simp [mem_keys, h, get?_insert_of_ne]

theorem mem_keys_erase {d : Directory κ α} {k k' : κ} :
    k' ∈ (d.erase k).keys ↔ k' ≠ k ∧ k' ∈ d.keys := by
  by_cases h : k' = k
  · simp [mem_keys, h, get?_erase_self]
  · simp [mem_keys, h, get?_erase_of_ne]

/-- Writing different new keys adds each of them. -/
theorem keys_foldl_insert_perm (ks : List κ) (v : α) (d : Directory κ α) (nodup : ks.Nodup)
    (fresh : ∀ k ∈ ks, k ∉ d.keys) :
    (ks.foldl (fun d k => d.insert k v) d).keys.Perm (ks ++ d.keys) := by
  induction ks generalizing d with
  | nil => exact .refl _
  | cons a ks ih =>
    obtain ⟨ha, hks⟩ := List.nodup_cons.1 nodup
    have later : ∀ k ∈ ks, k ∉ (d.insert a v).keys := fun k hk h =>
      ((mem_keys_insert v).1 h).elim (fun e => ha (e ▸ hk)) (fresh k (List.mem_cons_of_mem _ hk))
    exact (ih _ hks later).trans
      (((keys_insert_perm v (fresh a List.mem_cons_self)).append_left ks).trans
        List.perm_middle)

/-! ## Lists of entries -/

/-- A key that comes after all others is written behind them. -/
theorem insertEntry_of_lt {k : κ} {es : List (κ × α)} (last : ∀ e ∈ es, Key.text e.1 < Key.text k)
    (v : α) : insertEntry k v es = es ++ [(k, v)] := by
  induction es with
  | nil => rfl
  | cons e es ih =>
    obtain ⟨less, last⟩ := List.forall_mem_cons.1 last
    have other : ¬ Key.text k = Key.text e.1 := fun same => String.lt_irrefl _ (same ▸ less)
    rw [insertEntry, if_neg (String.lt_asymm less), if_neg other, ih last, List.cons_append]

theorem entries_foldl_insert {d : Directory κ α} {es : List (κ × α)}
    (sorted : (d.entries ++ es).Pairwise fun a b => Key.text a.1 < Key.text b.1) :
    (es.foldl (fun d e => d.insert e.1 e.2) d).entries = d.entries ++ es := by
  induction es generalizing d with
  | nil => exact (List.append_nil _).symm
  | cons e es ih =>
    have last : ∀ e' ∈ d.entries, Key.text e'.1 < Key.text e.1 := fun e' he' =>
      (List.pairwise_append.1 sorted).2.2 e' he' e List.mem_cons_self
    have written : (d.insert e.1 e.2).entries ++ es = d.entries ++ e :: es := by
      change insertEntry e.1 e.2 d.entries ++ es = _
      rw [insertEntry_of_lt last, List.append_assoc, List.singleton_append]
    rw [List.foldl_cons, ih (written ▸ sorted), written]

/-- A directory is that of its entries. -/
theorem ofList_entries (d : Directory κ α) : ofList d.entries = d := by
  refine ext_get? fun k => ?_
  have same : (ofList d.entries).entries = d.entries :=
    entries_foldl_insert (d.sorted : (empty.entries ++ d.entries).Pairwise _)
  rw [get?, same, ← get?]

end Directory

end TestFleet
