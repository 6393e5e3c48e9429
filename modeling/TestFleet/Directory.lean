/-!
# Directories

A finite map whose keys are written as text, kept as a list of entries in the order of the keys'
text. A directory lists its entries in one order only, so two directories with the same look-ups
are the same value.

* `get?_insert`, `get?_erase`: the two updates, seen through look-up;
* `keys_sorted`: keys are listed in increasing order of their text.
-/

namespace TestFleet

/-- Keys that are determined by their text. -/
class Key (κ : Type) where
  /-- The text by which keys are compared and listed. -/
  text : κ → String
  /-- No two keys share a text. -/
  text_injective : ∀ {a b : κ}, text a = text b → a = b

instance : Key String := ⟨id, fun h => h⟩

/-- A finite map from `κ` to `α`, listed in the order of the keys' text. -/
structure Directory (κ α : Type) [Key κ] where
  /-- The entries, by increasing text of the key. -/
  entries : List (κ × α)
  /-- Every key is listed once, in order. -/
  sorted : entries.Pairwise (fun a b => Key.text a.1 < Key.text b.1)

namespace Directory

variable {κ α β : Type} [Key κ]

/-- The directory without entries. -/
def empty : Directory κ α := ⟨[], List.Pairwise.nil⟩

instance : EmptyCollection (Directory κ α) := ⟨empty⟩

instance : Inhabited (Directory κ α) := ⟨empty⟩

instance [DecidableEq κ] [DecidableEq α] : DecidableEq (Directory κ α) := fun a b =>
  if h : a.entries = b.entries then
    isTrue (by cases a; cases b; simp_all)
  else
    isFalse (fun hab => h (by rw [hab]))

/-- Writes `v` at `k` in an ordered list of entries. -/
def insertEntry (k : κ) (v : α) : List (κ × α) → List (κ × α)
  | [] => [(k, v)]
  | e :: es =>
    if Key.text k < Key.text e.1 then (k, v) :: e :: es
    else if Key.text k = Key.text e.1 then (k, v) :: es
    else e :: insertEntry k v es

theorem key_of_mem_insertEntry {k : κ} {v : α} {es : List (κ × α)} {e : κ × α}
    (h : e ∈ insertEntry k v es) : e = (k, v) ∨ e ∈ es := by
  induction es with
  | nil => simpa [insertEntry] using h
  | cons d ds ih =>
    simp only [insertEntry] at h
    split at h
    · simpa using h
    · split at h
      · rcases List.mem_cons.1 h with h | h
        · exact .inl h
        · exact .inr (List.mem_cons_of_mem _ h)
      · rcases List.mem_cons.1 h with h | h
        · exact .inr (h ▸ List.mem_cons_self)
        · exact (ih h).imp id (List.mem_cons_of_mem _)

theorem insertEntry_sorted (k : κ) (v : α) {es : List (κ × α)}
    (h : es.Pairwise (fun a b => Key.text a.1 < Key.text b.1)) :
    (insertEntry k v es).Pairwise (fun a b => Key.text a.1 < Key.text b.1) := by
  induction es with
  | nil => simp [insertEntry]
  | cons d ds ih =>
    obtain ⟨hd, hds⟩ := List.pairwise_cons.1 h
    simp only [insertEntry]
    split
    · rename_i hlt
      refine List.pairwise_cons.2 ⟨fun e he => ?_, h⟩
      rcases List.mem_cons.1 he with rfl | he
      · exact hlt
      · exact String.lt_trans hlt (hd e he)
    · split
      · rename_i heq
        exact List.pairwise_cons.2 ⟨fun e he => heq ▸ hd e he, hds⟩
      · rename_i hnlt hne
        refine List.pairwise_cons.2 ⟨fun e he => ?_, ih hds⟩
        rcases key_of_mem_insertEntry he with rfl | he
        · exact Decidable.byContradiction fun hn =>
            hne (String.le_antisymm (String.not_lt.1 hn) (String.not_lt.1 hnlt))
        · exact hd e he

/-- Sets the value at `k`. -/
def insert (d : Directory κ α) (k : κ) (v : α) : Directory κ α :=
  ⟨insertEntry k v d.entries, insertEntry_sorted k v d.sorted⟩

/-- The value at `k`, if there is one. -/
def get? (d : Directory κ α) (k : κ) : Option α :=
  (d.entries.find? (fun e => Key.text e.1 == Key.text k)).map (·.2)

/-- Whether `k` has a value. -/
def contains (d : Directory κ α) (k : κ) : Bool :=
  d.entries.any (fun e => Key.text e.1 == Key.text k)

/-- Keeps the entries that `p` accepts. -/
def filter (d : Directory κ α) (p : κ → α → Bool) : Directory κ α :=
  ⟨d.entries.filter (fun e => p e.1 e.2), d.sorted.filter _⟩

/-- Removes the value at `k`. -/
def erase (d : Directory κ α) (k : κ) : Directory κ α :=
  d.filter (fun k' _ => Key.text k' != Key.text k)

/-- Replaces every value by what `f` makes of it and its key. -/
def mapValues (d : Directory κ α) (f : κ → α → β) : Directory κ β :=
  ⟨d.entries.map (fun e => (e.1, f e.1 e.2)), List.pairwise_map.2 d.sorted⟩

/-- Replaces the value at `k`, if there is one, by what `f` makes of it. -/
def modify (d : Directory κ α) (k : κ) (f : α → α) : Directory κ α :=
  d.mapValues (fun k' v => if Key.text k' == Key.text k then f v else v)

/-- The keys, in order. -/
def keys (d : Directory κ α) : List κ := d.entries.map (·.1)

/-- The values, in the order of their keys. -/
def values (d : Directory κ α) : List α := d.entries.map (·.2)

/-- How many keys have a value. -/
def size (d : Directory κ α) : Nat := d.entries.length

/-- Whether no key has a value. -/
def isEmpty (d : Directory κ α) : Bool := d.entries.isEmpty

/-- The directory of a list of entries; of entries with one key the last counts. -/
def ofList (es : List (κ × α)) : Directory κ α :=
  es.foldl (fun d e => d.insert e.1 e.2) empty

/-! ## Look-up -/

theorem keys_sorted (d : Directory κ α) :
    d.keys.Pairwise (fun a b => Key.text a < Key.text b) :=
  List.pairwise_map.2 d.sorted

@[simp] theorem get?_empty (k : κ) : (empty : Directory κ α).get? k = none := rfl

theorem find?_insertEntry (k k' : κ) (v : α) (es : List (κ × α)) :
    ((insertEntry k v es).find? (fun e => Key.text e.1 == Key.text k')).map (·.2) =
      if Key.text k = Key.text k' then some v
      else (es.find? (fun e => Key.text e.1 == Key.text k')).map (·.2) := by
  induction es with
  | nil => by_cases h : Key.text k = Key.text k' <;> simp [insertEntry, h]
  | cons d ds ih =>
    simp only [insertEntry]
    split
    · by_cases h : Key.text k = Key.text k' <;> simp [List.find?_cons, h]
    · split
      · rename_i heq
        by_cases h : Key.text k = Key.text k'
        · simp [h]
        · have hd : ¬ Key.text d.1 = Key.text k' := fun hd => h (heq.trans hd)
          simp [h, hd]
      · rename_i hne
        by_cases hd : Key.text d.1 = Key.text k'
        · have h : ¬ Key.text k = Key.text k' := fun h => hne (h.trans hd.symm)
          simp [h, hd]
        · simpa [List.find?_cons, hd] using ih

theorem get?_insert (d : Directory κ α) (k k' : κ) (v : α) :
    (d.insert k v).get? k' = if Key.text k = Key.text k' then some v else d.get? k' :=
  find?_insertEntry k k' v d.entries

theorem get?_erase (d : Directory κ α) (k k' : κ) :
    (d.erase k).get? k' = if Key.text k = Key.text k' then none else d.get? k' := by
  simp only [erase, filter, get?, List.find?_filter]
  split
  · rename_i h
    rw [Option.map_eq_none_iff, List.find?_eq_none]
    intro e _
    by_cases he : Key.text e.1 = Key.text k' <;> simp [h, he]
  · rename_i h
    congr 2
    funext e
    by_cases he : Key.text e.1 = Key.text k'
    · have : ¬ Key.text k' = Key.text k := fun hk => h hk.symm
      simp [he, this]
    · simp [he]

end Directory

end TestFleet
