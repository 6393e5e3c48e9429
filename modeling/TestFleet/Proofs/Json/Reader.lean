import TestFleet.Json.Reader
import TestFleet.Proofs.Json.Parser

/-!
# Reading values of known types

A reader takes what was written of a value for the value again. This is shown for each way of making
readers out of others, so that it follows for a type from its parts.

* `Reads`: a reader takes a written value for what it was written of;
* `Gathers`: so do the fields of a record, from the fields of an object with different names;
* `Reads.record`, `Reads.oneOf`, `Reads.beside`, `Reads.among`: records and alternatives;
* `Reads.ofBytes`: what was written alone, in bytes.
-/

namespace TestFleet.Json

variable {α β : Type} {level : Nat}

/-- The reader takes the value, written inside so many arrays and objects, for `a`. -/
def Reads (level : Nat) (r : Reader α) (j : Json) (a : α) : Prop :=
  r level (Draft.ofJson j) = .ok a

/-! ## Numbers -/

theorem accumulate_eq {s : Nat} {cs : List Char} (fits : Nat.ofDigitChars 10 cs s < UInt64.size) :
    Numeral.accumulate s (cs.map fun c => c.toNat - '0'.toNat) = (Nat.ofDigitChars 10 cs s, 0) := by
  induction cs generalizing s with
  | nil => rfl
  | cons c cs ih =>
    rw [Nat.ofDigitChars_cons] at fits ⊢
    have more := Nat.lt_of_le_of_lt (Text.le_ofDigitChars cs _) fits
    rw [List.map_cons, Numeral.accumulate, if_pos more, ih fits]

theorem natural?_ofNatural {n : Nat} (fits : n < UInt64.size) :
    (Numeral.ofNatural n).natural? = some n := by
  have whole : Numeral.accumulate 0 ((Text.decimalDigits n).map fun c => c.toNat - '0'.toNat) =
      (n, 0) := by
    have same : Nat.ofDigitChars 10 (Text.decimalDigits n) 0 = n := Nat.ofDigitChars_ten_toDigits
    rw [accumulate_eq (by rwa [same]), same]
  rw [Numeral.ofNatural, Numeral.ofDigits, whole]
  rfl

namespace Reads

/-! ## Plain values -/

theorem text (s : String) : Reads level Reader.text (.string s) s := rfl

theorem bool (b : Bool) : Reads level Reader.bool (.bool b) b := rfl

theorem below {limit n : Nat} (less : n < limit) (fits : limit ≤ UInt64.size) :
    Reads level (Reader.below limit) (.natural n) n := by
  rw [Reads, Draft.ofJson, Reader.below, natural?_ofNatural (Nat.lt_of_lt_of_le less fits)]
  exact if_pos less

theorem uint32 (n : UInt32) : Reads level Reader.uint32 (.natural n.toNat) n := by
  have number : Reads level (Reader.below UInt32.size) (.natural n.toNat) n.toNat :=
    below n.toNat_lt (by decide)
  exact (congrArg _ number).trans (congrArg Except.ok UInt32.ofNat_toNat)

theorem uint64 (n : UInt64) : Reads level Reader.uint64 (.natural n.toNat) n := by
  have number : Reads level (Reader.below UInt64.size) (.natural n.toNat) n.toNat :=
    below n.toNat_lt (by decide)
  exact (congrArg _ number).trans (congrArg Except.ok UInt64.ofNat_toNat)

variable {r : Reader α} {j : Json} {a : α}

theorem map {f : α → β} (h : Reads level r j a) : Reads level (r.map f) j (f a) := by
  rw [Reads, Reader.map, h]
  rfl

theorem restrict {f : α → Option β} {b : β} (h : Reads level r j a) (accepted : f a = some b) :
    Reads level (r.restrict f) j b := by
  rw [Reads, Reader.restrict, h]
  simp only [bind, Except.bind, accepted]
  rfl

theorem optional {toJson : α → Json} (h : ∀ a, Reads level r (toJson a) a)
    (notNull : ∀ a, toJson a ≠ .null) (o : Option α) :
    Reads level r.optional (.ofOption toJson o) o := by
  cases o with
  | none => rfl
  | some a =>
    have read := h a
    rw [Reads, Json.ofOption]
    unfold Reader.optional
    cases written : toJson a with
    | null => exact absurd written (notNull a)
    | _ =>
      rw [written] at read
      exact congrArg (Except.map some) read

theorem list {toJson : α → Json} {as : List α} (h : ∀ a ∈ as, Reads (level + 1) r (toJson a) a) :
    Reads level (Reader.list r) (.ofList toJson as) as := by
  have items : (Draft.ofItems (as.map toJson)).mapM (r (level + 1)) = .ok as := by
    induction as with
    | nil => rfl
    | cons a as ih =>
      obtain ⟨read, reads⟩ := List.forall_mem_cons.1 h
      rw [List.map_cons, Draft.ofItems, List.mapM_cons, read, ih reads]
      rfl
  rw [Reads, Json.ofList, Draft.ofJson, Reader.list, items]
  rfl

theorem pairs {toJson : α → Json} {es : List (String × α)}
    (h : ∀ e ∈ es, Reads (level + 1) r (toJson e.2) e.2) :
    Reads level (Reader.pairs r) (.object (es.map fun e => (e.1, toJson e.2))) es := by
  have fields : (Draft.ofFields (es.map fun e => (e.1, toJson e.2))).mapM (fun f => do
      let name ← Reader.text (level + 1) f.1
      pure (name, ← r (level + 1) f.2)) = .ok es := by
    induction es with
    | nil => rfl
    | cons e es ih =>
      obtain ⟨read, reads⟩ := List.forall_mem_cons.1 h
      rw [Reads] at read
      rw [List.map_cons, Draft.ofFields, List.mapM_cons, ih reads]
      simp only [Reader.text, read]
      rfl
  exact congrArg (· >>= fun es => Reader.orElse es none) fields

end Reads

/-! ## Records -/

/-- The fields of a record take the fields of an object, of which no two have one name, for `a`. -/
def Gathers (level : Nat) (fs : Fields α) (fields : List (String × Json)) (a : α) : Prop :=
  (fields.map Prod.fst).Nodup → fs.gather level (Draft.ofFields fields) = .ok a

theorem isNamed_string {name n : String} :
    Fields.isNamed name (.string (some n)) = true ↔ n = name :=
  beq_iff_eq

theorem given_of_not_mem {name : String} {fields : List (String × Json)}
    (other : name ∉ fields.map Prod.fst) (place : Nat) :
    Fields.given name place (Draft.ofFields fields) = [] := by
  induction fields generalizing place with
  | nil => rfl
  | cons field fields ih =>
    rw [List.map_cons, List.mem_cons, not_or] at other
    rw [Draft.ofFields, Fields.given, if_neg fun same => other.1 (isNamed_string.1 same).symm,
      ih other.2]

theorem given_of_lookup {name : String} {fields : List (String × Json)} {v : Json}
    (distinct : (fields.map Prod.fst).Nodup) (found : fields.lookup name = some v) (place : Nat) :
    ∃ place', Fields.given name place (Draft.ofFields fields) = [(place', Draft.ofJson v)] := by
  induction fields generalizing place with
  | nil => cases found
  | cons field fields ih =>
    obtain ⟨n, w⟩ := field
    obtain ⟨new, distinct⟩ := List.nodup_cons.1 distinct
    rw [Draft.ofFields, Fields.given]
    by_cases same : n = name
    · subst same
      rw [List.lookup_cons_self, Option.some.injEq] at found
      subst found
      exact ⟨place, by rw [if_pos (isNamed_string.2 rfl), given_of_not_mem new]⟩
    · rw [List.lookup_cons, beq_false_of_ne (Ne.symm same)] at found
      rw [if_neg fun eq => same (isNamed_string.1 eq)]
      exact ih distinct found (place + 1)

namespace Gathers

variable {r : Reader α} {fields : List (String × Json)} {name : String} {v : Json} {a : α}

theorem one (absent : Option α) (found : fields.lookup name = some v)
    (read : Reads (level + 1) r v a) (distinct : (fields.map Prod.fst).Nodup) :
    Fields.gatherOne name r absent level (Draft.ofFields fields) = .ok a := by
  obtain ⟨place, given⟩ := given_of_lookup distinct found 0
  unfold Fields.gatherOne
  rw [given]
  exact congrArg (Except.mapError _) read

theorem required (found : fields.lookup name = some v) (read : Reads (level + 1) r v a) :
    Gathers level (.required name r) fields a :=
  one none found read

theorem defaulted {absent : α} (found : fields.lookup name = some v)
    (read : Reads (level + 1) r v a) : Gathers level (.defaulted name r absent) fields a :=
  one (some absent) found read

theorem optional {o : Option α} (found : fields.lookup name = some v)
    (read : Reads (level + 1) r.optional v o) : Gathers level (.optional name r) fields o :=
  one (some none) found read

theorem seq {fs : Fields (α → β)} {as : Fields α} {f : α → β} (left : Gathers level fs fields f)
    (right : Gathers level as fields a) : Gathers level (fs <*> as) fields (f a) := by
  intro distinct
  change Fields.both _ _ = _
  rw [left distinct, right distinct]
  rfl

theorem map {as : Fields α} {f : α → β} (h : Gathers level as fields a) :
    Gathers level (f <$> as) fields (f a) :=
  seq (fun _ => rfl) h

end Gathers

theorem firstStray_of_subset {names : List String} {fields : List (String × Json)}
    (known : ∀ f ∈ fields, f.1 ∈ names) (refuse : Bool) (place : Nat) :
    Fields.firstStray names refuse level place (Draft.ofFields fields) = none := by
  induction fields generalizing place with
  | nil => rfl
  | cons field fields ih =>
    obtain ⟨name, value⟩ := field
    obtain ⟨mem, known⟩ := List.forall_mem_cons.1 known
    have fine : Fields.strayFault names refuse level
        (.string (some name), Draft.ofJson value) = none :=
      if_pos (List.contains_iff_mem.2 mem)
    rw [Draft.ofFields, Fields.firstStray, fine]
    exact ih known (place + 1)

/-- An object that has just the fields of the record is read by gathering them. -/
theorem Reads.fields {fs : Fields α} {fields : List (String × Json)} {a : α} {refuse : Bool}
    (gathers : Gathers level fs fields a) (names : fields.map Prod.fst = fs.names)
    (distinct : fs.names.Nodup) : Reads level (fs.reader refuse) (.object fields) a := by
  have known : ∀ f ∈ fields, f.1 ∈ fs.names := fun f hf => names ▸ List.mem_map_of_mem hf
  rw [Reads, Draft.ofJson, Fields.reader, Fields.ofFields, gathers (names ▸ distinct),
    firstStray_of_subset known]
  rfl

/-! ## Alternatives -/

namespace Reads

variable {cases : List (String × Content α)} {name : String} {a : α}

theorem alternative_of_lookup {c : Content α} (found : cases.lookup name = some c) :
    Reader.alternative cases name = .ok c := by
  rw [Reader.alternative, found]

/-- An alternative that carries nothing is written as its name. -/
theorem bare (found : cases.lookup name = some (.nothing a)) :
    Reads level (Reader.oneOf cases) (.string name) a := by
  rw [Reads, Draft.ofJson, Reader.oneOf, alternative_of_lookup found]
  rfl

/-- An alternative that carries something is written as an object with its name for a field. -/
theorem carrying {c : Content α} {v : Json} (found : cases.lookup name = some c)
    (read : Reads (level + 1) (Reader.content c) v a) :
    Reads level (Reader.oneOf cases) (.object [(name, v)]) a := by
  rw [Reads] at read
  rw [Reads, Draft.ofJson, Draft.ofFields, Draft.ofFields, Reader.oneOf, Reader.text]
  simp only [bind, Except.bind, alternative_of_lookup found, read]
  rfl

theorem lookup_map_nothing {cases : List (String × α)} (found : cases.lookup name = some a) :
    (cases.map fun (name, a) => (name, Content.nothing a)).lookup name = some (.nothing a) := by
  induction cases with
  | nil => cases found
  | cons c cases ih =>
    rw [List.lookup_cons] at found
    rw [List.map_cons, List.lookup_cons]
    cases same : name == c.1 with
    | true =>
      rw [same] at found
      exact congrArg (Option.map Content.nothing) found
    | false =>
      rw [same] at found
      exact ih found

theorem named {cases : List (String × α)} (found : cases.lookup name = some a) :
    Reads level (Reader.named cases) (.string name) a :=
  bare (lookup_map_nothing found)

variable {tag carried : String}

theorem besideField_tag {c : Content α} (found : cases.lookup name = some c) :
    Reader.besideField cases tag carried level ⟨none, none, none⟩
      (.string (some tag), .string (some name)) = .ok ⟨some c, none, none⟩ := by
  have read : Reader.named cases (level + 1) (.string (some name)) = .ok c := named found
  simp only [Reader.besideField, Reader.text, bind, Except.bind, if_true, read]
  rfl

theorem besideNothing (found : cases.lookup name = some (.nothing a)) :
    Reads level (Reader.beside cases tag carried) (.object [(tag, .string name)]) a := by
  simp only [Reads, Draft.ofJson, Draft.ofFields, Reader.beside, List.foldlM_cons,
    besideField_tag found]
  rfl

theorem besideOne {c : Content α} {v : Json} (apart : carried ≠ tag)
    (found : cases.lookup name = some c) (read : Reads (level + 1) (Reader.content c) v a) :
    Reads level (Reader.beside cases tag carried)
      (.object [(tag, .string name), (carried, v)]) a := by
  rw [Reads] at read
  have field : Reader.besideField cases tag carried level ⟨some c, none, none⟩
      (.string (some carried), Draft.ofJson v) = .ok ⟨some c, none, some a⟩ := by
    simp only [Reader.besideField, Reader.text, bind, Except.bind, if_neg apart, if_true, read]
    rfl
  simp only [Reads, Draft.ofJson, Draft.ofFields, Reader.beside, List.foldlM_cons,
    besideField_tag found]
  simp only [bind, Except.bind, field]
  rfl

theorem amongField_tag {c : Content α} (found : cases.lookup name = some c) :
    Reader.amongField cases tag level ⟨none, []⟩ (.string (some tag), .string (some name)) =
      .ok ⟨some c, []⟩ := by
  simp only [Reader.amongField, Reader.text, bind, Except.bind, if_true,
    alternative_of_lookup found]
  rfl

theorem amongNothing (found : cases.lookup name = some (.nothing a)) :
    Reads level (Reader.among cases tag) (.object [(tag, .string name)]) a := by
  simp only [Reads, Draft.ofJson, Draft.ofFields, Reader.among, List.foldlM_cons,
    amongField_tag found]
  rfl

/-- A field beside the name is kept until the name is known, so it must not be too deep inside. -/
theorem amongRecord {fs : Fields α} {field : String} {v : Json} (apart : field ≠ tag)
    (found : cases.lookup name = some (.record fs))
    (shallow : (Draft.ofJson v).keepFault (level + 1) = none)
    (read : Reads 0 (Reader.record fs) (.object [(field, v)]) a) :
    Reads level (Reader.among cases tag) (.object [(tag, .string name), (field, v)]) a := by
  have keeps : Reader.amongField cases tag level ⟨some (.record fs), []⟩
      (.string (some field), Draft.ofJson v) =
        .ok ⟨some (.record fs), [(.string (some field), Draft.ofJson v)]⟩ := by
    simp only [Reader.amongField, Reader.text, bind, Except.bind, if_neg apart, Reader.kept,
      shallow]
    rfl
  simp only [Reads, Draft.ofJson, Draft.ofFields, Reader.among, List.foldlM_cons,
    amongField_tag found]
  simp only [bind, Except.bind, keeps]
  exact read

end Reads

/-! ## Whole texts -/

/-- What was written is read back. -/
theorem Reads.ofBytes {r : Reader α} {j : Json} {a : α} (read : Reads 0 r j a) :
    r.ofBytes j.bytes = .ok a := by
  rw [Reads] at read
  rw [Reader.ofBytes, parse_bytes]
  simp only [read]
  rfl

end TestFleet.Json
