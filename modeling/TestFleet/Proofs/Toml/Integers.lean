import TestFleet.Toml.Parser

/-!
# The whole numbers of a settings file

Whatever a settings file says, each whole number in its table is one of 64 bits, since reading one
checks this and putting tables together changes no number.

* `Value.Holds`: every whole number in a value has a property;
* `Keeps`: a change of a table leaves it so;
* `Keeps.descend`, `keeps_put`, `keeps_putBetweenBraces`: the changes that files make;
* `Reads64Bit`: so does what is read within so many steps;
* `holds_ofText?`: the table of a file holds numbers of 64 bits only.
-/

namespace TestFleet.Toml

/-- Every whole number in the value has the property. -/
inductive Value.Holds (p : Int → Prop) : Value → Prop
  | string (s : String) : Holds p (.string s)
  | integer {n : Int} (h : p n) : Holds p (.integer n)
  | boolean (b : Bool) : Holds p (.boolean b)
  | other : Holds p .other
  | array {items : List Value} (h : ∀ v ∈ items, Holds p v) : Holds p (.array items)
  | tables {items : List Table} (h : ∀ t ∈ items, ∀ f ∈ t, Holds p f.2) : Holds p (.tables items)
  | table {origin : Origin} {fields : Table} (h : ∀ f ∈ fields, Holds p f.2) :
    Holds p (.table origin fields)

/-- Every whole number in the table has the property. -/
def Table.Holds (p : Int → Prop) (t : Table) : Prop := ∀ f ∈ t, f.2.Holds p

variable {p : Int → Prop}

theorem Table.holds_nil : Table.Holds p [] := fun _ mem => (List.not_mem_nil mem).elim

theorem Table.holds_cons {f : String × Value} {t : Table} :
    Table.Holds p (f :: t) ↔ f.2.Holds p ∧ t.Holds p :=
  List.forall_mem_cons

/-! ## Changes of tables -/

/-- A change of a table keeps the property of its numbers. -/
def Keeps (p : Int → Prop) (f : Table → Option Table) : Prop :=
  ∀ t t', Table.Holds p t → f t = some t' → t'.Holds p

/-- So does a change of a field, which may be missing. -/
def KeepsField (p : Int → Prop) (f : Option Value → Option Value) : Prop :=
  ∀ field v, (∀ old, field = some old → old.Holds p) → f field = some v → v.Holds p

theorem KeepsField.change {f : Option Value → Option Value} (keeps : KeepsField p f)
    (key : String) : Keeps p (Table.change · key f) := by
  intro t t' holds changed
  induction t generalizing t' with
  | nil =>
    obtain ⟨v, added, rfl⟩ := Option.map_eq_some_iff.1 changed
    refine Table.holds_cons.2 ⟨keeps none v (fun _ old => ?_) added, Table.holds_nil⟩
    cases old
  | cons field t ih =>
    obtain ⟨k, old⟩ := field
    obtain ⟨first, rest⟩ := Table.holds_cons.1 holds
    simp only [Table.change] at changed
    split at changed
    · obtain ⟨v, inner, rfl⟩ := Option.map_eq_some_iff.1 changed
      refine Table.holds_cons.2 ⟨keeps (some old) v (fun _ same => ?_) inner, rest⟩
      cases same
      exact first
    · obtain ⟨t', inner, rfl⟩ := Option.map_eq_some_iff.1 changed
      exact Table.holds_cons.2 ⟨first, ih t' rest inner⟩

theorem Value.holds_table {origin : Origin} {t : Table} :
    (Value.table origin t).Holds p ↔ t.Holds p :=
  ⟨fun | .table h => h, .table⟩

theorem Value.holds_tables {ts : List Table} :
    (Value.tables ts).Holds p ↔ ∀ t ∈ ts, t.Holds p :=
  ⟨fun | .tables h => h, .tables⟩

section Nested

variable {f : Table → Option Table} {t : Table} {ts ts' : List Table} {v : Value}

/-- A table that is changed within a table. -/
theorem Keeps.table (keeps : Keeps p f) {origin : Origin} (holds : t.Holds p)
    (changed : (f t).map (.table origin) = some v) : v.Holds p := by
  obtain ⟨t', inner, rfl⟩ := Option.map_eq_some_iff.1 changed
  exact Value.holds_table.2 (keeps t t' holds inner)

theorem Keeps.changeLast (keeps : Keeps p f) (holds : ∀ t ∈ ts, Table.Holds p t)
    (changed : Table.changeLast f ts = some ts') : ∀ t ∈ ts', Table.Holds p t := by
  induction ts generalizing ts' with
  | nil => cases changed
  | cons t ts ih =>
    obtain ⟨first, rest⟩ := List.forall_mem_cons.1 holds
    cases ts with
    | nil =>
      obtain ⟨t', last, rfl⟩ := Option.map_eq_some_iff.1 changed
      exact List.forall_mem_singleton.2 (keeps t t' first last)
    | cons u us =>
      obtain ⟨ts', later, rfl⟩ := Option.map_eq_some_iff.1 changed
      exact List.forall_mem_cons.2 ⟨first, ih rest later⟩

/-- The last of several tables that is changed within a table. -/
theorem Keeps.tables (keeps : Keeps p f) (holds : ∀ t ∈ ts, Table.Holds p t)
    (changed : (Table.changeLast f ts).map .tables = some v) : v.Holds p := by
  obtain ⟨ts', inner, rfl⟩ := Option.map_eq_some_iff.1 changed
  exact Value.holds_tables.2 (keeps.changeLast holds inner)

end Nested

theorem Keeps.descend {f : Table → Option Table} (keeps : Keeps p f) (path : List String) :
    Keeps p (Table.descend f path) := by
  induction path with
  | nil => exact keeps
  | cons key path ih =>
    refine KeepsField.change (fun field v holds changed => ?_) key
    split at changed
    next => exact ih.table Table.holds_nil changed
    next =>
      split at changed
      next => cases changed
      next => exact ih.table (Value.holds_table.1 (holds _ rfl)) changed
    next => exact ih.tables (Value.holds_tables.1 (holds _ rfl)) changed
    next => cases changed

/-- A field that is new may have any value that has the property. -/
theorem keepsField_new {v : Value} (holds : v.Holds p) :
    KeepsField p fun | none => some v | some _ => none := by
  intro field w _ changed
  cases field with
  | none => cases changed; exact holds
  | some old => cases changed

theorem keeps_put {v : Value} (holds : v.Holds p) (path : List String) :
    Keeps p (Table.put v path) := by
  induction path with
  | nil => exact fun _ _ _ changed => nomatch changed
  | cons key path ih =>
    cases path with
    | nil => exact (keepsField_new holds).change key
    | cons next path =>
      refine KeepsField.change (fun field v holds changed => ?_) key
      split at changed
      next => exact ih.table Table.holds_nil changed
      next =>
        split at changed
        next => exact ih.table (Value.holds_table.1 (holds _ rfl)) changed
        next => cases changed
      next =>
        split at changed
        next => exact ih.tables (Value.holds_tables.1 (holds _ rfl)) changed
        next => cases changed
      next => cases changed

theorem keeps_putBetweenBraces {v : Value} (holds : v.Holds p) (path : List String) :
    Keeps p (Table.putBetweenBraces v path) := by
  induction path with
  | nil => exact fun _ _ _ changed => nomatch changed
  | cons key path ih =>
    cases path with
    | nil => exact (keepsField_new holds).change key
    | cons next path =>
      refine KeepsField.change (fun field v holds changed => ?_) key
      split at changed
      next => exact ih.table Table.holds_nil changed
      next => exact ih.table (Value.holds_table.1 (holds _ rfl)) changed
      next => cases changed

theorem keeps_openTable (key : String) : Keeps p (Table.openTable key) := by
  refine KeepsField.change (fun field v holds changed => ?_) key
  split at changed
  next => cases changed; exact Value.holds_table.2 Table.holds_nil
  next => cases changed; exact Value.holds_table.2 (Value.holds_table.1 (holds _ rfl))
  next => cases changed

theorem keeps_openElement (key : String) : Keeps p (Table.openElement key) := by
  have opened : ∀ t ∈ [([] : Table)], Table.Holds p t := List.forall_mem_singleton.2 Table.holds_nil
  refine KeepsField.change (fun field v holds changed => ?_) key
  split at changed
  next => cases changed; exact Value.holds_tables.2 opened
  next =>
    cases changed
    have before := Value.holds_tables.1 (holds _ rfl)
    exact Value.holds_tables.2 (List.forall_mem_append.2 ⟨before, opened⟩)
  next => cases changed

/-! ## Statements -/

/-- The value of a field, if the statement is one, has the property. -/
def Statement.Holds (p : Int → Prop) : Statement → Prop
  | .field _ v => v.Holds p
  | _ => True

theorem holds_add {d d' : Document} {s : Statement} (holds : d.root.Holds p) (said : s.Holds p)
    (added : d.add s = some d') : d'.root.Holds p := by
  cases s with
  | table path key =>
    obtain ⟨root, changed, rfl⟩ := Option.map_eq_some_iff.1 added
    exact (keeps_openTable key).descend path _ _ holds changed
  | element path key =>
    obtain ⟨root, changed, rfl⟩ := Option.map_eq_some_iff.1 added
    exact (keeps_openElement key).descend path _ _ holds changed
  | field path v =>
    obtain ⟨root, changed, rfl⟩ := Option.map_eq_some_iff.1 added
    exact (keeps_put said path).descend d.place _ _ holds changed

theorem holds_foldlM_add {ss : List Statement} {d d' : Document} (holds : d.root.Holds p)
    (said : ∀ s ∈ ss, s.Holds p) (added : ss.foldlM Document.add d = some d') :
    d'.root.Holds p := by
  induction ss generalizing d with
  | nil => cases added; exact holds
  | cons s ss ih =>
    obtain ⟨first, rest⟩ := List.forall_mem_cons.1 said
    rw [List.foldlM_cons, Option.bind_eq_bind, Option.bind_eq_some_iff] at added
    obtain ⟨next, once, later⟩ := added
    exact ih (holds_add holds first once) rest later

theorem holds_ofStatements? {ss : List Statement} {t : Table} (said : ∀ s ∈ ss, s.Holds p)
    (added : Document.ofStatements? ss = some t) : t.Holds p := by
  obtain ⟨d, all, rfl⟩ := Option.map_eq_some_iff.1 added
  exact holds_foldlM_add (d := {}) Table.holds_nil said all

/-! ## Reading -/

/-- The number is one of 64 bits. -/
def Is64Bit (n : Int) : Prop := Int64.minValue.toInt ≤ n ∧ n ≤ Int64.maxValue.toInt

theorem is64Bit_of_integer? {cs rest : List Char} {n : Int} (read : integer? cs = some (n, rest)) :
    Is64Bit n := by
  simp only [integer?] at read
  split at read
  all_goals
    obtain ⟨⟨m, behind⟩, -, checked⟩ := Option.bind_eq_some_iff.1 read
    dsimp only at checked
    split at checked
    next within => cases checked; exact within
    next => cases checked

theorem holds_numeral? {cs rest : List Char} {v : Value} (read : numeral? cs = some (v, rest)) :
    v.Holds Is64Bit := by
  rw [numeral?] at read
  split at read
  next => cases read; exact .other
  next =>
    obtain ⟨⟨n, behind⟩, number, same⟩ := Option.map_eq_some_iff.1 read
    cases same
    exact .integer (is64Bit_of_integer? number)

/-- All that is read within `n` steps holds numbers of 64 bits only. -/
structure Reads64Bit (n : Nat) : Prop where
  value : ∀ level cs v rest, value? n level cs = some (v, rest) → v.Holds Is64Bit
  items : ∀ level cs vs rest, items? n level cs = some (vs, rest) → ∀ v ∈ vs, v.Holds Is64Bit
  fields : ∀ level t cs t' rest, Table.Holds Is64Bit t →
    fields? n level t cs = some (t', rest) → Table.Holds Is64Bit t'

namespace Reads64Bit

variable {n level : Nat} {cs rest : List Char}

theorem value_succ (reads : Reads64Bit n) {v : Value}
    (read : value? (n + 1) level cs = some (v, rest)) : v.Holds Is64Bit := by
  simp only [value?] at read
  split at read
  case h_1 | h_2 =>
    obtain ⟨s, -, same⟩ := Option.map_eq_some_iff.1 read
    cases same
    exact .string _
  next =>
    split at read
    next =>
      obtain ⟨⟨items, behind⟩, inner, same⟩ := Option.map_eq_some_iff.1 read
      cases same
      exact .array (reads.items _ _ _ _ inner)
    next => cases read
  next =>
    split at read
    next =>
      split at read
      next => cases read; exact Value.holds_table.2 Table.holds_nil
      next =>
        obtain ⟨⟨t, behind⟩, inner, same⟩ := Option.map_eq_some_iff.1 read
        cases same
        exact Value.holds_table.2 (reads.fields _ _ _ _ _ Table.holds_nil inner)
    next => cases read
  next => cases read; exact .boolean true
  next => cases read; exact .boolean false
  next => exact holds_numeral? read

theorem items_succ (reads : Reads64Bit n) {vs : List Value}
    (read : items? (n + 1) level cs = some (vs, rest)) : ∀ v ∈ vs, v.Holds Is64Bit := by
  simp only [items?] at read
  split at read
  next => cases read; exact fun _ mem => (List.not_mem_nil mem).elim
  next =>
    obtain ⟨⟨v, behind⟩, first, read⟩ := Option.bind_eq_some_iff.1 read
    dsimp only at read
    split at read
    next =>
      obtain ⟨⟨items, behind⟩, inner, same⟩ := Option.map_eq_some_iff.1 read
      cases same
      exact List.forall_mem_cons.2 ⟨reads.value _ _ _ _ first, reads.items _ _ _ _ inner⟩
    next => cases read; exact List.forall_mem_singleton.2 (reads.value _ _ _ _ first)
    next => cases read

theorem fields_succ (reads : Reads64Bit n) {t t' : Table} (holds : t.Holds Is64Bit)
    (read : fields? (n + 1) level t cs = some (t', rest)) : t'.Holds Is64Bit := by
  simp only [fields?] at read
  obtain ⟨⟨path, behind⟩, -, read⟩ := Option.bind_eq_some_iff.1 read
  dsimp only at read
  split at read
  next =>
    obtain ⟨⟨v, behind⟩, inner, read⟩ := Option.bind_eq_some_iff.1 read
    obtain ⟨u, put, read⟩ := Option.bind_eq_some_iff.1 read
    have more := keeps_putBetweenBraces (reads.value _ _ _ _ inner) path t u holds put
    dsimp only at read
    split at read
    next => exact reads.fields _ _ _ _ _ more read
    next => cases read; exact more
    next => cases read
  next => cases read

end Reads64Bit

theorem reads64Bit (n : Nat) : Reads64Bit n := by
  induction n with
  | zero => exact ⟨nofun, nofun, nofun⟩
  | succ n ih =>
    exact ⟨fun _ _ _ _ => ih.value_succ, fun _ _ _ _ => ih.items_succ,
      fun _ _ _ _ _ => ih.fields_succ⟩

theorem holds_statement? {cs rest : List Char} {s : Statement}
    (read : statement? cs = some (s, rest)) : s.Holds Is64Bit := by
  simp only [statement?] at read
  split at read
  case h_1 | h_2 =>
    obtain ⟨⟨⟨path, key⟩, behind⟩, -, read⟩ := Option.bind_eq_some_iff.1 read
    dsimp only at read
    split at read
    next =>
      obtain ⟨behind, -, read⟩ := Option.bind_eq_some_iff.1 read
      cases read
      trivial
    next => cases read
  next =>
    obtain ⟨⟨path, behind⟩, -, read⟩ := Option.bind_eq_some_iff.1 read
    dsimp only at read
    split at read
    next =>
      obtain ⟨⟨v, behind⟩, inner, read⟩ := Option.bind_eq_some_iff.1 read
      obtain ⟨behind, -, read⟩ := Option.bind_eq_some_iff.1 read
      cases read
      exact (reads64Bit _).value _ _ _ _ inner
    next => cases read

theorem holds_statements? {n : Nat} {cs : List Char} {ss : List Statement}
    (read : statements? n cs = some ss) : ∀ s ∈ ss, s.Holds Is64Bit := by
  induction n generalizing cs ss with
  | zero =>
    cases cs with
    | nil => cases read; exact fun _ mem => (List.not_mem_nil mem).elim
    | cons => cases read
  | succ n ih =>
    cases cs with
    | nil => cases read; exact fun _ mem => (List.not_mem_nil mem).elim
    | cons c cs =>
      simp only [statements?] at read
      split at read
      next => exact ih read
      next =>
        obtain ⟨⟨s, behind⟩, first, read⟩ := Option.bind_eq_some_iff.1 read
        obtain ⟨ss, later, rfl⟩ := Option.map_eq_some_iff.1 read
        exact List.forall_mem_cons.2 ⟨holds_statement? first, ih later⟩

/-- Every whole number in the table of a settings file is one of 64 bits. -/
theorem holds_ofText? {s : String} {t : Table} (read : ofText? s = some t) : t.Holds Is64Bit := by
  obtain ⟨ss, statements, added⟩ := Option.bind_eq_some_iff.1 read
  exact holds_ofStatements? (holds_statements? statements) added

end TestFleet.Toml
