import Warehouse.Proofs.Prototype.Names

/-!
The rows in a column. Besides the columns of a table, the check of a prototype looks at every row nested in
them, the outer before the inner ones: its fields have names, and no two the same. All declarations in a
column are laid out as a list, and the check fails the way its first faulty row does.
-/

namespace Warehouse

open Outcome (error? error?_bind error?_bind_ok)

namespace Column

mutual

/-- The column, and then all that is nested in it. -/
def declarations : Column → List Column
  | ⟨declared, kind⟩ => ⟨declared, kind⟩ :: nestedDeclarations kind

/-- All that is nested in a kind, at any depth. -/
def nestedDeclarations : Kind Column → List Column
  | .scalar _ => []
  | .array element => declarations element
  | .map key value => declarations key ++ declarations value
  | .row fields => fieldDeclarations fields

/-- The fields of a row, each with all that is nested in it. -/
def fieldDeclarations : List Column → List Column
  | [] => []
  | c :: rest => declarations c ++ fieldDeclarations rest

end

end Column

/-- Whether the fields of each row in the column have names, no two of one row the same. -/
def Column.RowsNamed (c : Column) : Prop :=
  ∀ row ∈ c.declarations, ∀ fields, row.kind = .row fields → WellNamed fields

/-! ### The fields of one row -/

/-- What can be wrong with the names of the fields of a row. -/
inductive RowFault (row : Column) : Problem → Prop
  | unnamed {fields : List Column} {field : Column} (hrow : row.kind = .row fields)
      (hfield : field ∈ fields) (h : field.name = "") :
      RowFault row (.columnNameRequired (some ("field of row " ++ row.name)))
  | repeated {before after : List Column} {field : Column}
      (hrow : row.kind = .row (before ++ field :: after)) (h : field.name ∈ before.map (·.name)) :
      RowFault row (.columnNameNotUnique (row.name ++ "." ++ field.name))

/-- A fault has to do with names, not with the configuration. -/
theorem RowFault.ne_configuration {row : Column} {p : Problem} (h : RowFault row p)
    (q : ConfigurationProblem) : p ≠ .configuration q := by
  cases h <;> simp

theorem RowFault.not_wellNamed {row : Column} {p : Problem} (h : RowFault row p) :
    ∃ fields, row.kind = .row fields ∧ ¬ WellNamed fields := by
  cases h with
  | unnamed hrow hfield hname => exact ⟨_, hrow, fun hnamed => hnamed.named _ hfield hname⟩
  | repeated hrow hname =>
    refine ⟨_, hrow, fun hnamed => ?_⟩
    have hdistinct := hnamed.distinct
    rw [List.map_append, List.map_cons] at hdistinct
    exact (List.nodup_append.1 hdistinct).2.2 _ hname _ List.mem_cons_self rfl

namespace Prototype

theorem checkFieldNames_eq_ok (row : String) : ∀ {fields : List Column} {seen : List String},
    checkFieldNames row seen fields = .ok () ↔ WellNamed fields ∧ ∀ f ∈ fields, f.name ∉ seen
  | [], _ => by simp [checkFieldNames, WellNamed.nil]
  | f :: rest, seen => by
    rw [checkFieldNames, WellNamed.cons_new, ← checkFieldNames_eq_ok row]
    split
    · next hname => simp [hname]
    · next hname =>
      split
      · next hseen => simp [hseen]
      · next hseen => simp [hname, hseen]

/-- A field at fault has no name, or one that was seen before or that a field in front of it has. -/
theorem checkFieldNames_eq_error {row : String} {p : Problem} : ∀ {fields : List Column}
    {seen : List String}, checkFieldNames row seen fields = .error p →
      (p = .columnNameRequired (some ("field of row " ++ row)) ∧ ∃ f ∈ fields, f.name = "") ∨
      ∃ before f after, fields = before ++ f :: after ∧
        (f.name ∈ seen ∨ f.name ∈ before.map (·.name)) ∧
        p = .columnNameNotUnique (row ++ "." ++ f.name)
  | [], _, h => by cases h
  | f :: rest, seen, h => by
    rw [checkFieldNames] at h
    split at h
    · next hname =>
      cases h
      exact .inl ⟨rfl, f, List.mem_cons_self, hname⟩
    · split at h
      · next hseen =>
        cases h
        exact .inr ⟨[], f, rest, rfl, .inl hseen, rfl⟩
      · rcases checkFieldNames_eq_error h with ⟨hp, g, hg, hname⟩ | ⟨before, g, after, rfl, hname, hp⟩
        · exact .inl ⟨hp, g, List.mem_cons_of_mem f hg, hname⟩
        · refine .inr ⟨f :: before, g, after, rfl, ?_, hp⟩
          -- a name seen since this row began is that of the field in front
          rcases hname with hname | hname
          · rcases List.mem_cons.1 hname with hname | hname
            · exact .inr (List.mem_cons.2 (.inl hname))
            · exact .inl hname
          · exact .inr (List.mem_cons_of_mem _ hname)

/-! ### All rows of a column -/

/-- The fault of a declaration, if it is a row that has one. -/
def rowFault? (c : Column) : Option Problem :=
  match c.kind with
  | .row fields => error? (checkFieldNames c.name [] fields)
  | _ => none

theorem rowFault?_eq_none {c : Column} :
    rowFault? c = none ↔ ∀ fields, c.kind = .row fields → WellNamed fields := by
  rw [rowFault?]
  split
  · next fields hrow =>
    rw [Outcome.error?_eq_none, Unique.exists_iff]
    exact checkFieldNames_eq_ok c.name |>.trans (by simp [hrow])
  · next hrow => exact iff_of_true rfl fun fields h => absurd h (hrow fields)

theorem rowFault_of_rowFault? {c : Column} {p : Problem} (h : rowFault? c = some p) :
    RowFault c p := by
  rw [rowFault?] at h
  split at h
  · next fields hrow =>
    rcases checkFieldNames_eq_error (Outcome.error?_eq_some.1 h) with
      ⟨rfl, f, hf, hname⟩ | ⟨before, f, after, rfl, hname, rfl⟩
    · exact .unnamed hrow hf hname
    · exact .repeated hrow (hname.resolve_left List.not_mem_nil)
  · cases h

/-- The fault of the first faulty row among declarations. -/
def firstRowFault? (declarations : List Column) : Option Problem := declarations.findSome? rowFault?

theorem firstRowFault?_cons (c : Column) (rest : List Column) :
    firstRowFault? (c :: rest) = (rowFault? c).or (firstRowFault? rest) := by
  rw [firstRowFault?, List.findSome?_cons, firstRowFault?]
  cases rowFault? c <;> rfl

theorem firstRowFault?_append (before after : List Column) :
    firstRowFault? (before ++ after) = (firstRowFault? before).or (firstRowFault? after) :=
  List.findSome?_append

/-- Declarations are free of faults when all rows among them are well named. -/
theorem firstRowFault?_eq_none {columns : List Column} :
    firstRowFault? (columns.flatMap Column.declarations) = none ↔ ∀ c ∈ columns, c.RowsNamed := by
  rw [firstRowFault?, List.findSome?_eq_none_iff]
  constructor
  · intro h c hc row hrow
    exact rowFault?_eq_none.1 (h row (List.mem_flatMap.2 ⟨c, hc, hrow⟩))
  · intro h row hrow
    obtain ⟨c, hc, hrow⟩ := List.mem_flatMap.1 hrow
    exact rowFault?_eq_none.2 (h c hc row hrow)

theorem rowFault_of_firstRowFault? {columns : List Column} {p : Problem}
    (h : firstRowFault? (columns.flatMap Column.declarations) = some p) :
    ∃ c ∈ columns, ∃ row ∈ c.declarations, RowFault row p := by
  obtain ⟨row, hrow, hfault⟩ := List.exists_of_findSome?_eq_some h
  obtain ⟨c, hc, hrow⟩ := List.mem_flatMap.1 hrow
  exact ⟨c, hc, row, hrow, rowFault_of_rowFault? hfault⟩

mutual

theorem error?_checkColumn : ∀ c : Column, error? (checkColumn c) = firstRowFault? c.declarations
  | ⟨declared, kind⟩ => by
    rw [checkColumn, Column.declarations, firstRowFault?_cons]
    exact error?_checkKind declared kind

theorem error?_checkKind (declared : Declaration) : ∀ kind : Kind Column,
    error? (checkKind declared.name kind) =
      (rowFault? ⟨declared, kind⟩).or (firstRowFault? (Column.nestedDeclarations kind))
  | .scalar _ => by rw [checkKind, Column.nestedDeclarations]; rfl
  | .array element => by
    rw [checkKind, Column.nestedDeclarations]
    exact error?_checkColumn element
  | .map key value => by
    rw [checkKind, Column.nestedDeclarations, firstRowFault?_append, ← error?_checkColumn key,
      ← error?_checkColumn value, error?_bind fun _ => rfl]
    rfl
  | .row fields => by
    rw [checkKind, Column.nestedDeclarations, ← error?_checkAll fields, error?_bind fun _ => rfl]
    rfl

theorem error?_checkAll (columns : List Column) :
    error? (checkAll columns) = firstRowFault? (Column.fieldDeclarations columns) := by
  cases columns with
  | nil => rw [checkAll, Column.fieldDeclarations]; rfl
  | cons c rest =>
    rw [checkAll, Column.fieldDeclarations, firstRowFault?_append, ← error?_checkColumn c,
      ← error?_checkAll rest, error?_bind fun _ => rfl]

end

/-- Faults of rows hang on nothing but the names and kinds of columns. -/
theorem firstRowFault?_map (change : Column → Column) (hname : ∀ c, (change c).name = c.name)
    (hkind : ∀ c, (change c).kind = c.kind) (columns : List Column) :
    firstRowFault? ((columns.map change).flatMap Column.declarations) =
      firstRowFault? (columns.flatMap Column.declarations) := by
  have hcheck : ∀ c : Column, checkColumn c = checkKind c.name c.kind := by
    rintro ⟨declared, kind⟩
    rw [checkColumn]
  induction columns with
  | nil => rfl
  | cons c rest ih =>
    rw [List.map_cons, List.flatMap_cons, List.flatMap_cons, firstRowFault?_append,
      firstRowFault?_append, ih, ← error?_checkColumn, ← error?_checkColumn, hcheck, hcheck c, hname,
      hkind]

/-- Columns that have names of their own pass the check unless a row in them is faulty. -/
theorem error?_checkColumns : ∀ {columns : List Column} {seen : List String}, WellNamed columns →
    (∀ c ∈ columns, c.name ∉ seen) →
    error? (checkColumns seen columns) = firstRowFault? (columns.flatMap Column.declarations)
  | [], _, _, _ => rfl
  | c :: rest, seen, hnamed, hnew => by
    obtain ⟨hname, hseen, hnamed, hnew⟩ := WellNamed.cons_new.1 ⟨hnamed, hnew⟩
    rw [checkColumns, if_neg hname, if_neg hseen, List.flatMap_cons, firstRowFault?_append,
      ← error?_checkColumn, ← error?_checkColumns hnamed hnew, error?_bind fun _ => rfl]

/-- Columns that have names of their own make a prototype unless a row in them is faulty. -/
theorem error?_create {columns : List Column} (hnonempty : columns ≠ []) (hnamed : WellNamed columns)
    (properties : List Property) (policies : Policies) :
    error? (create columns properties policies) =
      firstRowFault? (columns.flatMap Column.declarations) := by
  rw [create, if_neg (by simpa using hnonempty), error?_bind_ok, error?_checkColumns hnamed (by simp)]

/-- What a prototype has been checked for, besides the names of its columns. -/
theorem create_sound {columns : List Column} {properties : List Property} {policies : Policies}
    {p : Prototype} (h : create columns properties policies = .ok p) :
    p.columns ≠ [] ∧ ∀ c ∈ p.columns, c.RowsNamed := by
  rw [create] at h
  split at h
  · cases h
  · next hnonempty =>
    obtain ⟨_, hcheck, hp⟩ := Outcome.bind_eq_ok.1 h
    cases hp
    have hnamed := (checkColumns_wellNamed columns [] hcheck).1
    have hfault : firstRowFault? (columns.flatMap Column.declarations) = none := by
      rw [← error?_checkColumns hnamed fun _ _ => List.not_mem_nil, hcheck]
      rfl
    refine ⟨fun hempty => hnonempty ?_, fun c hc => ?_⟩
    · have hperm : [].Perm columns := hempty ▸ byRank_perm columns
      exact List.isEmpty_iff.2 hperm.nil_eq.symm
    · exact firstRowFault?_eq_none.1 hfault c ((byRank_perm columns).mem_iff.1 hc)

end Prototype

end Warehouse
