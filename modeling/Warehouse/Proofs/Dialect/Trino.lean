import Mathlib
import Warehouse.Policy.Resolution
import Warehouse.Proofs.Table.Reachable
import Warehouse.Statement.Create
import Warehouse.Statement.Upsert
import Warehouse.Statement.View

/-!
Trino beside Presto. The two share a vocabulary, and dialects that do so bind alike: what one makes of an
instance, the other does, down to the name of the dialect in a problem. The same operations then lead to
the same tables, and there is one statement that the two may word differently: the creation of a table with
files of its own, which in Trino has further entries in its `WITH` clause.
-/

namespace Warehouse

open Outcome (mapError_bind)

/-- The problem as a dialect of another name reports it. -/
def Problem.reportedBy (dialect : String) : Problem → Problem
  | attributesMissing declaration _ missing => attributesMissing declaration dialect missing
  | classUnsupported declaration declarationClass _ =>
    classUnsupported declaration declarationClass dialect
  | statementUnsupported statement _ => statementUnsupported statement dialect
  | other => other

/-! ### Dialects with one vocabulary -/

namespace Binding

variable (t : Target) (dialect : String)

theorem template_reportedBy (label : String) (c : DeclarationClass) (attributes : Attributes) :
    template { t with dialect } label c attributes =
      (template t label c attributes).mapError (·.reportedBy dialect) := by
  rw [template, template]
  cases t.vocabulary.template? c with
  | none => rfl
  | some text => cases missing (t.vocabulary.required c) attributes <;> rfl

mutual

theorem column_reportedBy (parent : Option String) : ∀ c : Column,
    column { t with dialect } parent c = (column t parent c).mapError (·.reportedBy dialect)
  | ⟨declared, kind⟩ => by
    rw [column, column, mapError_bind, template_reportedBy, nestedColumns_reportedBy _ kind]
    refine congrArg _ (funext fun text => ?_)
    rw [mapError_bind]
    rfl

theorem nestedColumns_reportedBy (parent : String) : ∀ kind : Kind Column,
    nestedColumns { t with dialect } parent kind =
      (nestedColumns t parent kind).mapError (·.reportedBy dialect)
  | .scalar _ => by
    rw [nestedColumns, nestedColumns]
    rfl
  | .array element => by
    rw [nestedColumns, nestedColumns, mapError_bind, column_reportedBy _ element]
    rfl
  | .map key value => by
    rw [nestedColumns, nestedColumns, mapError_bind, column_reportedBy _ key, column_reportedBy _ value]
    refine congrArg _ (funext fun k => ?_)
    rw [mapError_bind]
    rfl
  | .row fields => by
    rw [nestedColumns, nestedColumns, columnList_reportedBy _ fields]

theorem columnList_reportedBy (parent : Option String) : ∀ cs : List Column,
    columnList { t with dialect } parent cs = (columnList t parent cs).mapError (·.reportedBy dialect)
  | [] => by
    rw [columnList, columnList]
    rfl
  | c :: rest => by
    rw [columnList, columnList, mapError_bind, column_reportedBy parent c,
      columnList_reportedBy parent rest]
    refine congrArg _ (funext fun b => ?_)
    rw [mapError_bind]
    rfl

end

theorem property_reportedBy (p : Property) :
    property { t with dialect } p = (property t p).mapError (·.reportedBy dialect) := by
  rw [property, property, mapError_bind, template_reportedBy]
  rfl

end Binding

namespace Table

theorem bindProperties_reportedBy (t : Binding.Target) (dialect : String) : ∀ ps : List Property,
    bindProperties { t with dialect } ps = (bindProperties t ps).mapError (·.reportedBy dialect)
  | [] => rfl
  | p :: rest => by
    rw [bindProperties, bindProperties, mapError_bind, Binding.property_reportedBy,
      bindProperties_reportedBy t dialect rest]
    refine congrArg _ (funext fun b => ?_)
    rw [mapError_bind]
    rfl

/-- The table as it stands, worded in another dialect. -/
def wordedIn (d : Dialect) (t : Table) : Table := { t with dialect := d }

/-- An outcome as another dialect has it. -/
def outcomeIn (d : Dialect) (x : Except Problem Table) : Except Problem Table :=
  (x.mapError (·.reportedBy d.name)).map (·.wordedIn d)

/-- A change as another dialect has it. -/
def changeIn (d : Dialect) : Change Table → Change Table
  | .ok _ t => .ok () (t.wordedIn d)
  | .error p t => .error (p.reportedBy d.name) (t.wordedIn d)

theorem changeIn_left (d : Dialect) (x : Change Table) : (changeIn d x).left = x.left.wordedIn d := by
  cases x <;> rfl

/-- It succeeds where the change does. -/
theorem changeIn_succeeds (d : Dialect) (x : Change Table) :
    (∃ t, changeIn d x = .ok () t) ↔ ∃ t, x = .ok () t := by
  cases x <;> simp [changeIn]

theorem replace_outcomeIn (d : Dialect) (t : Table) (x : Except Problem Table) :
    Change.replace (t.wordedIn d) (outcomeIn d x) = changeIn d (.replace t x) := by
  cases x <;> rfl

section OneVocabulary

variable {d e : Dialect} (hd : d.vocabulary = e.vocabulary)
include hd

theorem target_eq : target d = { target e with dialect := d.name } := by
  rw [target, hd]
  rfl

theorem bind_outcomeIn (i : Instance) : bind i d = outcomeIn d (bind i e) := by
  rw [bind, bind, target_eq hd, Binding.columnList_reportedBy, bindProperties_reportedBy]
  cases Binding.columnList (target e) none i.columns with
  | error p => rfl
  | ok columns => cases bindProperties (target e) i.properties <;> rfl

variable {t : Table} (ht : t.dialect = e)
include ht

theorem addColumn_changeIn (c : Column) : (t.wordedIn d).addColumn c = changeIn d (t.addColumn c) := by
  have hcolumn : Binding.column (target (t.wordedIn d).dialect) none c =
      (Binding.column (target t.dialect) none c).mapError (·.reportedBy d.name) := by
    rw [ht, ← Binding.column_reportedBy, ← target_eq hd]
    rfl
  have hsame : (t.wordedIn d).column? c.name = t.column? c.name := rfl
  rw [addColumn, addColumn, hcolumn, hsame]
  split
  · rfl
  · split
    · rfl
    · cases Binding.column (target t.dialect) none c <;> rfl

theorem withValues_outcomeIn (values : Dict String) :
    (t.wordedIn d).withValues values = outcomeIn d (t.withValues values) := by
  have hbind : ∀ i, bind i d = outcomeIn d (bind i t.dialect) := fun i => by rw [ht, bind_outcomeIn hd]
  rw [withValues, withValues, Instance.create, Instance.create, Shape.requirePrototype,
    Shape.requirePrototype]
  cases h : t.shape.prototype with
  | none =>
    have hsame : (t.wordedIn d).shape.prototype = none := h
    rw [hsame]
    rfl
  | some p =>
    have hsame : (t.wordedIn d).shape.prototype = some p := h
    rw [hsame]
    exact hbind _

theorem perform_changeIn {o : Operation} (ho : o.KeepsDialect) :
    (t.wordedIn d).perform o = changeIn d (t.perform o) := by
  cases o with
  | setValue column value =>
    rw [perform, perform, setValue, setValue]
    have hsame : (t.wordedIn d).columns = t.columns := rfl
    rw [hsame]
    split <;> rfl
  | addColumn c => exact addColumn_changeIn hd ht c
  | rebind d' => exact ho.elim
  | withValues values => rw [perform, perform, withValues_outcomeIn hd ht, replace_outcomeIn]

/-- An operation has the same effect in both dialects, and where it fails in one it does in the other. -/
theorem after_wordedIn {o : Operation} (ho : o.KeepsDialect) :
    (t.wordedIn d).after o = (t.after o).wordedIn d := by
  rw [after, after, perform_changeIn hd ht ho, changeIn_left]

end OneVocabulary

theorem run_wordedIn {d : Dialect} {history : List Operation} (hkeeps : ∀ o ∈ history, o.KeepsDialect) :
    ∀ {t : Table}, d.vocabulary = t.dialect.vocabulary →
      (t.wordedIn d).run history = (t.run history).wordedIn d := by
  induction history with
  | nil => exact fun _ => rfl
  | cons o rest ih =>
    intro t hd
    obtain ⟨ho, hrest⟩ := List.forall_mem_cons.1 hkeeps
    have hdialect := (namedLike_after (t := t) ho).dialect
    rw [run, List.foldl_cons, after_wordedIn hd rfl ho]
    exact ih hrest (t := t.after o) (hdialect ▸ hd)

/-! ### Statements -/

/-- The `WITH` clause of a new table; without entries there is none. -/
def withClause (entries : List String) : String :=
  if entries.isEmpty then "" else "\nWITH (\n  " ++ String.intercalate ",\n  " entries ++ "\n)"

theorem withEntries_append (t : Table) (more : List String) :
    t.withEntries more = t.withEntries [] ++ more := by
  simp [withEntries]

/-- The clause behind the body of a new table that says what the table is. -/
def remarkClause (t : Table) : String := t.remark?.elim "" fun d => "\nCOMMENT " ++ Statement.literal d

/-- A new table is its body, what it is, and the `WITH` clause. -/
theorem prestoDefinition_layout (t : Table) (o : CreateOptions) (more : List String) :
    (t.prestoDefinition o more).text = "CREATE TABLE IF NOT EXISTS " ++ t.reference o.suffix ++ " (\n" ++
      indentedLines (t.definitions (t.partitionsLast o.filter)) ++ "\n)" ++ t.remarkClause ++
      withClause (t.withEntries more) := by
  have hremark : t.remarkClause = String.join
      ((t.remark?.map fun d => "COMMENT " ++ Statement.literal d).toList.map ("\n" ++ ·)) := by
    rw [remarkClause]
    cases t.remark? with
    | none => rfl
    | some d =>
      have hline : "\nCOMMENT " = "\n" ++ "COMMENT " := by decide
      rw [Option.map_some, Option.toList_some, List.map_singleton, String.join_cons, String.join_nil,
        String.append_empty, Option.elim_some, hline, String.append_assoc]
  have hclause : withClause (t.withEntries more) = String.join
      ((if (t.withEntries more).isEmpty then []
        else ["WITH (\n  " ++ String.intercalate ",\n  " (t.withEntries more) ++ "\n)"]).map ("\n" ++ ·)) := by
    rw [withClause]
    split
    · rfl
    · have hline : "\nWITH (\n  " = "\n" ++ "WITH (\n  " := by decide
      rw [hline, List.map_singleton, String.join_cons, String.join_nil, String.append_empty]
      simp only [String.append_assoc]
  rw [hremark, hclause]
  -- by their equations the texts would be unfolded down to their characters
  delta TableDefinition.text prestoDefinition
  simp only [List.map_append, String.join_append, String.append_empty, String.append_assoc]

/-- The entries given stand in the `WITH` clause at the end of the statement, and nowhere else. -/
theorem prestoDefinition_text (t : Table) (o : CreateOptions) : ∃ front, ∀ more,
    (t.prestoDefinition o more).text = front ++ withClause (t.withEntries [] ++ more) :=
  ⟨_, fun more => by rw [← withEntries_append, prestoDefinition_layout]⟩

/-- What a table in Presto and one in Trino have in common. -/
structure Agree (presto trino : Table) : Prop where
  operation : ∀ o : Operation, o.KeepsDialect →
    ((∃ t, trino.perform o = .ok () t) ↔ ∃ t, presto.perform o = .ok () t)
  createTable : ∀ o, o.storage = none → trino.createTable o = presto.createTable o
  /-- Files of its own take further entries in Trino, behind those that both have. -/
  externalTable : ∀ o s, o.storage = some s → ∃ front,
    presto.createTable o = front ++ withClause (presto.withEntries []) ∧
      trino.createTable o = front ++ withClause (presto.withEntries [] ++ s.withEntries)
  dropTable : ∀ suffix, trino.dropTable suffix = presto.dropTable suffix
  truncateTable : ∀ suffix, trino.truncateTable suffix = presto.truncateTable suffix
  createStagingTable : ∀ o, trino.createStagingTable o = presto.createStagingTable o
  dropStagingTable : ∀ suffix, trino.dropStagingTable suffix = presto.dropStagingTable suffix
  select : ∀ o, trino.selectText o = presto.selectText o
  selectPartition : ∀ o scope, trino.selectPartition o scope = presto.selectPartition o scope
  sample : ∀ o scope, trino.sample o scope = presto.sample o scope
  insert : ∀ source filter suffix,
    trino.insertInto source filter suffix = presto.insertInto source filter suffix
  delete : ∀ o, trino.deleteFrom o = presto.deleteFrom o
  deletePartition : ∀ scope, trino.deletePartition scope = presto.deletePartition scope
  upsert : ∀ o, trino.upsertSelect o = presto.upsertSelect o
  createView : ∀ o, trino.createView o = presto.createView o
  dropView : ∀ suffix, trino.dropView suffix = presto.dropView suffix
  anonymise : ∀ scope, trino.anonymisePartition scope = presto.anonymisePartition scope
  policy : ∀ kind, trino.resolvePolicy kind =
    (presto.resolvePolicy kind).mapError (·.reportedBy trino.dialect.name)
  overwrite : ∀ select suffix, (∃ p, presto.insertOverwrite select suffix = .error p) ∧
    ∃ p, trino.insertOverwrite select suffix = .error p

theorem trino_vocabulary : Dialect.trino.vocabulary = Dialect.presto.vocabulary := rfl

section Presto

variable (t : Table)

theorem definitions_trino (columns : List BoundColumn) :
    (t.wordedIn .trino).definitions columns = (t.wordedIn .presto).definitions columns := by
  refine List.map_congr_left fun c _ => ?_
  change _ ++ Dialect.trino.commentClause c.comment = _ ++ Dialect.presto.commentClause c.comment
  cases c.comment <;> rfl

theorem prestoDefinition_trino (o : CreateOptions) (more : List String) :
    (t.wordedIn .trino).prestoDefinition o more = (t.wordedIn .presto).prestoDefinition o more := by
  rw [prestoDefinition, definitions_trino]
  rfl

theorem stagingDefinition_trino (o : StagingOptions) :
    (t.wordedIn .trino).stagingDefinition o = (t.wordedIn .presto).stagingDefinition o := by
  rw [stagingDefinition, definitions_trino]
  rfl

theorem earliest_reportedBy (p : Policy) (e : Expiry) (dialect : String) :
    (p.earliest e).mapError (·.reportedBy dialect) = p.earliest e := by
  rw [Policy.earliest]
  cases e.earliest with
  | none => rfl
  | some values =>
    dsimp only
    split <;> rfl

/-- What is written for a fresh table is the same, if it is the same for all tables. -/
theorem withValues_trino (values : Dict String) {write : Table → Option String}
    (hwrite : ∀ u : Table, write (u.wordedIn .trino) = write (u.wordedIn .presto)) :
    ((t.wordedIn .trino).withValues values >>= fun old => .ok (write old)) =
      (((t.wordedIn .presto).withValues values >>= fun old => .ok (write old)).mapError
        (·.reportedBy "trino") : Except Problem (Option String)) := by
  have hvalues : (t.wordedIn .trino).withValues values =
      outcomeIn .trino ((t.wordedIn .presto).withValues values) :=
    withValues_outcomeIn trino_vocabulary (t := t.wordedIn .presto) rfl values
  rw [hvalues]
  cases hold : (t.wordedIn .presto).withValues values with
  | error p => rfl
  | ok old =>
    obtain ⟨i, _, hbind⟩ := Outcome.bind_eq_ok.1 hold
    have hdialect : old.dialect = .presto := (bind_eq_ok_iff.1 hbind).2.1
    have hpresto : old.wordedIn .presto = old := by rw [wordedIn, ← hdialect]
    have hsame := hwrite old
    rw [hpresto] at hsame
    exact congrArg Except.ok hsame

theorem resolve_trino (p : Policy) : (t.wordedIn .trino).resolve p =
    ((t.wordedIn .presto).resolve p).mapError (·.reportedBy "trino") := by
  cases p with
  | manual => rfl
  | retention e =>
    rw [resolve, resolve, mapError_bind, earliest_reportedBy]
    exact congrArg _ (funext fun values => t.withValues_trino values fun _ => rfl)
  | anonymisation e =>
    rw [resolve, resolve, mapError_bind, earliest_reportedBy]
    exact congrArg _ (funext fun values => t.withValues_trino values fun _ => rfl)

theorem agree_trino : (t.wordedIn .presto).Agree (t.wordedIn .trino) := by
  constructor
  case operation =>
    intro o ho
    have hperform : (t.wordedIn .trino).perform o = changeIn .trino ((t.wordedIn .presto).perform o) :=
      perform_changeIn trino_vocabulary (t := t.wordedIn .presto) rfl ho
    rw [hperform, changeIn_succeeds]
  case createTable =>
    intro o ho
    have hdefinition : (t.wordedIn .trino).definition o = (t.wordedIn .trino).prestoDefinition o [] := by
      rw [definition, ho]
      rfl
    rw [Table.createTable, hdefinition, prestoDefinition_trino]
    rfl
  case externalTable =>
    intro o s ho
    obtain ⟨front, htext⟩ := (t.wordedIn .presto).prestoDefinition_text o
    have hdefinition : (t.wordedIn .trino).definition o =
        (t.wordedIn .trino).prestoDefinition o s.withEntries := by
      rw [definition, ho]
      rfl
    refine ⟨front, ?_, ?_⟩
    · rw [← List.append_nil ((t.wordedIn .presto).withEntries []), ← htext]
      rfl
    · rw [Table.createTable, hdefinition, prestoDefinition_trino, htext]
  case createStagingTable =>
    intro o
    rw [Table.createStagingTable, stagingDefinition_trino]
    rfl
  case policy =>
    intro kind
    rw [resolvePolicy, resolvePolicy]
    have hsame : (t.wordedIn .trino).policies.find? kind = (t.wordedIn .presto).policies.find? kind := rfl
    rw [hsame]
    split
    · exact t.resolve_trino _
    · rfl
  case overwrite => exact fun select suffix => ⟨⟨_, rfl⟩, ⟨_, rfl⟩⟩
  all_goals intros; rfl

end Presto

/-- An instance binds to Trino exactly when it binds to Presto, and whatever is then done to both tables,
the two agree. -/
theorem trino_agrees_with_presto (i : Instance) :
    ((∃ u, bind i .trino = .ok u) ↔ ∃ t, bind i .presto = .ok t) ∧
    ∀ t u, bind i .presto = .ok t → bind i .trino = .ok u →
      ∀ history : List Operation, (∀ o ∈ history, o.KeepsDialect) →
        (t.run history).Agree (u.run history) := by
  have hbind : bind i .trino = outcomeIn .trino (bind i .presto) := bind_outcomeIn trino_vocabulary i
  constructor
  · rw [hbind]
    cases bind i .presto <;> simp [outcomeIn, Except.mapError, Except.map]
  · intro t u ht hu history hkeeps
    have hdialect : t.dialect = .presto := (bind_eq_ok_iff.1 ht).2.1
    obtain rfl : t.wordedIn .trino = u := by
      rw [hbind, ht] at hu
      exact Except.ok.inj hu
    have hrun := run_wordedIn (d := .trino) hkeeps (t := t) (by rw [hdialect]; rfl)
    have hkept := (namedLike_run hkeeps t).dialect
    have hpresto : (t.run history).wordedIn .presto = t.run history := by
      rw [wordedIn, ← hdialect, ← hkept]
    have hagree := (t.run history).agree_trino
    rwa [hpresto, ← hrun] at hagree

/-- What is done to the visits: one value is set, one operation fails, and a column is added. -/
def visitChanges : List Operation :=
  [.setValue "ds" "'2020-01-01'", .setValue "none" "1", .addColumn (Column.scalar "at" .timestamp)]

/-- Files of the visits in a store of their own. -/
def visitFiles : CreateOptions where
  filter := .only ["id", "at"]
  storage := some ⟨"s3://lake", Dict.ofList [("format", "PARQUET")]⟩

/-- The statement that creates the table over these files in Trino. -/
def visitFilesText : String :=
  "CREATE TABLE IF NOT EXISTS \"web\".\"visits\" (\n  \"id\" INTEGER,\n  \"at\" TIMESTAMP\n)\nWITH (\n" ++
    "  partitioned_by = ARRAY['ds', 'country'],\n  external_location = 's3://lake',\n  format = 'PARQUET'\n)"

set_option maxRecDepth 2048 in
theorem visits_trino_agrees : ∃ t u, bind visitInstance .presto = .ok t ∧ bind visitInstance .trino = .ok u ∧
    (u.run visitChanges).createTable visitFiles = visitFilesText ∧
    (t.run visitChanges).Agree (u.run visitChanges) := by
  obtain ⟨t, ht⟩ : ∃ t, bind visitInstance .presto = .ok t := ⟨_, rfl⟩
  have hbind : bind visitInstance .trino = .ok _ := rfl
  have hkeeps : ∀ o ∈ visitChanges, o.KeepsDialect := by
    intro o ho
    simp only [visitChanges, List.mem_cons, List.not_mem_nil, or_false] at ho
    rcases ho with rfl | rfl | rfl <;> trivial
  have hagree := (trino_agrees_with_presto visitInstance).2 t _ ht hbind visitChanges hkeeps
  exact ⟨t, _, ht, hbind, by cbv, hagree⟩

end Table

end Warehouse
