import Warehouse.Proofs.Statement.Anonymisation
import Warehouse.Proofs.Table.Descent

/-!
Which columns the policy that removes personal data in time is about. Its statement is written for a fresh
table of the same shape, so it hangs on the shape and not on the columns of the table at hand: it removes
what is personal in the columns of the shape, and knows nothing of columns that were added to the table. For
a table to which none with personal data was added, the two are the same.
-/

namespace Warehouse

/-! ### Columns apart from their values -/

theorem regularOf_append (columns others : List Column) :
    regularOf (columns ++ others) = regularOf columns ++ regularOf others :=
  List.filter_append ..

theorem personalOf_append (columns others : List Column) :
    personalOf (columns ++ others) = personalOf columns ++ personalOf others := by
  rw [personalOf, regularOf_append, List.filter_append]
  rfl

/-- What is a partition, and what is personal, does not hang on values. -/
theorem regularOf_unset (columns : List Column) :
    (regularOf columns).map (·.unset) = regularOf (columns.map (·.unset)) := by
  rw [regularOf, regularOf, List.filter_map]
  rfl

theorem personalOf_unset (columns : List Column) :
    (personalOf columns).map (·.unset) = personalOf (columns.map (·.unset)) := by
  rw [personalOf, personalOf, ← regularOf_unset, List.filter_map]
  rfl

theorem map_name_unset (columns : List Column) :
    (columns.map (·.unset)).map (·.name) = columns.map (·.name) :=
  List.map_map

section SameDeclarations

variable {columns others : List Column} (h : columns.map (·.unset) = others.map (·.unset))
include h

theorem regularOf_names : (regularOf columns).map (·.name) = (regularOf others).map (·.name) := by
  rw [← map_name_unset, regularOf_unset, h, ← regularOf_unset, map_name_unset]

theorem personalOf_names : (personalOf columns).map (·.name) = (personalOf others).map (·.name) := by
  rw [← map_name_unset, personalOf_unset, h, ← personalOf_unset, map_name_unset]

end SameDeclarations

/-- Where no two columns share a name, the names of the personal ones in front cover all personal ones
exactly when none of those behind is personal. -/
theorem personalOf_covered {declared added : List Column}
    (hnames : ((declared ++ added).map (·.name)).Nodup) :
    (∀ c ∈ personalOf (declared ++ added), c.name ∈ (personalOf declared).map (·.name)) ↔
      personalOf added = [] := by
  rw [personalOf_append]
  constructor
  · intro h
    refine List.eq_nil_iff_forall_not_mem.2 fun c hc => ?_
    obtain ⟨d, hd, hname⟩ := List.mem_map.1 (h c (List.mem_append_right _ hc))
    rw [List.map_append] at hnames
    exact (List.nodup_append.1 hnames).2.2 d.name (List.mem_map_of_mem (mem_personalOf.1 hd).1)
      c.name (List.mem_map_of_mem (mem_personalOf.1 hc).1) hname
  · intro h c hc
    rw [h, List.append_nil] at hc
    exact List.mem_map_of_mem hc

namespace Table

/-- The statement for a policy hangs on the columns of the table in no way. -/
theorem resolvePolicy_columns (t : Table) (columns : List BoundColumn) (kind : PolicyKind) :
    { t with columns }.resolvePolicy kind = t.resolvePolicy kind :=
  rfl

/-- The policy that removes personal data in time names a partition that it acts on first. -/
structure AnonymisesFrom (t : Table) (values : Dict String) : Prop where
  policy : ∃ e, t.policies.find? .partitionAnonymisation = some (.anonymisation e) ∧
    e.earliest = some values
  specified : values.isEmpty = false

/-- The answer is the statement for the fresh table, if there is one. -/
theorem AnonymisesFrom.resolvePolicy_eq {t old : Table} {values : Dict String}
    (he : t.AnonymisesFrom values) (hold : t.withValues values = .ok old) :
    t.resolvePolicy .partitionAnonymisation = .ok (old.anonymisePartition (old.scopeOf values)) := by
  obtain ⟨⟨e, hpolicy, hvalues⟩, hne⟩ := he
  have hearliest : (Policy.anonymisation e).earliest e = .ok values := by
    rw [Policy.earliest, hvalues]
    exact if_neg (by simp [hne])
  rw [resolvePolicy, hpolicy]
  exact Outcome.bind_eq_ok.2 ⟨values, hearliest, Outcome.bind_eq_ok.2 ⟨old, hold, rfl⟩⟩

/-- What the policy that removes personal data in time makes of a table with columns of its shape and added
ones: a statement for the fresh table of the partition that it names. -/
structure RemovesDeclared (t old : Table) (values : Dict String) (declared added : List Column)
    (answer : Option String) : Prop where
  /-- The columns of the statement are those of the shape, and the added ones are not among them. -/
  columns : t.toInstance.columns = declared ++ added
  regular : (regularOf old.toInstance.columns).map (·.name) = (regularOf declared).map (·.name)
  personal : (personalOf old.toInstance.columns).map (·.name) = (personalOf declared).map (·.name)
  /-- It is a statement about the table itself, that removes all personal data from the columns it has. -/
  reference : old.reference "" = t.reference ""
  update : t.dialect ≠ .hive → ∀ sql, answer = some sql →
    old.UpdatesPersonal (old.scopeOf values) old.toInstance.columns sql
  overwrite : t.dialect = .hive → ∀ sql, answer = some sql →
    old.OverwritesPersonal (old.scopeOf values) old.toInstance.columns sql
  idle : answer = none ↔ personalOf declared = []
  /-- So it is about every column with personal data exactly when none of these was added. -/
  complete : (∀ c ∈ personalOf t.toInstance.columns,
    c.name ∈ (personalOf old.toInstance.columns).map (·.name)) ↔ personalOf added = []
  silent : (answer = none → personalOf t.toInstance.columns = []) ↔
    (personalOf declared = [] → personalOf added = [])
  /-- An added column, whatever its rules, changes nothing. -/
  blind : ∀ c t', t.addColumn c = .ok () t' → t'.resolvePolicy .partitionAnonymisation = .ok answer

/-- For every table that can come about, the policy that removes personal data in time has an answer: the
statement that removes it from the columns of the shape, or nothing if it has no such column there. -/
theorem anonymisation_of_shape {t : Table} (ht : t.Reachable) {values : Dict String}
    (he : t.AnonymisesFrom values) :
    ∃ p declared added old answer, t.shape.prototype = some p ∧
      declared.map (·.unset) = p.columns.map (·.unset) ∧ t.withValues values = .ok old ∧
      t.resolvePolicy .partitionAnonymisation = .ok answer ∧
      t.RemovesDeclared old values declared added answer := by
  obtain ⟨p, rest, hdescends⟩ := ht.descends
  obtain ⟨declared, added, hcolumns, hdeclared, -⟩ := List.map_eq_append_iff.1 hdescends.columns
  obtain ⟨old, hold⟩ := ht.wellBound.coherent.exists_withValues hdescends values
  obtain ⟨hdialect, hshape, hschema, p', hp', hfresh⟩ := withValues_ok ht.wellBound hold
  have hprototype : t.shape.prototype = some p := hdescends.prototype
  obtain rfl : p = p' := Option.some.inj (hprototype.symm.trans hp')
  have hcoherent := (ht.wellBound.withValues hold).coherent
  have hsame : old.toInstance.columns.map (·.unset) = declared.map (·.unset) := by
    rw [hdeclared]
    refine (congrArg (·.map Column.unset) hfresh).trans ?_
    rw [List.map_map]
    rfl
  have hanswer := he.resolvePolicy_eq hold
  have hidle : old.anonymisePartition (old.scopeOf values) = none ↔ personalOf declared = [] := by
    rw [anonymisePartition_eq_none, ← List.map_eq_nil_iff (f := (·.name)), personalOf_names hsame,
      List.map_eq_nil_iff]
  refine ⟨p, declared, added, old, _, hprototype, hdeclared, hold, hanswer, ?_⟩
  constructor
  case columns => exact hcolumns
  case regular => exact regularOf_names hsame
  case personal => exact personalOf_names hsame
  case reference =>
    simp only [reference, fullName, qualify, vocabulary, prefixedName, tableName, hdialect, hshape, hschema]
  case update => exact fun hd sql h => hcoherent.updatesPersonal (hdialect ▸ hd) h
  case overwrite => exact fun hd sql h => hcoherent.overwritesPersonal (hdialect.trans hd) h
  case idle => exact hidle
  case complete =>
    rw [personalOf_names hsame, hcolumns]
    exact personalOf_covered (hcolumns ▸ ht.wellBound.named.distinct)
  case silent => rw [hidle, hcolumns, personalOf_append, List.append_eq_nil_iff, imp_and,
    and_iff_right id]
  case blind =>
    intro c t' h
    obtain ⟨_, _, b, _, rfl⟩ := addColumn_ok h
    rw [resolvePolicy_columns]
    exact hanswer

/-- A column with personal data that is added to a table of guests. -/
def phone : Column := { Column.scalar "phone" .varchar with privacy := { dropOn := some .delete } }

theorem guestInstance_declared {columns : List Column}
    (h : (guests columns).build = .ok (guestShape columns)) : (guestInstance columns).Declared :=
  have hcreate : Instance.create (guestShape columns) "web" [] = .ok (guestInstance columns) := rfl
  .created ⟨guests columns, h⟩ hcreate

theorem guests_anonymisation_of_shape : ∃ t : Table, t.Reachable ∧ t.AnonymisesFrom guestDay.params ∧
    (personalOf t.toInstance.columns).map (·.name) = ["name", "email", "phone"] ∧
    ∃ declared added old, t.RemovesDeclared old guestDay.params declared added
      (some ("UPDATE \"web\".\"guests\" SET \"name\" = SUBSTR(\"name\", 1, 1), " ++
        "\"email\" = NULL WHERE \"ds\" = '2020-01-01'")) := by
  have hbind : bind (guestInstance guestColumns) .presto = .ok _ := rfl
  have hbound := Reachable.bound (guestInstance_declared (by cbv)) hbind
  have hrun := (hbound.step (.addColumn phone)).step (.setValue "ds" "'2020-02-02'")
  obtain ⟨t, ht, he, hpersonal, hsql⟩ : ∃ t : Table, t.Reachable ∧ t.AnonymisesFrom guestDay.params ∧
      (personalOf t.toInstance.columns).map (·.name) = ["name", "email", "phone"] ∧
      t.resolvePolicy .partitionAnonymisation =
        .ok (some ("UPDATE \"web\".\"guests\" SET \"name\" = SUBSTR(\"name\", 1, 1), " ++
          "\"email\" = NULL WHERE \"ds\" = '2020-01-01'")) :=
    ⟨_, hrun, ⟨⟨_, rfl, rfl⟩, rfl⟩, by cbv, by cbv⟩
  obtain ⟨p, declared, added, old, answer, _, _, _, hanswer, h⟩ := anonymisation_of_shape ht he
  obtain rfl := Except.ok.inj (hsql.symm.trans hanswer)
  exact ⟨t, ht, he, hpersonal, declared, added, old, h⟩

/-- Personal data in an added column is left in place; where no other column holds any, the policy is held
to have nothing to do. -/
theorem anonymisation_misses_added : ∃ t idle : Table, t.Reachable ∧ idle.Reachable ∧
    t.AnonymisesFrom guestDay.params ∧ idle.AnonymisesFrom guestDay.params ∧
    (personalOf t.toInstance.columns).map (·.name) = ["email", "phone"] ∧
    t.resolvePolicy .partitionAnonymisation =
      .ok (some "UPDATE \"web\".\"guests\" SET \"email\" = NULL WHERE \"ds\" = '2020-01-01'") ∧
    (personalOf idle.toInstance.columns).map (·.name) = ["phone"] ∧
    idle.resolvePolicy .partitionAnonymisation = .ok none := by
  have hbind : bind (guestInstance [{ phone with name := "email" }]) .presto = .ok _ := rfl
  have hidle : bind (guestInstance [Column.scalar "id" .integer]) .presto = .ok _ := rfl
  have hrun := (Reachable.bound (guestInstance_declared (by cbv)) hbind).step (.addColumn phone)
  have hrun' := (Reachable.bound (guestInstance_declared (by cbv)) hidle).step (.addColumn phone)
  exact ⟨_, _, hrun, hrun', ⟨⟨_, rfl, rfl⟩, rfl⟩, ⟨⟨_, rfl, rfl⟩, rfl⟩, by cbv, by cbv, by cbv, by cbv⟩

end Table

end Warehouse
