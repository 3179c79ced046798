import Warehouse.Proofs.Module.Conversion

/-!
What a module that passes the check can still fail with. Its entries turn into declarations without fail,
and its bases are found, so that nothing is wrong with the configuration any more. The names of the fields
of rows are looked at only where a prototype is made, and a table without columns only where an instance
is. Main statement: when shapes and instances can be made, and how they fail.
-/

namespace Warehouse

open Outcome (bind_eq_ok)

namespace Module

/-! ### All tables -/

/-- The shapes of the remaining tables are made one after the other, up to the first that is at fault. -/
theorem shapesAfter_of_check {m : Module} (hm : (m.tables.map (·.name)).Nodup)
    {rest before : List TableEntry} {earlier : List Shape} {declared : List String} {index : Nat}
    {s : Sequence} (htables : m.tables = before ++ rest) (hmade : List.Forall₂ m.Made before earlier)
    (hdeclared : ∀ n ∈ declared, n ∈ before.map (·.name))
    (hcheck : checkTables m.privacy declared index rest = .ok ()) :
    (∃ shapes, shapesAfter m.privacy earlier s rest = .ok shapes ∧
      List.Forall₂ m.Made m.tables shapes) ∨
    ∃ p, shapesAfter m.privacy earlier s rest = .error p ∧ ∃ t ∈ m.tables, m.FaultOf t p := by
  induction rest generalizing before earlier declared index s with
  | nil =>
    rw [List.append_nil] at htables
    exact .inl ⟨earlier, rfl, htables ▸ hmade⟩
  | cons t rest ih =>
    obtain ⟨_, hbase, hcolumns, hrest⟩ := TableEntry.checkTables_cons hcheck
    have hbefore : ∀ b ∈ before, b ∈ m.tables := fun b hb => htables ▸ List.mem_append_left _ hb
    have ht : t ∈ m.tables := htables ▸ List.mem_append_right _ List.mem_cons_self
    obtain ⟨base, hfound, hbase⟩ := TableEntry.findBase_of_check hbefore hmade hdeclared hbase
    rw [shapesAfter]
    rcases TableEntry.shape_of_check hm hfound hbase hcolumns s with
      ⟨shape, next, hshape, hshapeMade⟩ | ⟨p, hp, hfault⟩
    · have hsofar : m.tables = (before ++ [t]) ++ rest := by
        rw [htables, List.append_assoc, List.singleton_append]
      have hnames : ∀ n ∈ t.name :: declared, n ∈ (before ++ [t]).map (·.name) := by
        intro n hn
        rw [List.map_append, List.mem_append]
        rcases List.mem_cons.1 hn with rfl | hn
        · exact .inr List.mem_cons_self
        · exact .inl (hdeclared n hn)
      rw [hshape]
      exact ih hsofar (List.rel_append hmade (.cons hshapeMade .nil)) hnames hrest
    · rw [hp]
      exact .inr ⟨p, rfl, t, ht, hfault⟩

theorem columns_of_check {categories : Dict Privacy} {tables : List TableEntry} {declared : List String}
    {index : Nat} (h : checkTables categories declared index tables = .ok ()) :
    ∀ t ∈ tables, TableEntry.checkColumns categories t.name [] t.columns = .ok () := by
  induction tables generalizing declared index with
  | nil => simp
  | cons t rest ih =>
    obtain ⟨_, _, hcolumns, hrest⟩ := TableEntry.checkTables_cons h
    exact List.forall_mem_cons.2 ⟨hcolumns, ih hrest⟩

/-! ### Instances -/

theorem create_of_made {m : Module} {t : TableEntry} {s : Shape} (h : m.Made t s)
    (habstract : t.isAbstract = false) (schema : String) :
    (∃ i, Instance.create s schema [] = .ok i ∧ i.shape = s ∧ i.schema = schema ∧
      ∃ c, m.HasColumn t c) ∨
    (Instance.create s schema [] = .error (.prototypeRequired t.name) ∧ ∀ c, ¬ m.HasColumn t c) := by
  cases hp : s.prototype with
  | some p =>
    left
    have hnonempty := (h.concrete.1 (by rw [hp]; rfl)).2
    rw [ne_eq, h.flattens.eq_nil, not_forall_not] at hnonempty
    rw [Instance.create, Shape.requirePrototype, hp]
    exact ⟨_, rfl, rfl, rfl, hnonempty⟩
  | none =>
    right
    have hempty : s.columns = [] := by
      by_contra hne
      have hsome := h.concrete.2 ⟨habstract, hne⟩
      rw [hp] at hsome
      cases hsome
    rw [Instance.create, Shape.requirePrototype, hp, h.name]
    exact ⟨rfl, h.flattens.eq_nil.1 hempty⟩

/-- The shapes of the tables that are not abstract, side by side with them. -/
theorem concrete_of_made {m : Module} {tables : List TableEntry} {shapes : List Shape}
    (h : List.Forall₂ m.Made tables shapes) :
    List.Forall₂ (fun t s => ((t, s) ∈ tables.zip shapes ∧ t.isAbstract = false) ∧ m.Made t s)
      (tables.filter (!·.isAbstract))
      (((tables.zip shapes).filter fun (entry, _) => !entry.isAbstract).map (·.2)) := by
  induction h with
  | nil => exact .nil
  | @cons t s tables shapes hs _ ih =>
    have hlater := ih.imp
      (S := fun u s' => ((u, s') ∈ (t :: tables).zip (s :: shapes) ∧ u.isAbstract = false) ∧
        m.Made u s')
      fun _ _ ⟨⟨hzip, hconcrete⟩, hmade⟩ => ⟨⟨List.mem_cons_of_mem _ hzip, hconcrete⟩, hmade⟩
    rw [List.zip_cons_cons]
    cases habstract : t.isAbstract with
    | true =>
      rw [List.filter_cons_of_neg (by simp [habstract]),
        List.filter_cons_of_neg (by simp [habstract])]
      exact hlater
    | false =>
      rw [List.filter_cons_of_pos (by simp [habstract]),
        List.filter_cons_of_pos (by simp [habstract])]
      exact .cons ⟨⟨List.mem_cons_self, habstract⟩, hs⟩ hlater

/-- Instances of tables that are not abstract are made in order, up to the first without columns. -/
theorem instancesOf_of_made {m : Module} (schema : String) {P : TableEntry → Shape → Prop}
    {tables : List TableEntry} {shapes : List Shape}
    (h : List.Forall₂ (fun t s => (P t s ∧ t.isAbstract = false) ∧ m.Made t s) tables shapes) :
    (∃ is, instancesOf schema shapes = .ok is ∧
      List.Forall₂ (fun t i => P t i.shape ∧ i.shape.name = t.name ∧ i.schema = schema) tables is ∧
      ∀ t ∈ tables, ∃ c, m.HasColumn t c) ∨
    ∃ t ∈ tables, (∀ c, ¬ m.HasColumn t c) ∧
      instancesOf schema shapes = .error (.prototypeRequired t.name) := by
  induction h with
  | nil => exact .inl ⟨[], rfl, .nil, by simp⟩
  | @cons t s tables shapes hs _ ih =>
    obtain ⟨⟨hP, hconcrete⟩, hmade⟩ := hs
    rw [instancesOf]
    rcases create_of_made hmade hconcrete schema with ⟨i, hi, rfl, hschema, hcolumn⟩ | ⟨hi, hnone⟩
    · rw [hi]
      rcases ih with ⟨is, his, hall, hcolumns⟩ | ⟨u, hu, hnone, his⟩
      · exact .inl ⟨i :: is, bind_eq_ok.2 ⟨i, rfl, bind_eq_ok.2 ⟨is, his, rfl⟩⟩,
          .cons ⟨hP, hmade.name, hschema⟩ hall, List.forall_mem_cons.2 ⟨hcolumn, hcolumns⟩⟩
      · refine .inr ⟨u, List.mem_cons_of_mem t hu, hnone, ?_⟩
        show (instancesOf schema shapes >>= _) = _
        rw [his]
        rfl
    · exact .inr ⟨t, List.mem_cons_self, hnone, by rw [hi]; rfl⟩

/-! ### The module -/

/-- What becomes of a module that is sound but for rows and tables without columns. -/
structure Converts (m : Module) : Prop where
  /-- Each entry of each table has a declaration. -/
  entries : ∀ t ∈ m.tables, ∀ e ∈ t.columns, ∃ c, e.toColumn m.privacy = .ok c
  /-- Nothing is wrong with the configuration. -/
  configured : ∀ q, m.shapes ≠ .error (.configuration q) ∧ m.instances ≠ .error (.configuration q)
  /-- Shapes are missing exactly when a table that is not abstract has a row whose fields lack names or
  share them. -/
  shapes_fail : (∃ p, m.shapes = .error p) ↔ ∃ t ∈ m.tables, t.isAbstract = false ∧
    ∃ c, m.HasColumn t c ∧ ∃ row ∈ c.declarations, ∃ fields, row.kind = .row fields ∧
      ¬ WellNamed fields
  /-- The problem is that of such a row. -/
  shapes_fault : ∀ p, m.shapes = .error p → ∃ t ∈ m.tables, m.FaultOf t p
  /-- Once there are shapes, instances are missing exactly when a table that is not abstract has no
  columns. -/
  instances_fail : ∀ shapes, m.shapes = .ok shapes → ((∃ p, m.instances = .error p) ↔
    ∃ t ∈ m.tables, t.isAbstract = false ∧ ∀ c, ¬ m.HasColumn t c)
  /-- The problem is that of such a table. -/
  instances_fault : ∀ shapes p, m.shapes = .ok shapes → m.instances = .error p →
    ∃ t ∈ m.tables, t.isAbstract = false ∧ (∀ c, ¬ m.HasColumn t c) ∧ p = .prototypeRequired t.name
  /-- Otherwise each table that is not abstract has one instance, of its own shape, in order. -/
  instances : ∀ shapes is, m.shapes = .ok shapes → m.instances = .ok is →
    (is.map (·.shape.name)).Nodup ∧
    List.Forall₂ (fun t i => (t, i.shape) ∈ m.tables.zip shapes ∧ i.shape.name = t.name ∧
      i.schema = m.schema) (m.tables.filter (!·.isAbstract)) is

theorem made_of_shapes {m : Module} (hcheck : m.check = .ok ()) :
    (∃ shapes, m.shapes = .ok shapes ∧ List.Forall₂ m.Made m.tables shapes) ∨
      ∃ p, m.shapes = .error p ∧ ∃ t ∈ m.tables, m.FaultOf t p :=
  shapesAfter_of_check (TableEntry.names_of_check hcheck).1 (List.nil_append _).symm .nil (by simp) hcheck

theorem instances_of_made {m : Module} {shapes : List Shape} (hshapes : m.shapes = .ok shapes)
    (hmade : List.Forall₂ m.Made m.tables shapes) :
    (∃ is, m.instances = .ok is ∧
      List.Forall₂ (fun t i => (t, i.shape) ∈ m.tables.zip shapes ∧ i.shape.name = t.name ∧
        i.schema = m.schema) (m.tables.filter (!·.isAbstract)) is ∧
      ∀ t ∈ m.tables, t.isAbstract = false → ∃ c, m.HasColumn t c) ∨
    ∃ t ∈ m.tables, t.isAbstract = false ∧ (∀ c, ¬ m.HasColumn t c) ∧
      m.instances = .error (.prototypeRequired t.name) := by
  have hconcrete : ∀ t, t ∈ m.tables.filter (!·.isAbstract) ↔ t ∈ m.tables ∧ t.isAbstract = false := by
    simp
  have hinstances : m.instances = instancesOf m.schema
      (((m.tables.zip shapes).filter fun (entry, _) => !entry.isAbstract).map (·.2)) := by
    rw [Module.instances, hshapes]
    rfl
  rw [hinstances]
  rcases instancesOf_of_made m.schema (concrete_of_made hmade) with
    ⟨is, his, hall, hcolumns⟩ | ⟨t, ht, hnone, his⟩
  · exact .inl ⟨is, his, hall, fun t ht h => hcolumns t ((hconcrete t).2 ⟨ht, h⟩)⟩
  · obtain ⟨ht, h⟩ := (hconcrete t).1 ht
    exact .inr ⟨t, ht, h, hnone, his⟩

/-- A module that passes the check converts: what can still be wrong are the names of the fields of rows,
which shapes fail with, and tables without columns, which instances fail with. -/
theorem converts_of_check {m : Module} (hcheck : m.check = .ok ()) : m.Converts := by
  have hnames := (TableEntry.names_of_check hcheck).1
  refine ⟨?entries, ?configured, ?shapes_fail, ?shapes_fault, ?instances_fail, ?instances_fault,
    ?instances⟩
  case entries =>
    exact fun t ht => (TableEntry.wellNamed_of_check (columns_of_check hcheck t ht)).1
  case configured =>
    intro q
    rcases made_of_shapes hcheck with ⟨shapes, hshapes, hmade⟩ | ⟨p, hp, t, _, _, _, _, _, _, hfault⟩
    · refine ⟨by simp [hshapes], ?_⟩
      rcases instances_of_made hshapes hmade with ⟨is, his, _⟩ | ⟨t, _, _, _, his⟩
      · simp [his]
      · simp [his]
    · have hne := hfault.ne_configuration q
      rw [Module.instances, hp]
      exact ⟨fun h => hne (Except.error.inj h), fun h => hne (Except.error.inj h)⟩
  case shapes_fail =>
    rcases made_of_shapes hcheck with ⟨shapes, hshapes, hmade⟩ | ⟨p, hp, t, ht, habstract, c, hc, row,
      hrow, hfault⟩
    · refine iff_of_false (by simp [hshapes]) ?_
      rintro ⟨t, ht, habstract, c, hc, row, hrow, fields, hkind, hnot⟩
      obtain ⟨i, hi, rfl⟩ := List.mem_iff_getElem.1 ht
      have hi' : i < shapes.length := hmade.length_eq ▸ hi
      exact hnot ((hmade.get hi hi').sound habstract c hc row hrow fields hkind)
    · exact iff_of_true ⟨p, hp⟩ ⟨t, ht, habstract, c, hc, row, hrow, hfault.not_wellNamed⟩
  case shapes_fault =>
    intro p hp
    rcases made_of_shapes hcheck with ⟨shapes, hshapes, _⟩ | ⟨p', hp', hfault⟩
    · rw [hshapes] at hp
      cases hp
    · rw [hp'] at hp
      cases hp
      exact hfault
  all_goals
    intro shapes
    rcases made_of_shapes hcheck with ⟨shapes', hshapes, hmade⟩ | ⟨p, hp, _⟩
    case inr => simp [hp]
    rw [hshapes]
  case instances_fail =>
    rintro -
    rcases instances_of_made hshapes hmade with ⟨is, his, _, hcolumns⟩ | ⟨t, ht, habstract, hnone, his⟩
    · refine iff_of_false (by simp [his]) ?_
      rintro ⟨t, ht, habstract, hnone⟩
      obtain ⟨c, hc⟩ := hcolumns t ht habstract
      exact hnone c hc
    · exact iff_of_true ⟨_, his⟩ ⟨t, ht, habstract, hnone⟩
  case instances_fault =>
    rintro p - hp
    rcases instances_of_made hshapes hmade with ⟨is, his, _⟩ | ⟨t, ht, habstract, hnone, his⟩
    · rw [his] at hp
      cases hp
    · rw [his] at hp
      cases hp
      exact ⟨t, ht, habstract, hnone, rfl⟩
  case instances =>
    rintro is h his
    cases h
    rcases instances_of_made hshapes hmade with ⟨is', his', hall, _⟩ | ⟨t, _, _, _, his'⟩
    · rw [his'] at his
      cases his
      refine ⟨?_, hall⟩
      rw [TableEntry.names_of_forall₂ (fun _ _ h => h.2.1) hall]
      exact hnames.sublist (List.filter_sublist.map _)
    · rw [his'] at his
      cases his

/-- A module of answers: the abstract base has a row with two fields of one name, which the table on it
declares again as a text. The last table has no columns. -/
def survey : Module where
  name := some "survey"
  tables := [
    { name := "Answer", isAbstract := true
      columns := [{ name := "id", type := .bigint },
        { name := "place", type := .row
          fields := [{ name := "part", type := .varchar }, { name := "part", type := .varchar }] }] },
    { name := "Choice", base := some "Answer", columns := [{ name := "place", type := .varchar }] },
    { name := "Remark" }]

/-- The row is no fault of the table that replaces it, and the table without columns has no instance. -/
theorem survey_converts : survey.check = .ok () ∧ survey.Converts ∧
    (∃ shapes, survey.shapes = .ok shapes) ∧ survey.instances = .error (.prototypeRequired "Remark") := by
  have hcheck : survey.check = .ok () := rfl
  have hconverts := converts_of_check hcheck
  have hinstances : survey.instances.map (fun _ => ()) = .error (.prototypeRequired "Remark") := by cbv
  have hshapes : survey.shapes.map (fun _ => ()) = .ok () := by cbv
  refine ⟨hcheck, hconverts, ?_, ?_⟩
  · cases h : survey.shapes with
    | ok shapes => exact ⟨shapes, rfl⟩
    | error p => rw [h] at hshapes; cases hshapes
  · cases h : survey.instances with
    | ok is => rw [h] at hinstances; cases hinstances
    | error p => rw [h] at hinstances; cases hinstances; rfl

end Module

end Warehouse
