import Warehouse.Proofs.Module.Inheritance
import Warehouse.Proofs.Prototype.Rows

/-!
Conversion of checked tables. Each entry that passes the check turns into a declaration, the base of a table
is found among the shapes before it, and the names of its columns after inheritance follow from the checks
of single tables, so that its shape is made unless a row in a column has faulty fields.
-/

namespace Warehouse

open Outcome (bind_eq_ok error?)

namespace ColumnEntry

variable {categories : Dict Privacy}

theorem withKind_of_check {path : String} {h : EntryHead}
    (hcheck : checkCategory categories path h.privacy = .ok ()) (kind : Kind Column) :
    ∃ c, withKind categories h kind = .ok c := by
  rw [withKind]
  cases hprivacy : h.privacy with
  | none => exact ⟨_, rfl⟩
  | some r =>
    cases r with
    | inline rules => exact ⟨_, rfl⟩
    | category name =>
      rw [hprivacy, checkCategory, Dict.contains] at hcheck
      rw [rules]
      cases hfound : categories.find? name with
      | some found => exact ⟨_, rfl⟩
      | none =>
        rw [hfound] at hcheck
        cases hcheck

mutual

/-- An entry that passes the check can be turned into a declaration. -/
theorem toColumn_of_check : ∀ {e : ColumnEntry} {path : String},
    e.check categories path = .ok () → ∃ c, e.toColumn categories = .ok c
  | ⟨h, element, keyType, valueType, fields⟩, path, hcheck => by
    rw [check] at hcheck
    obtain ⟨_, hcategory, hcheck⟩ := bind_eq_ok.1 hcheck
    obtain ⟨_, hparts, hcheck⟩ := bind_eq_ok.1 hcheck
    obtain ⟨_, helement, hcheck⟩ := bind_eq_ok.1 hcheck
    obtain ⟨_, hkey, hcheck⟩ := bind_eq_ok.1 hcheck
    obtain ⟨_, hvalue, hfields⟩ := bind_eq_ok.1 hcheck
    have hkind := withKind_of_check hcategory
    rw [toColumn]
    split
    · next ht =>
      have hsome : element.isSome = true := by
        by_contra hnone
        simp [ht, checkParts, hnone, fault] at hparts
      obtain ⟨e, he⟩ := partToColumn_of_check helement hsome (partMissing h "element")
      obtain ⟨c, hc⟩ := hkind (.array e)
      exact ⟨c, bind_eq_ok.2 ⟨e, he, hc⟩⟩
    · next ht =>
      have hsome : keyType.isSome = true ∧ valueType.isSome = true := by
        by_contra hnone
        simp [ht, checkParts, hnone, fault] at hparts
      obtain ⟨k, hk⟩ := partToColumn_of_check hkey hsome.1 (partMissing h "key_type")
      obtain ⟨v, hv⟩ := partToColumn_of_check hvalue hsome.2 (partMissing h "value_type")
      obtain ⟨c, hc⟩ := hkind (.map k v)
      exact ⟨c, bind_eq_ok.2 ⟨k, hk, bind_eq_ok.2 ⟨v, hv, hc⟩⟩⟩
    · obtain ⟨fs, hfs⟩ := toColumns_of_check hfields
      obtain ⟨c, hc⟩ := hkind (.row fs)
      exact ⟨c, bind_eq_ok.2 ⟨fs, hfs, hc⟩⟩
    · exact hkind (.scalar _)

theorem partToColumn_of_check : ∀ {part : Option ColumnEntry} {path : String},
    checkPart categories path part = .ok () → part.isSome = true → ∀ absent : Problem,
      ∃ c, partToColumn categories absent part = .ok c
  | none, _, _, hsome, _ => by cases hsome
  | some part, path, hcheck, _, absent => by
    rw [checkPart] at hcheck
    split at hcheck
    · cases hcheck
    · rw [partToColumn]
      exact toColumn_of_check hcheck

theorem toColumns_of_check : ∀ {fields : List ColumnEntry} {path : String},
    checkFields categories path fields = .ok () → ∃ cs, toColumns categories fields = .ok cs
  | [], _, _ => ⟨[], by rw [toColumns]⟩
  | part :: rest, path, hcheck => by
    rw [checkFields] at hcheck
    split at hcheck
    · cases hcheck
    · obtain ⟨_, hpart, hrest⟩ := bind_eq_ok.1 hcheck
      obtain ⟨c, hc⟩ := toColumn_of_check hpart
      obtain ⟨cs, hcs⟩ := toColumns_of_check hrest
      rw [toColumns]
      exact ⟨c :: cs, bind_eq_ok.2 ⟨c, hc, bind_eq_ok.2 ⟨cs, hcs, rfl⟩⟩⟩

end

end ColumnEntry

/-- The column as it was declared, before it had its place among others. -/
def Column.withoutKey (c : Column) : Column := { c with orderingKey := none }

theorem Column.withoutKey_stamped {c : Column} (h : c.orderingKey = none) (key : Option UInt64) :
    withoutKey { c with orderingKey := key } = c := by
  obtain ⟨⟨_, _, _, _, _, _, _, _, _⟩, _⟩ := c
  cases h
  rfl

/-- Faults of rows have nothing to do with the keys of columns. -/
theorem Prototype.firstRowFault?_withoutKey (columns : List Column) :
    firstRowFault? ((columns.map Column.withoutKey).flatMap Column.declarations) =
      firstRowFault? (columns.flatMap Column.declarations) :=
  firstRowFault?_map Column.withoutKey (fun _ => rfl) (fun _ => rfl) columns

namespace Draft

/-- A draft of well named columns fails as the first faulty row in them does, if a prototype is made of
them at all. -/
theorem error?_build {d : Draft} (hnamed : WellNamed d.allColumns) : error? d.build =
    if d.allColumns.isEmpty || d.isAbstract then none
    else Prototype.firstRowFault? (d.allColumns.flatMap Column.declarations) := by
  rw [build]
  split
  · rfl
  · next h =>
    have hnonempty : d.allColumns ≠ [] := fun hempty => h (by rw [hempty]; rfl)
    rw [Outcome.error?_bind_ok, Prototype.error?_create hnonempty hnamed]

end Draft

namespace Module

/-- Whether the columns of a table after inheritance have the declaration: the table declares it, or it
declares no column of that name and the table that it extends has it. -/
inductive HasColumn (m : Module) : TableEntry → Column → Prop
  | own {t : TableEntry} {e : ColumnEntry} {c : Column} (he : e ∈ t.columns)
      (hc : e.toColumn m.privacy = .ok c) : HasColumn m t c
  | inherited {t b : TableEntry} {c : Column} (hb : b ∈ m.tables) (hbase : t.base = some b.name)
      (hnew : c.name ∉ t.columns.map (·.name)) (h : HasColumn m b c) : HasColumn m t c

/-- Whether a table fails with the problem: it is not abstract, and a row in one of its columns has the
fault. -/
def FaultOf (m : Module) (t : TableEntry) (p : Problem) : Prop :=
  t.isAbstract = false ∧ ∃ c, m.HasColumn t c ∧ ∃ row ∈ c.declarations, RowFault row p

/-- Whether the columns are those of the table after inheritance, whatever their order and keys. -/
structure Flattens (m : Module) (t : TableEntry) (columns : List Column) : Prop where
  named : WellNamed columns
  has : ∀ c, m.HasColumn t c ↔ c ∈ columns.map Column.withoutKey

theorem Flattens.eq_nil {m : Module} {t : TableEntry} {columns : List Column}
    (h : m.Flattens t columns) : columns = [] ↔ ∀ c, ¬ m.HasColumn t c := by
  rw [← List.map_eq_nil_iff (f := Column.withoutKey), List.eq_nil_iff_forall_not_mem]
  exact forall_congr' fun c => not_congr (h.has c).symm

/-- Whether the shape is made from the table of the module, and free of faults unless it is abstract. -/
structure Made (m : Module) (t : TableEntry) (s : Shape) : Prop where
  name : s.name = t.name
  flattens : m.Flattens t s.columns
  concrete : s.prototype.isSome ↔ t.isAbstract = false ∧ s.columns ≠ []
  sound : t.isAbstract = false → ∀ c, m.HasColumn t c → ∀ row ∈ c.declarations,
    ∀ fields, row.kind = .row fields → WellNamed fields

end Module

namespace TableEntry

/-! ### One table -/

theorem declareColumns_of_converted {categories : Dict Privacy} :
    ∀ {entries : List ColumnEntry} {d : Draft} {s : Sequence},
      (∀ e ∈ entries, ∃ c, e.toColumn categories = .ok c) →
      ∃ own s', declareColumns categories d s entries =
        .ok ({ d with columns := d.columns ++ own }, s') ∧ DeclaredBy categories entries own
  | [], d, s, _ => ⟨[], s, by rw [declareColumns, List.append_nil], .nil⟩
  | e :: rest, d, s, h => by
    obtain ⟨⟨c, hc⟩, hrest⟩ := List.forall_mem_cons.1 h
    have hstamp : s.stamp c = ({ c with orderingKey := some s.next }, ⟨s.next + 1⟩) := by
      rw [Sequence.stamp, (ColumnEntry.toColumn_ok hc).2]
    obtain ⟨own, s', hown, hdeclared⟩ := declareColumns_of_converted
      (d := (d.column s c).1) (s := (d.column s c).2) hrest
    refine ⟨{ c with orderingKey := some s.next } :: own, s', ?_, .cons ⟨c, _, hc, rfl⟩ hdeclared⟩
    rw [declareColumns, hc]
    refine hown.trans ?_
    simp [Draft.column, hstamp, Draft.addColumn]

/-- A declaration in the list is that of an entry. -/
theorem mem_of_declaredBy {categories : Dict Privacy} {entries : List ColumnEntry}
    {own : List Column} (h : DeclaredBy categories entries own) (c : Column) :
    (∃ e ∈ entries, e.toColumn categories = .ok c) ↔ c ∈ own.map Column.withoutKey := by
  induction h with
  | nil => simp
  | cons he _ ih =>
    obtain ⟨declared, key, hdeclared, rfl⟩ := he
    have hkey := Column.withoutKey_stamped (ColumnEntry.toColumn_ok hdeclared).2 (some key)
    rw [List.exists_mem_cons_iff, ih, List.map_cons, List.mem_cons, hkey, hdeclared]
    refine or_congr_left ⟨fun h => (Except.ok.inj h).symm, fun h => h ▸ rfl⟩

/-- What the check of the columns of a table says of what they are turned into. -/
theorem wellNamed_of_check {categories : Dict Privacy} {table : String} {entries : List ColumnEntry}
    {seen : List String} (h : checkColumns categories table seen entries = .ok ()) :
    (∀ e ∈ entries, ∃ c, e.toColumn categories = .ok c) ∧
      ∀ own : List Column, own.map (·.name) = entries.map (·.name) →
        WellNamed own ∧ ∀ c ∈ own, c.name ∉ seen := by
  induction entries generalizing seen with
  | nil =>
    refine ⟨by simp, fun own hown => ?_⟩
    obtain rfl := List.map_eq_nil_iff.1 hown
    exact ⟨.nil, by simp⟩
  | cons e rest ih =>
    rw [checkColumns] at h
    split at h
    · cases h
    · next hblank =>
      split at h
      · cases h
      · next hseen =>
        obtain ⟨_, hcheck, h⟩ := bind_eq_ok.1 h
        obtain ⟨hconverted, hnamed⟩ := ih h
        refine ⟨List.forall_mem_cons.2 ⟨ColumnEntry.toColumn_of_check hcheck, hconverted⟩, ?_⟩
        intro own hown
        obtain ⟨c, own, rfl, hc, hown⟩ := List.map_eq_cons_iff.1 hown
        refine WellNamed.cons_new.2 ⟨fun hempty => hblank ?_, ?_, hc ▸ hnamed own hown⟩
        · have hname : e.name = "" := hc.symm.trans hempty
          rw [hname]
          rfl
        · simpa [hc] using hseen

/-- What is made of tables under their names has these names. -/
theorem names_of_forall₂ {α : Type} {R : TableEntry → α → Prop} {name : α → String}
    (hname : ∀ t a, R t a → name a = t.name) {tables : List TableEntry} {made : List α}
    (h : List.Forall₂ R tables made) : made.map name = tables.map (·.name) := by
  induction h with
  | nil => rfl
  | cons h _ ih => rw [List.map_cons, List.map_cons, hname _ _ h, ih]

/-- What a table extends: nothing, or a table of the module whose shape has been made. -/
inductive BaseMade (m : Module) (t : TableEntry) : Option Shape → Prop
  | none (h : t.base = none) : BaseMade m t none
  | table {b : TableEntry} {s : Shape} (h : t.base = some b.name) (hb : b ∈ m.tables)
      (hs : m.Made b s) : BaseMade m t (some s)

theorem findBase_of_check {m : Module} {t : TableEntry} {before : List TableEntry}
    {earlier : List Shape} {declared : List String} (hbefore : ∀ b ∈ before, b ∈ m.tables)
    (hmade : List.Forall₂ m.Made before earlier)
    (hdeclared : ∀ n ∈ declared, n ∈ before.map (·.name)) (h : t.checkBase declared = .ok ()) :
    ∃ base, t.findBase earlier = .ok base ∧ BaseMade m t base := by
  rw [checkBase] at h
  cases hbase : t.base with
  | none => exact ⟨none, by rw [findBase, hbase], .none hbase⟩
  | some name =>
    rw [hbase] at h
    have hname : name ∈ before.map (·.name) := by
      refine hdeclared name ?_
      by_contra hnot
      simp [hnot, fault] at h
    have hnames : earlier.map (·.name) = before.map (·.name) :=
      names_of_forall₂ (fun _ _ h => h.name) hmade
    obtain ⟨s, hs⟩ : ∃ s, earlier.reverse.find? (·.name == name) = some s := by
      rw [← Option.isSome_iff_exists, List.find?_isSome]
      obtain ⟨s, hs, hsname⟩ := List.mem_map.1 (hnames ▸ hname)
      exact ⟨s, List.mem_reverse.2 hs, by simpa using hsname⟩
    have hmem : s ∈ earlier := List.mem_reverse.1 (List.mem_of_find?_eq_some hs)
    obtain ⟨b, hb, hbs⟩ : ∃ b ∈ before, m.Made b s := by
      obtain ⟨i, hi, rfl⟩ := List.mem_iff_getElem.1 hmem
      have hi' : i < before.length := hmade.length_eq ▸ hi
      exact ⟨before[i], List.getElem_mem hi', hmade.get hi' hi⟩
    have hsname : s.name = name := by simpa using List.find?_some hs
    refine ⟨some s, by rw [findBase, hbase]; simp only [hs], .table ?_ (hbefore b hb) hbs⟩
    rw [hbase, ← hsname, hbs.name]

theorem flattens_allColumns {m : Module} (hm : (m.tables.map (·.name)).Nodup) {t : TableEntry}
    {base : Option Shape} (hbase : BaseMade m t base) {own : List Column}
    (hown : DeclaredBy m.privacy t.columns own) (hnamed : WellNamed own) :
    m.Flattens t (t.fullDraft base own).allColumns := by
  have hinherited : WellNamed (base.getD blank).columns := by
    cases hbase with
    | none _ => exact .nil
    | table _ _ hs => exact hs.flattens.named
  refine ⟨Draft.allColumns_wellNamed hinherited hnamed, fun c => ?_⟩
  have hall : ∀ e, e ∈ (t.fullDraft base own).allColumns ↔
      (e ∈ (base.getD blank).columns ∧ e.name ∉ t.columns.map (·.name)) ∨ e ∈ own := by
    intro e
    rw [Draft.mem_allColumns, ← hown.names]
    rfl
  rw [List.mem_map]
  constructor
  · rintro (⟨he, hc⟩ | ⟨hu, hname, hnew, h⟩)
    · obtain ⟨d, hd, rfl⟩ := List.mem_map.1 ((mem_of_declaredBy hown c).1 ⟨_, he, hc⟩)
      exact ⟨d, (hall d).2 (.inr hd), rfl⟩
    · cases hbase with
      | none hnone => rw [hnone] at hname; cases hname
      | @table b s hb hmem hs =>
        -- names are unique in the module, so there is one table that is extended
        have hsame := Option.some.inj (hb.symm.trans hname)
        obtain rfl := List.inj_on_of_nodup_map hm hmem hu hsame
        obtain ⟨d, hd, rfl⟩ := List.mem_map.1 ((hs.flattens.has c).1 h)
        exact ⟨d, (hall d).2 (.inl ⟨hd, hnew⟩), rfl⟩
  · rintro ⟨d, hd, rfl⟩
    rcases (hall d).1 hd with ⟨hd, hnew⟩ | hd
    · cases hbase with
      | none _ => cases hd
      | table hb hmem hs =>
        exact .inherited hmem hb hnew ((hs.flattens.has _).2 (List.mem_map_of_mem hd))
    · obtain ⟨e, he, hc⟩ := (mem_of_declaredBy hown _).2 (List.mem_map_of_mem hd)
      exact .own he hc

/-- What building the draft of a table comes to: its shape, unless a row in its columns is at fault. -/
theorem build_of_check {m : Module} {t : TableEntry} {base : Option Shape} {own : List Column}
    (hflat : m.Flattens t (t.fullDraft base own).allColumns) :
    (∃ s, (t.fullDraft base own).build = .ok s ∧ m.Made t s) ∨
      ∃ p, (t.fullDraft base own).build = .error p ∧ m.FaultOf t p := by
  have hfault := Draft.error?_build hflat.named
  rw [← Prototype.firstRowFault?_withoutKey] at hfault
  cases hbuild : (t.fullDraft base own).build with
  | ok s =>
    have hname : s.name = t.name := by rw [Draft.build_ok hbuild]; rfl
    have hcolumns : s.columns = (t.fullDraft base own).allColumns := by rw [Draft.build_ok hbuild]
    refine .inl ⟨s, rfl, hname, hcolumns ▸ hflat, Draft.build_concrete hbuild, ?_⟩
    intro habstract c hc row hrow
    have hmem := (hflat.has c).1 hc
    rw [hbuild] at hfault
    split at hfault
    · next hnone =>
      rcases Bool.or_eq_true_iff.1 hnone with hempty | h
      · rw [List.isEmpty_iff.1 hempty] at hmem
        cases hmem
      · exact absurd (habstract.symm.trans h) Bool.false_ne_true
    · exact Prototype.firstRowFault?_eq_none.1 hfault.symm c hmem row hrow
  | error p =>
    rw [hbuild] at hfault
    split at hfault
    · cases hfault
    · next hsome =>
      obtain ⟨c, hc, row, hrow, hp⟩ := Prototype.rowFault_of_firstRowFault? hfault.symm
      have habstract : t.isAbstract = false := by
        by_contra h
        exact hsome (by simp [fullDraft, h])
      exact .inr ⟨p, rfl, habstract, c, (hflat.has c).2 hc, row, hrow, hp⟩

/-- The shape of a table behind those that have been made is made as well, unless a row is at fault. -/
theorem shape_of_check {m : Module} (hm : (m.tables.map (·.name)).Nodup) {t : TableEntry}
    {base : Option Shape} {earlier : List Shape} (hfound : t.findBase earlier = .ok base)
    (hbase : BaseMade m t base) (hcolumns : checkColumns m.privacy t.name [] t.columns = .ok ())
    (sequence : Sequence) :
    (∃ s next, t.shape m.privacy earlier sequence = .ok (s, next) ∧ m.Made t s) ∨
      ∃ p, t.shape m.privacy earlier sequence = .error p ∧ m.FaultOf t p := by
  obtain ⟨hconverted, hnamed⟩ := wellNamed_of_check hcolumns
  obtain ⟨own, next, hdeclare, hown⟩ :=
    declareColumns_of_converted (d := t.draft base) (s := sequence) hconverted
  have hshape : t.shape m.privacy earlier sequence =
      (t.fullDraft base own).build.map fun built => (built, next) := by
    rw [← fullDraft_eq, shape, hfound]
    show (declareColumns m.privacy (t.draft base) sequence t.columns >>= _) = _
    rw [hdeclare]
    rfl
  have hflat := flattens_allColumns hm hbase hown (hnamed own hown.names).1
  rcases build_of_check hflat with ⟨s, hs, hmade⟩ | ⟨p, hp, hfault⟩
  · exact .inl ⟨s, next, by rw [hshape, hs]; rfl, hmade⟩
  · exact .inr ⟨p, by rw [hshape, hp]; rfl, hfault⟩

end TableEntry

end Warehouse
