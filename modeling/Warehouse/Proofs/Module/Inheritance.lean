import Mathlib
import Warehouse.Module.Check
import Warehouse.Proofs.Policy.Kinds
import Warehouse.Proofs.Prototype.Names
import Warehouse.Proofs.Shape.Rank

/-!
The shapes of a module. A table stands on what it extends: it has the columns of its base that it does not
declare again, then its own, and what it says of a property, a policy or the prefix comes after or before
what the base says. The order of the columns comes about through ranks from one sequence, which along the
file only grows. Main statement: the shape of each table, from its entry and the shape of its base.
-/

namespace Warehouse

open Outcome (bind_eq_ok map_eq_ok)

/-! ### From entries to declarations -/

namespace ColumnEntry

theorem withKind_ok {categories : Dict Privacy} {h : EntryHead} {kind : Kind Column} {c : Column}
    (hc : withKind categories h kind = .ok c) : c.name = h.name ∧ c.orderingKey = none := by
  obtain ⟨_, _, rfl⟩ := map_eq_ok.1 hc
  exact ⟨rfl, rfl⟩

/-- A declaration has the name of its entry, and no ordering key yet. -/
theorem toColumn_ok {categories : Dict Privacy} {c : Column} : ∀ {e : ColumnEntry},
    e.toColumn categories = .ok c → c.name = e.name ∧ c.orderingKey = none
  | ⟨h, element, keyType, valueType, fields⟩, hc => by
    rw [toColumn] at hc
    split at hc
    · obtain ⟨_, _, hc⟩ := bind_eq_ok.1 hc
      exact withKind_ok hc
    · obtain ⟨_, _, hc⟩ := bind_eq_ok.1 hc
      obtain ⟨_, _, hc⟩ := bind_eq_ok.1 hc
      exact withKind_ok hc
    · obtain ⟨_, _, hc⟩ := bind_eq_ok.1 hc
      exact withKind_ok hc
    · exact withKind_ok hc

end ColumnEntry

/-- Whether the columns are those that the entries declare, in order, each with an ordering key. -/
def DeclaredBy (categories : Dict Privacy) (entries : List ColumnEntry) (columns : List Column) :
    Prop :=
  List.Forall₂ (fun e c => ∃ declared key, e.toColumn categories = .ok declared ∧
    c = { declared with orderingKey := some key }) entries columns

theorem DeclaredBy.names {categories : Dict Privacy} {entries : List ColumnEntry}
    {columns : List Column} (h : DeclaredBy categories entries columns) :
    columns.map (·.name) = entries.map (·.name) := by
  induction h with
  | nil => rfl
  | cons he _ ih =>
    obtain ⟨declared, key, hdeclared, rfl⟩ := he
    rw [List.map_cons, List.map_cons, ih, ← (ColumnEntry.toColumn_ok hdeclared).1]

namespace TableEntry

/-- The columns of a table are declared one after the other, with the next numbers of the sequence. -/
theorem declareColumns_ok {categories : Dict Privacy} {d' : Draft} {s' : Sequence} :
    ∀ {entries : List ColumnEntry} {d : Draft} {s : Sequence} {n : Nat}, s.At n →
      n + entries.length ≤ UInt64.size →
      declareColumns categories d s entries = .ok (d', s') →
      ∃ own, d' = { d with columns := d.columns ++ own } ∧ DeclaredBy categories entries own ∧
        Ranked n (n + entries.length) own ∧ s'.At (n + entries.length)
  | [], d, s, n, hs, _, h => by
    cases h
    exact ⟨[], by rw [List.append_nil], .nil, .nil, hs⟩
  | e :: rest, d, s, n, hs, hn, h => by
    rw [List.length_cons] at hn
    obtain ⟨c, hc, h⟩ := bind_eq_ok.1 h
    obtain ⟨key, hstamp, hnext, hkey⟩ := hs.stamp (by omega) (ColumnEntry.toColumn_ok hc).2
    simp only [Draft.column, hstamp, Draft.addColumn] at h
    obtain ⟨own, rfl, hown, hranked, hs'⟩ := declareColumns_ok hnext (by omega) h
    refine ⟨{ c with orderingKey := some key } :: own, ?_, .cons ⟨c, key, hc, rfl⟩ hown, ?_, ?_⟩
    · simp
    · -- the first column has the rank n, and the others go on from there
      have hfirst : Ranked n (n + 1) [{ c with orderingKey := some key }] := .singleton hkey
      exact (hfirst.append hranked (by omega) (by omega)).mono (by omega) (by simp; omega)
    · rw [List.length_cons, Nat.add_comm rest.length, ← Nat.add_assoc]
      exact hs'

/-! ### One table -/

/-- What a table that extends nothing stands on. -/
def blank : Shape where
  name := ""
  description := none
  namePrefix := ""
  columns := []
  properties := []
  policies := Policies.none
  prototype := none

/-- Whether the shape is what the entry declares on top of its base, if it has one. -/
structure BuiltAs (t : TableEntry) (categories : Dict Privacy) (base : Option Shape) (s : Shape) :
    Prop where
  name : s.name = t.name
  columns : ∃ own, DeclaredBy categories t.columns own ∧ s.columns =
    ((base.getD blank).columns.filter fun c => c.name ∉ t.columns.map (·.name)) ++ own
  properties : s.properties = (base.getD blank).properties ++ t.properties
  policies : ∀ kind, s.policies.find? kind = (t.policies.filter (·.kind = kind)).getLast?.or
    ((base.getD blank).policies.find? kind)
  namePrefix : s.namePrefix = t.namePrefix.getD (base.getD blank).namePrefix
  concrete : s.prototype.isSome ↔ t.isAbstract = false ∧ s.columns ≠ []
  prototype : ∀ p, s.prototype = some p → p = ⟨s.columns, s.properties, s.policies⟩

/-- The draft of a table with all that its entry declares, given its columns. -/
def fullDraft (t : TableEntry) (base : Option Shape) (own : List Column) : Draft where
  name := t.name
  description := t.description
  namePrefix := t.namePrefix.or
    (if (base.getD blank).namePrefix = "" then none else some (base.getD blank).namePrefix)
  isAbstract := t.isAbstract
  inherited := (base.getD blank).columns
  columns := own
  properties := (base.getD blank).properties ++ t.properties
  policies := t.policies.foldl Policies.insert (base.getD blank).policies

theorem foldl_property (properties : List Property) (d : Draft) :
    properties.foldl Draft.property d = { d with properties := d.properties ++ properties } := by
  induction properties generalizing d with
  | nil => rw [List.append_nil]; rfl
  | cons p rest ih => rw [List.foldl_cons, ih, Draft.property, List.append_assoc]; rfl

theorem foldl_policy (policies : List Policy) (d : Draft) :
    policies.foldl Draft.policy d = { d with policies := policies.foldl Policies.insert d.policies } := by
  induction policies generalizing d with
  | nil => rfl
  | cons p rest ih => rw [List.foldl_cons, ih]; rfl

theorem fullDraft_eq (t : TableEntry) (base : Option Shape) (own : List Column) :
    t.policies.foldl Draft.policy (t.properties.foldl Draft.property
      { t.draft base with columns := (t.draft base).columns ++ own }) = t.fullDraft base own := by
  rw [foldl_property, foldl_policy]
  cases base <;> rfl

/-- The prefix of a table is its own, or else that of its base. -/
theorem fullDraft_namePrefix (t : TableEntry) (base : Option Shape) (own : List Column) :
    (t.fullDraft base own).namePrefix.getD "" = t.namePrefix.getD (base.getD blank).namePrefix := by
  rw [fullDraft]
  cases t.namePrefix with
  | some p => rfl
  | none =>
    rw [Option.none_or, Option.getD_none]
    split
    · next hempty => rw [hempty, Option.getD_none]
    · rfl

/-- Where inherited columns have smaller ranks than own ones, they come first. -/
theorem allColumns_ranked {d : Draft} {n hi : Nat} (hinherited : Ranked 0 n d.inherited)
    (hown : Ranked n hi d.columns) (hn : n ≤ hi) :
    d.allColumns = (d.inherited.filter fun c => c.name ∉ d.columns.map (·.name)) ++ d.columns ∧
      Ranked 0 hi d.allColumns := by
  have hranked := (hinherited.filter fun c => c.name ∉ d.columns.map (·.name)).append hown
    (Nat.zero_le n) hn
  have hall : d.allColumns =
      (d.inherited.filter fun c => c.name ∉ d.columns.map (·.name)) ++ d.columns := by
    rw [Draft.allColumns_eq]
    exact byRank_of_pairwise hranked.grows
  exact ⟨hall, hall ▸ hranked⟩

theorem builtAs_of_build {t : TableEntry} {categories : Dict Privacy} {base : Option Shape}
    {own : List Column} {n hi : Nat} {s : Shape} (hn : n ≤ hi)
    (hbase : Ranked 0 n (base.getD blank).columns) (hranked : Ranked n hi own)
    (hown : DeclaredBy categories t.columns own) (h : (t.fullDraft base own).build = .ok s) :
    t.BuiltAs categories base s ∧ Ranked 0 hi s.columns := by
  obtain ⟨hall, hkept⟩ := @allColumns_ranked (t.fullDraft base own) n hi hbase hranked hn
  obtain rfl := Draft.build_ok h
  refine ⟨?_, hkept⟩
  constructor
  case name => rfl
  case columns =>
    rw [← hown.names]
    exact ⟨own, hown, hall⟩
  case properties => rfl
  case policies => exact fun kind => Policies.find?_foldl_insert t.policies kind _
  case namePrefix => exact fullDraft_namePrefix t base own
  case concrete => exact Draft.build_concrete h
  case prototype => exact fun p => Draft.build_prototype h

/-- The base that is found is that of an earlier shape. -/
theorem findBase_ok {t : TableEntry} {earlier : List Shape} {base : Option Shape}
    (h : t.findBase earlier = .ok base) : (t.base = none ∧ base = none) ∨
      ∃ b ∈ earlier, base = some b ∧ t.base = some b.name := by
  rw [findBase] at h
  split at h
  · next hnone =>
    cases h
    exact .inl ⟨hnone, rfl⟩
  · next name hname =>
    split at h
    · next b hb =>
      cases h
      have hmem : b ∈ earlier := List.mem_reverse.1 (List.mem_of_find?_eq_some hb)
      have hfound : b.name = name := by simpa using List.find?_some hb
      exact .inr ⟨b, hmem, rfl, hfound ▸ hname⟩
    · cases h

theorem findBase_ranked {t : TableEntry} {earlier : List Shape} {base : Option Shape} {n : Nat}
    (h : t.findBase earlier = .ok base) (hearlier : ∀ s ∈ earlier, Ranked 0 n s.columns) :
    Ranked 0 n (base.getD blank).columns := by
  rcases findBase_ok h with ⟨_, rfl⟩ | ⟨b, hb, rfl, _⟩
  · exact .nil
  · exact hearlier b hb

/-- Declaring columns adds them behind those of the draft and does nothing else to it. -/
theorem declareColumns_appends {categories : Dict Privacy} {d' : Draft} {s' : Sequence} :
    ∀ {entries : List ColumnEntry} {d : Draft} {s : Sequence},
      declareColumns categories d s entries = .ok (d', s') →
      ∃ own, d' = { d with columns := d.columns ++ own }
  | [], d, s, h => by
    cases h
    exact ⟨[], by rw [List.append_nil]⟩
  | e :: rest, d, s, h => by
    obtain ⟨c, _, h⟩ := bind_eq_ok.1 h
    obtain ⟨own, rfl⟩ := declareColumns_appends (d := d.addColumn (s.stamp c).1) h
    exact ⟨(s.stamp c).1 :: own, by rw [Draft.addColumn, List.append_assoc, List.singleton_append]⟩

/-- The shape of a table is built from the draft of its entry, of its base and of the columns declared. -/
theorem shape_build {t : TableEntry} {categories : Dict Privacy} {earlier : List Shape}
    {sequence next : Sequence} {s : Shape} (h : t.shape categories earlier sequence = .ok (s, next)) :
    ∃ base own, t.findBase earlier = .ok base ∧
      declareColumns categories (t.draft base) sequence t.columns =
        .ok ({ t.draft base with columns := (t.draft base).columns ++ own }, next) ∧
      (t.fullDraft base own).build = .ok s := by
  obtain ⟨base, hbase, h⟩ := bind_eq_ok.1 h
  obtain ⟨⟨d, next'⟩, hd, h⟩ := bind_eq_ok.1 h
  obtain ⟨own, rfl⟩ := declareColumns_appends hd
  replace h : (t.fullDraft base own).build.map (fun built => (built, next')) = .ok (s, next) := by
    rw [← fullDraft_eq]
    exact h
  obtain ⟨built, hbuild, hsame⟩ := map_eq_ok.1 h
  cases hsame
  exact ⟨base, own, hbase, hd, hbuild⟩

/-- The shape of a table stands on that of its base, and its columns keep the order of ranks. -/
theorem shape_ok {t : TableEntry} {categories : Dict Privacy} {earlier : List Shape}
    {sequence next : Sequence} {n : Nat} {s : Shape} (hs : sequence.At n)
    (hn : n + t.columns.length ≤ UInt64.size) (hearlier : ∀ e ∈ earlier, Ranked 0 n e.columns)
    (h : t.shape categories earlier sequence = .ok (s, next)) :
    ∃ base, t.findBase earlier = .ok base ∧ t.BuiltAs categories base s ∧
      Ranked 0 (n + t.columns.length) s.columns ∧ next.At (n + t.columns.length) := by
  obtain ⟨base, own, hbase, hd, hbuild⟩ := shape_build h
  obtain ⟨own', hsame, hown, hranked, hnext⟩ := declareColumns_ok hs hn hd
  obtain rfl : own = own' := List.append_cancel_left (congrArg Draft.columns hsame)
  obtain ⟨hbuilt, hkept⟩ := builtAs_of_build (Nat.le_add_right n _) (findBase_ranked hbase hearlier)
    hranked hown hbuild
  exact ⟨base, hbase, hbuilt, hkept, hnext⟩

/-- What the check of a table in front of others looks at. -/
theorem checkTables_cons {categories : Dict Privacy} {declared : List String} {index : Nat}
    {t : TableEntry} {rest : List TableEntry}
    (h : Module.checkTables categories declared index (t :: rest) = .ok ()) :
    t.name ∉ declared ∧ t.checkBase declared = .ok () ∧
      checkColumns categories t.name [] t.columns = .ok () ∧
      Module.checkTables categories (t.name :: declared) (index + 1) rest = .ok () := by
  rw [Module.checkTables] at h
  split at h
  · cases h
  · split at h
    · cases h
    · next hdeclared =>
      obtain ⟨_, hbase, h⟩ := bind_eq_ok.1 h
      obtain ⟨_, hcolumns, hrest⟩ := bind_eq_ok.1 h
      exact ⟨by simpa using hdeclared, hbase, hcolumns, hrest⟩

/-- A table that passes the check has a name that no earlier one has. -/
theorem names_of_check {categories : Dict Privacy} {tables : List TableEntry} {declared : List String}
    {index : Nat} (h : Module.checkTables categories declared index tables = .ok ()) :
    (tables.map (·.name)).Nodup ∧ ∀ t ∈ tables, t.name ∉ declared := by
  induction tables generalizing declared index with
  | nil => exact ⟨.nil, by simp⟩
  | cons t rest ih =>
    obtain ⟨hdeclared, _, _, hrest⟩ := checkTables_cons h
    obtain ⟨hnodup, hnew⟩ := ih hrest
    refine ⟨?_, ?_⟩
    · rw [List.map_cons, List.nodup_cons]
      refine ⟨fun hmem => ?_, hnodup⟩
      obtain ⟨u, hu, hname⟩ := List.mem_map.1 hmem
      exact hnew u hu (hname ▸ List.mem_cons_self)
    · refine List.forall_mem_cons.2 ⟨hdeclared, fun u hu hmem => ?_⟩
      exact hnew u hu (List.mem_cons_of_mem _ hmem)

end TableEntry

namespace Module

open TableEntry (names_of_check)

/-- The number of columns that the tables declare. -/
def columnCount (tables : List TableEntry) : Nat := (tables.flatMap (·.columns)).length

/-- The shapes of tables are added one by one, each standing on one of those before it. -/
theorem shapesAfter_ok {categories : Dict Privacy} {shapes : List Shape} :
    ∀ {tables : List TableEntry} {earlier : List Shape} {s : Sequence} {n : Nat}, s.At n →
      n + columnCount tables ≤ UInt64.size → (∀ e ∈ earlier, Ranked 0 n e.columns) →
      shapesAfter categories earlier s tables = .ok shapes →
      ∃ later, shapes = earlier ++ later ∧ later.length = tables.length ∧
        ∀ (i : Nat) (t : TableEntry) (s : Shape), tables[i]? = some t → later[i]? = some s →
          ∃ base, t.findBase (earlier ++ later.take i) = .ok base ∧ t.BuiltAs categories base s
  | [], earlier, s, n, _, _, _, h => by
    cases h
    exact ⟨[], by simp, rfl, by simp⟩
  | t :: rest, earlier, s, n, hs, hn, hearlier, h => by
    rw [columnCount, List.flatMap_cons, List.length_append] at hn
    obtain ⟨⟨shape, next⟩, hshape, h⟩ := bind_eq_ok.1 h
    obtain ⟨base, hbase, hbuilt, hranked, hnext⟩ :=
      TableEntry.shape_ok hs (by omega) hearlier hshape
    -- all ranks so far are below the number of columns so far, which the next table counts on from
    have hearlier' : ∀ e ∈ earlier ++ [shape], Ranked 0 (n + t.columns.length) e.columns := by
      intro e he
      rcases List.mem_append.1 he with he | he
      · exact (hearlier e he).mono le_rfl (Nat.le_add_right n _)
      · rw [List.mem_singleton.1 he]
        exact hranked
    obtain ⟨later, rfl, hlength, hlater⟩ :=
      shapesAfter_ok hnext (by rw [columnCount]; omega) hearlier' h
    refine ⟨shape :: later, by simp, by simp [hlength], ?_⟩
    rintro (_ | i) u v hu hv
    · cases hu
      cases hv
      exact ⟨base, by simpa using hbase, hbuilt⟩
    · obtain ⟨b, hb, hbuilt⟩ := hlater i u v hu hv
      exact ⟨b, by simpa using hb, hbuilt⟩

/-- Whether the base is the shape of the one table that the table of this number extends, declared before
it, or there is none because it extends nothing. -/
inductive BaseOf (m : Module) (shapes : List Shape) (i : Nat) (t : TableEntry) : Option Shape → Prop
  | none (h : t.base = none) : BaseOf m shapes i t none
  | table {j : Nat} {e : TableEntry} {b : Shape} (h : t.base = some e.name) (hj : j < i)
      (he : m.tables[j]? = some e) (hb : shapes[j]? = some b)
      (unique : ∀ k u, m.tables[k]? = some u → u.name = e.name → k = j) : BaseOf m shapes i t (some b)

/-- The shape of each table of a module that passes the check is built on that of the table it extends: the
columns of the base that it does not declare again, in their order, and its own in the order of the file,
the properties of both, of each kind the last policy of its own or else that of the base, and its own
prefix or else that of the base. It has a prototype of just these unless it is abstract or has no columns.
Ranks are numbers of one machine word, of which there are more than columns that a module can hold. -/
theorem shapes_inherit {m : Module} (hcheck : m.check = .ok ())
    (hcount : columnCount m.tables ≤ UInt64.size) {shapes : List Shape} (h : m.shapes = .ok shapes) :
    shapes.length = m.tables.length ∧ ∀ (i : Nat) (t : TableEntry) (s : Shape),
      m.tables[i]? = some t → shapes[i]? = some s →
      ∃ base, m.BaseOf shapes i t base ∧ t.BuiltAs m.privacy base s := by
  obtain ⟨later, hshapes, hlength, hlater⟩ := @shapesAfter_ok m.privacy shapes m.tables [] {} 0 rfl
    (by omega) (by simp) h
  obtain rfl : shapes = later := hshapes
  refine ⟨hlength, fun i t s ht hs => ?_⟩
  obtain ⟨base, hbase, hbuilt⟩ := hlater i t s ht hs
  refine ⟨base, ?_, hbuilt⟩
  rcases TableEntry.findBase_ok hbase with ⟨hnone, rfl⟩ | ⟨b, hb, rfl, hname⟩
  · exact .none hnone
  · obtain ⟨j, hj⟩ := List.mem_iff_getElem?.1 hb
    obtain ⟨hji, hb⟩ : j < i ∧ shapes[j]? = some b := by simpa [List.getElem?_take] using hj
    have hbound : j < m.tables.length := hlength ▸ (List.getElem?_eq_some_iff.1 hb).1
    have he : m.tables[j]? = some m.tables[j] := List.getElem?_eq_getElem hbound
    obtain ⟨_, _, hbuiltBase⟩ := hlater j _ b he hb
    refine .table (hbuiltBase.name ▸ hname) hji he hb fun k u hu hsame => ?_
    have hk : (m.tables.map (·.name))[j]? = (m.tables.map (·.name))[k]? := by
      rw [List.getElem?_map, List.getElem?_map, he, hu, Option.map_some, Option.map_some, hsame]
    have hbound' : j < (m.tables.map (·.name)).length := by simpa using hbound
    exact (List.getElem?_inj hbound' (names_of_check hcheck).1 |>.1 hk).symm

/-- A module of books: an abstract base, a table on it, and one on that, which declares a column again and
takes the prefix away. -/
def library : Module where
  tables := [
    { name := "Entry", isAbstract := true, namePrefix := some "lib_"
      columns := [{ name := "id", type := .bigint }, { name := "at", type := .timestamp }]
      policies := [.manual] },
    { name := "Book", base := some "Entry", columns := [{ name := "title", type := .varchar }] },
    { name := "Novel", base := some "Book", namePrefix := some ""
      columns := [{ name := "at", type := .date }, { name := "pages", type := .integer }] }]

theorem library_inherits : ∃ shapes, library.shapes = .ok shapes ∧
    shapes.map (fun s => (s.columns.map (·.name), s.isAbstract)) =
      [(["id", "at"], true), (["id", "at", "title"], false), (["id", "title", "at", "pages"], false)] ∧
    ∃ t s base, library.tables[2]? = some t ∧ shapes[2]? = some s ∧ library.BaseOf shapes 2 t base ∧
      t.BuiltAs library.privacy base s := by
  have hcheck : library.check = .ok () := rfl
  have hcolumns : library.shapes.map (·.map fun s => (s.columns.map (·.name), s.isAbstract)) =
      .ok [(["id", "at"], true), (["id", "at", "title"], false),
        (["id", "title", "at", "pages"], false)] := by cbv
  cases hshapes : library.shapes with
  | error p => rw [hshapes] at hcolumns; cases hcolumns
  | ok shapes =>
    rw [hshapes] at hcolumns
    obtain ⟨hlength, hinherit⟩ := shapes_inherit hcheck (by decide) hshapes
    have hbound : 2 < shapes.length := hlength ▸ (by decide : 2 < library.tables.length)
    have hnovel : shapes[2]? = some shapes[2] := List.getElem?_eq_getElem hbound
    obtain ⟨base, hbase, hbuilt⟩ := hinherit 2 _ _ rfl hnovel
    exact ⟨shapes, rfl, Except.ok.inj hcolumns, _, _, base, rfl, hnovel, hbase, hbuilt⟩

end Module

end Warehouse
