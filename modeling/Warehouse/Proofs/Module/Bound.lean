import Warehouse.Proofs.Module.Checked
import Warehouse.Proofs.Table.Reachable

/-!
The tables of a module in a dialect, each beside the entry that it comes from. Its shape is one that was
built and checked, has the name of the entry and the prefix that the entry or the nearest base with a prefix
of its own gives; and the table is bound from an instance of that shape in the schema of the module.
-/

namespace Warehouse

open Outcome (bind_eq_ok mapM_cons)

namespace Module

variable {m : Module}

/-! ### Shapes -/

/-- Whether the table has the prefix: its own, or that of the table it extends, if any. -/
inductive HasPrefix (m : Module) : TableEntry → String → Prop
  | own {t : TableEntry} {p : String} (h : t.namePrefix = some p) : HasPrefix m t p
  | bare {t : TableEntry} (h : t.namePrefix = none) (hbase : t.base = none) : HasPrefix m t ""
  | inherited {t b : TableEntry} {p : String} (h : t.namePrefix = none) (hb : b ∈ m.tables)
      (hbase : t.base = some b.name) (hp : HasPrefix m b p) : HasPrefix m t p

/-- Where the names of tables are unique, a table has one prefix. -/
theorem HasPrefix.unique (hm : (m.tables.map (·.name)).Nodup) {t : TableEntry} {p q : String}
    (hp : m.HasPrefix t p) (hq : m.HasPrefix t q) : p = q := by
  induction hp with
  | own h =>
    cases hq with
    | own h' => exact Option.some.inj (h.symm.trans h')
    | bare h' _ => rw [h] at h'; cases h'
    | inherited h' _ _ _ => rw [h] at h'; cases h'
  | bare h hbase =>
    cases hq with
    | own h' => rw [h] at h'; cases h'
    | bare _ _ => rfl
    | inherited _ _ hbase' _ => rw [hbase] at hbase'; cases hbase'
  | inherited h hb hbase _ ih =>
    cases hq with
    | own h' => rw [h] at h'; cases h'
    | bare _ hbase' => rw [hbase] at hbase'; cases hbase'
    | inherited _ hb' hbase' hq =>
      have hsame := Option.some.inj (hbase.symm.trans hbase')
      obtain rfl := List.inj_on_of_nodup_map hm hb hb' hsame
      exact ih hq

/-- Whether the shape is a declared one with the name and the prefix of the table. -/
structure Shaped (m : Module) (t : TableEntry) (s : Shape) : Prop where
  declared : s.Declared
  name : s.name = t.name
  namePrefix : m.HasPrefix t s.namePrefix

/-- The shape of a table behind those of other tables of the module. -/
theorem shaped_of_shape {t : TableEntry} {before : List TableEntry} {earlier : List Shape}
    (hbefore : ∀ b ∈ before, b ∈ m.tables) (hearlier : List.Forall₂ m.Shaped before earlier)
    {s next : Sequence} {shape : Shape} (h : t.shape m.privacy earlier s = .ok (shape, next)) :
    m.Shaped t shape := by
  obtain ⟨base, own, hbase, -, hbuild⟩ := TableEntry.shape_build h
  have hfront : shape.namePrefix = t.namePrefix.getD (base.getD TableEntry.blank).namePrefix := by
    rw [Draft.build_ok hbuild]
    exact TableEntry.fullDraft_namePrefix t base own
  refine ⟨⟨_, hbuild⟩, by rw [Draft.build_ok hbuild]; rfl, ?_⟩
  rw [hfront]
  cases hown : t.namePrefix with
  | some p => exact .own hown
  | none =>
    rcases TableEntry.findBase_ok hbase with ⟨hnone, rfl⟩ | ⟨b, hb, rfl, hname⟩
    · exact .bare hown hnone
    · obtain ⟨i, hi, rfl⟩ := List.mem_iff_getElem.1 hb
      have hi' : i < before.length := hearlier.length_eq ▸ hi
      have hentry := hearlier.get hi' hi
      refine .inherited hown (hbefore _ (List.getElem_mem hi')) ?_ hentry.namePrefix
      rw [hname]
      exact congrArg some hentry.name

theorem shaped_of_shapesAfter {shapes : List Shape} : ∀ {rest before : List TableEntry}
    {earlier : List Shape} {s : Sequence}, m.tables = before ++ rest →
      List.Forall₂ m.Shaped before earlier → shapesAfter m.privacy earlier s rest = .ok shapes →
      List.Forall₂ m.Shaped m.tables shapes
  | [], before, earlier, _, htables, hearlier, h => by
    cases h
    rw [List.append_nil] at htables
    exact htables ▸ hearlier
  | t :: rest, before, earlier, s, htables, hearlier, h => by
    obtain ⟨⟨shape, next⟩, hshape, h⟩ := bind_eq_ok.1 h
    have hbefore : ∀ b ∈ before, b ∈ m.tables := fun b hb => htables ▸ List.mem_append_left _ hb
    have hsofar : m.tables = (before ++ [t]) ++ rest := by
      rw [htables, List.append_assoc, List.singleton_append]
    have hshaped := shaped_of_shape hbefore hearlier hshape
    exact shaped_of_shapesAfter hsofar (List.rel_append hearlier (.cons hshaped .nil)) h

theorem shaped_of_shapes {shapes : List Shape} (h : m.shapes = .ok shapes) :
    List.Forall₂ m.Shaped m.tables shapes :=
  shaped_of_shapesAfter (List.nil_append _).symm .nil h

/-! ### Instances and tables -/

theorem created_of_instancesOf {schema : String} : ∀ {shapes : List Shape} {is : List Instance},
    instancesOf schema shapes = .ok is → ∀ i ∈ is, Instance.create i.shape schema [] = .ok i
  | [], _, h => by
    cases h
    simp
  | s :: rest, _, h => by
    obtain ⟨i, hi, h⟩ := bind_eq_ok.1 h
    obtain ⟨is, his, h⟩ := bind_eq_ok.1 h
    cases h
    obtain ⟨_, _, hshape, _⟩ := Instance.create_ok hi
    exact List.forall_mem_cons.2 ⟨hshape ▸ hi, created_of_instancesOf his⟩

theorem bindInstances_eq_mapM (d : Dialect) : ∀ is : List Instance,
    bindInstances d is = is.mapM (Table.bind · d)
  | [] => rfl
  | i :: rest => by rw [bindInstances, bindInstances_eq_mapM d rest, mapM_cons]

/-- Tables are bound from the instances that they tell. -/
theorem bindInstances_eq_ok {d : Dialect} {is : List Instance} {ts : List Table} :
    bindInstances d is = .ok ts ↔
      ts.map Table.toInstance = is ∧ ∀ t ∈ ts, Table.bind t.toInstance d = .ok t := by
  rw [bindInstances_eq_mapM]
  exact Outcome.mapM_eq_ok fun _ _ h => (Table.bind_eq_ok_iff.1 h).2.2

/-- Whether the table is the one that the module makes of the entry in the dialect. -/
structure TableOf (m : Module) (d : Dialect) (e : TableEntry) (t : Table) : Prop where
  made : m.Made e t.shape
  shaped : m.Shaped e t.shape
  created : Instance.create t.shape m.schema [] = .ok t.toInstance
  bound : Table.bind t.toInstance d = .ok t

namespace TableOf

variable {d : Dialect} {e : TableEntry} {t : Table} (h : m.TableOf d e t)
include h

theorem declared : t.toInstance.Declared := .created h.shaped.declared h.created

theorem dialect : t.dialect = d := (Table.bind_eq_ok_iff.1 h.bound).2.1

theorem schema : t.schema = m.schema := by
  obtain ⟨_, _, _, hschema, _⟩ := Instance.create_ok h.created
  exact hschema

/-- The columns are those of the entry after inheritance, keys apart. -/
theorem columns (c : Column) : m.HasColumn e c ↔ c ∈ t.toInstance.columns.map Column.withoutKey := by
  obtain ⟨p, hp, _, _, hcolumns⟩ := Instance.create_ok h.created
  obtain ⟨draft, hdraft⟩ := h.shaped.declared
  rw [h.made.flattens.has, hcolumns, Draft.build_prototype hdraft hp]
  rfl

end TableOf

/-- The tables of a module that passes the check are those of its entries that are not abstract, in order. -/
theorem tables_of_check (hcheck : m.check = .ok ()) {d : Dialect} {ts : List Table}
    (h : m.bindAll d = .ok ts) :
    List.Forall₂ (m.TableOf d) (m.tables.filter (!·.isAbstract)) ts := by
  obtain ⟨is, his, hts⟩ := bind_eq_ok.1 h
  obtain ⟨shapes, hshapes, hinstances⟩ := bind_eq_ok.1 his
  obtain ⟨rfl, hbound⟩ := bindInstances_eq_ok.1 hts
  have hshaped := shaped_of_shapes hshapes
  have hmade : List.Forall₂ m.Made m.tables shapes := by
    rcases made_of_shapes hcheck with ⟨_, hs, hmade⟩ | ⟨_, hp, _⟩
    · rw [hshapes] at hs
      cases hs
      exact hmade
    · rw [hshapes] at hp
      cases hp
  rcases instances_of_made hshapes hmade with ⟨_, his', hbeside, _⟩ | ⟨_, _, _, _, hfault⟩
  · rw [his] at his'
    cases his'
    obtain ⟨hlength, hzip⟩ := List.forall₂_iff_zip.1 (List.forall₂_map_right_iff.1 hbeside)
    refine List.forall₂_iff_zip.2 ⟨hlength, fun {e t} hmem => ?_⟩
    have hentry : (e, t.shape) ∈ m.tables.zip shapes := (hzip hmem).1
    have ht : t ∈ ts := (List.of_mem_zip hmem).2
    have hcreated := created_of_instancesOf hinstances t.toInstance (List.mem_map_of_mem ht)
    exact ⟨List.forall₂_zip hmade hentry, List.forall₂_zip hshaped hentry, hcreated, hbound t ht⟩
  · rw [his] at hfault
    cases hfault

end Module

end Warehouse
