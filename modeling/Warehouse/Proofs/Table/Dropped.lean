import Warehouse.Proofs.Column.LoadItem
import Warehouse.Proofs.Table.Reachable

/-!
Columns that are dropped when they are loaded. Initial values, binding, another dialect, fresh tables, new
columns and assignments to other columns take nothing from the declaration of a column but its value, so
in a history that never sets a dropped column by hand it stays dropped.
-/

namespace Warehouse

open Outcome (bind_eq_ok)

/-- Whether every column of the name is dropped when it is loaded. -/
def DropsName (name : String) (columns : List Column) : Prop :=
  ∀ c ∈ columns, c.name = name → c.Dropped

/-- The instances that come about from a shape that drops the name, without it being set by hand. -/
inductive Instance.Dropping (name : String) : Instance → Prop
  | created {shape : Shape} {schema : String} {values : List (String × String)} {i : Instance}
      (hs : shape.Declared) (hp : ∀ p, shape.prototype = some p → DropsName name p.columns)
      (h : Instance.create shape schema values = .ok i) : Dropping name i
  | valueSet {i : Instance} (hi : Dropping name i) {column : String} (hc : column ≠ name) (value : String) :
      Dropping name (i.setValue column value).left

namespace Table

/-- Whether the operation sets a column of the name by hand, or adds one that is not dropped. -/
def Operation.Overrides (name : String) : Operation → Prop
  | .setValue column _ => column = name
  | .addColumn c => c.name = name ∧ ¬ c.Dropped
  | .rebind _ => False
  | .withValues _ => False

/-- The tables that come about from a shape that drops the name, without this being overridden at any
time. -/
inductive Dropping (name : String) : Table → Prop
  | bound {i : Instance} {d : Dialect} {t : Table} (hi : i.Dropping name) (h : bind i d = .ok t) :
      Dropping name t
  | step {t : Table} (h : Dropping name t) (o : Operation) (ho : ¬ o.Overrides name) :
      Dropping name (t.after o)

end Table

/-! ### Every such history is a history -/

theorem Instance.Dropping.declared {name : String} {i : Instance} (h : i.Dropping name) :
    i.Declared := by
  induction h with
  | created hs _ h => exact .created hs h
  | valueSet _ _ value ih => exact .valueSet ih _ value

theorem Table.Dropping.reachable {name : String} {t : Table} (h : t.Dropping name) :
    t.Reachable := by
  induction h with
  | bound hi h => exact .bound hi.declared h
  | step _ o _ ih => exact .step ih o

/-! ### What is dropped stays dropped -/

/-- The columns drop the name, and so do those that a fresh table starts with. -/
structure Instance.Drops (name : String) (i : Instance) : Prop where
  columns : DropsName name i.columns
  prototype : ∀ p, i.shape.prototype = some p → DropsName name p.columns

theorem DropsName.seed {name : String} {columns : List Column} (h : DropsName name columns)
    (entry : String × String) : DropsName name (Instance.seed columns entry) := by
  rw [Instance.seed]
  cases hc : updateFirst? (·.name == entry.1) (fun c => { c with value := some entry.2 }) columns with
  | none => exact h
  | some l =>
    refine updateFirst?_forall hc (fun c _ hdrops hname => ?_) h
    obtain ⟨hregular, hunset, hrule⟩ := hdrops hname
    exact ⟨hregular, hunset, hrule⟩

theorem DropsName.seeds {name : String} (entries : List (String × String)) : ∀ {columns : List Column},
    DropsName name columns → DropsName name (entries.foldl Instance.seed columns) := by
  induction entries with
  | nil => intro columns h; exact h
  | cons e rest ih => intro columns h; exact ih (h.seed e)

namespace Instance

theorem Drops.created {name : String} {shape : Shape} {schema : String}
    {values : List (String × String)} {i : Instance}
    (hp : ∀ p, shape.prototype = some p → DropsName name p.columns)
    (h : create shape schema values = .ok i) : i.Drops name := by
  obtain ⟨p, hproto, hshape, _, hcolumns⟩ := create_ok h
  constructor
  · rw [hcolumns]
    exact (hp p hproto).seeds values
  · rw [hshape]
    exact hp

theorem Drops.setValue {name : String} {i : Instance} {column : String} (hi : i.Drops name)
    (hc : column ≠ name) (value : String) : (i.setValue column value).left.Drops name := by
  obtain ⟨columns, hleft, rfl | hcolumns⟩ := i.left_setValue column value <;> rw [hleft]
  · exact hi
  · refine ⟨updateFirst?_forall hcolumns (fun c htest _ hname => ?_) hi.columns, hi.prototype⟩
    exact absurd ((beq_iff_eq.1 htest).symm.trans hname) hc

theorem Dropping.drops {name : String} {i : Instance} (h : i.Dropping name) :
    i.Drops name := by
  induction h with
  | created _ hp h => exact .created hp h
  | valueSet _ hc value ih => exact ih.setValue hc value

end Instance

namespace Table

open Instance (Drops)

theorem setValue_drops {name : String} {t t' : Table} {column value : String}
    (ht : t.toInstance.Drops name) (hc : column ≠ name) (h : t.setValue column value = .ok () t') :
    t'.toInstance.Drops name := by
  obtain ⟨columns, hcolumns, rfl⟩ := setValue_ok h
  refine ⟨?_, ht.prototype⟩
  refine List.forall_mem_map.2 (updateFirst?_forall hcolumns (fun b htest _ hname => ?_) ?_)
  · exact absurd ((beq_iff_eq.1 htest).symm.trans hname) hc
  · exact List.forall_mem_map.1 ht.columns

theorem addColumn_drops {name : String} {t t' : Table} {c : Column}
    (ht : t.toInstance.Drops name) (hc : ¬ (c.name = name ∧ ¬ c.Dropped))
    (h : t.addColumn c = .ok () t') : t'.toInstance.Drops name := by
  obtain ⟨_, _, b, hb, rfl⟩ := addColumn_ok h
  refine ⟨?_, ht.prototype⟩
  rw [toInstance, List.map_append, List.map_singleton, Binding.declared_of_column hb]
  intro e he hname
  rcases List.mem_append.1 he with he | he
  · exact ht.columns e he hname
  · obtain rfl := List.mem_singleton.1 he
    simpa [hname] using hc

theorem after_drops {name : String} {t : Table} (ht : t.toInstance.Drops name)
    {o : Operation} (ho : ¬ o.Overrides name) : (t.after o).toInstance.Drops name := by
  cases h : t.perform o with
  | ok _ t' =>
    rw [after_ok h]
    cases o with
    | setValue column value => exact setValue_drops ht ho h
    | addColumn c => exact addColumn_drops ht ho h
    | rebind d =>
      obtain ⟨_, _, hinstance⟩ := bind_eq_ok_iff.1 (Change.replace_eq_ok.1 h)
      rw [hinstance]
      exact ht
    | withValues values =>
      obtain ⟨i, hi, hbind⟩ := bind_eq_ok.1 (Change.replace_eq_ok.1 h)
      obtain ⟨_, _, rfl⟩ := bind_eq_ok_iff.1 hbind
      exact .created ht.prototype hi
  | error p left =>
    rw [after_error h]
    exact ht

theorem Dropping.drops {name : String} {t : Table} (h : t.Dropping name) :
    t.toInstance.Drops name := by
  induction h with
  | bound hi h =>
    obtain ⟨_, _, rfl⟩ := bind_eq_ok_iff.1 h
    exact hi.drops
  | step _ o ho ih => exact after_drops ih ho

end Table

end Warehouse
