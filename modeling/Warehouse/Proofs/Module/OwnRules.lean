import Warehouse.Proofs.Module.Bound
import Warehouse.Proofs.Statement.ExistingRows

/-!
Which rules decide how a column of a module is loaded. A rule of personal data is accepted at any depth of
an entry, and its category is looked up there, but the load item of a column asks for the rules of the column
itself and for nothing nested in it. Main statement: each column of a module that was not set by hand is
dropped, transformed or copied by its own rule, so that a rule further inside has an effect exactly when the
column around it has one as well.
-/

namespace Warehouse

open Outcome (map_eq_ok)
open Template (substitutePairs)

namespace Column

/-- Whether a rule of the column acts on insertion: the value is dropped or transformed. -/
def ActsOnInsert (c : Column) : Prop := c.privacy.dropOn = some .insert ∨ c.privacy.onInsert ≠ none

/-- Whether a rule acts on the insertion of something nested in the column, at any depth. -/
def ActsInside (c : Column) : Prop := ∃ d ∈ nestedDeclarations c.kind, d.ActsOnInsert

/-- A regular column that was not set by hand is copied unless it has a rule itself. -/
theorem copied_iff {c : Column} (hregular : c.isPartition = false) (hunset : c.manuallySet = false) :
    c.Copied ↔ ¬ c.ActsOnInsert := by
  have hnot : ¬ c.isPartition = true := by simp [hregular]
  rw [Copied, if_neg hnot, ActsOnInsert, not_or, not_not]
  exact and_iff_right hunset

end Column

/-- Whether the rules of the column itself decide how it is loaded into tables bound to the target. -/
structure BoundColumn.LoadsByOwnRule (t : Binding.Target) (b : BoundColumn) : Prop where
  /-- A rule to drop the column makes it `NULL`. -/
  dropped : b.declared.privacy.dropOn = some .insert →
    b.loadValue = t.vocabulary.assign b.name "NULL"
  /-- Otherwise a transform of the column is applied to its name. -/
  transformed : b.declared.privacy.dropOn ≠ some .insert →
    ∀ template, b.declared.privacy.onInsert = some template → b.loadValue = t.vocabulary.assign b.name
      (substitutePairs template [("quoted_name", t.vocabulary.quoteColumn b.name)])
  /-- Without either rule the column is copied. -/
  copied : ¬ b.declared.ActsOnInsert → b.loadValue = t.vocabulary.quoteColumn b.name
  /-- Nothing nested in the column has a say: a column that is declared the same apart from its kind is loaded
  the same. -/
  blind : ∀ other, Binding.ColumnCoherent t other →
    other.declared.toDeclaration = b.declared.toDeclaration → other.loadValue = b.loadValue
  /-- In the words of the built-in dialects the raw value is passed on exactly when the column has no rule. -/
  raw : t.vocabulary.AssignsInOrder →
    (b.loadValue = t.vocabulary.quoteColumn b.name ↔ ¬ b.declared.ActsOnInsert)
  /-- So rules inside the column keep the raw value back exactly when, if there are any, the column has one
  too. -/
  inside : t.vocabulary.AssignsInOrder →
    ((b.declared.ActsInside → b.loadValue ≠ t.vocabulary.quoteColumn b.name) ↔
      (b.declared.ActsInside → b.declared.ActsOnInsert))

namespace Binding

/-- Of a declaration the load item asks for all but its kind. -/
theorem ColumnCoherent.loadValue_congr {t : Target} {b other : BoundColumn} (hb : ColumnCoherent t b)
    (hother : ColumnCoherent t other)
    (h : other.declared.toDeclaration = b.declared.toDeclaration) : other.loadValue = b.loadValue := by
  have hcurrent : other.declared.currentValue? = b.declared.currentValue? :=
    congrArg (fun d : Declaration => d.value.filter (· != "")) h
  simp only [BoundColumn.loadValue, hb.setter, hother.setter, hb.quotedName, hother.quotedName, hcurrent,
    h]

theorem ColumnCoherent.loadsByOwnRule {t : Target} {b : BoundColumn} (hb : ColumnCoherent t b)
    (hregular : b.isPartition = false) (hunset : b.declared.manuallySet = false) :
    b.LoadsByOwnRule t := by
  have hitem := hb.loadItem
  have hcopied := Column.copied_iff hregular hunset
  have hraw : t.vocabulary.AssignsInOrder →
      (b.loadValue = t.vocabulary.quoteColumn b.name ↔ ¬ b.declared.ActsOnInsert) :=
    fun hv => (hitem.bare_iff hv).trans hcopied
  constructor
  case dropped => exact fun hrule => hitem.of_dropped ⟨hregular, hunset, hrule⟩
  case transformed =>
    exact fun hkept template htransform => hitem.of_transformed hregular hunset hkept htransform
  case copied =>
    intro hnone
    rcases hitem.copied_or_assigned with ⟨_, h⟩ | ⟨hnot, _⟩
    · exact h
    · exact absurd (hcopied.2 hnone) hnot
  case blind => exact fun other hother h => hb.loadValue_congr hother h
  case raw => exact hraw
  case inside =>
    intro hv
    rw [ne_eq, hraw hv, not_not]

end Binding

namespace Module

/-- Whether the table has the columns of the entry and goes on loading those that are not set by hand by their
own rules, whatever is done to it. -/
structure LoadsByOwnRules (m : Module) (e : TableEntry) (t : Table) : Prop where
  columns : ∀ c, m.HasColumn e c ↔ c ∈ t.toInstance.columns.map Column.withoutKey
  loads : ∀ operations, ∀ b ∈ (t.run operations).columns, b.isPartition = false →
    b.declared.manuallySet = false → b.LoadsByOwnRule (Table.target (t.run operations).dialect)

/-- The regular columns of a module that passes the check are loaded by their own rules in every dialect, as
long as they are not set by hand. -/
theorem load_by_own_rules {m : Module} (hcheck : m.check = .ok ()) {d : Dialect} {ts : List Table}
    (hbind : m.bindAll d = .ok ts) :
    List.Forall₂ m.LoadsByOwnRules (m.tables.filter (!·.isAbstract)) ts := by
  refine (tables_of_check hcheck hbind).imp fun e t ht => ⟨ht.columns, fun operations b hb => ?_⟩
  have hreachable := (Table.Reachable.bound ht.declared ht.bound).run operations
  exact (hreachable.wellBound.coherent.columns b hb).loadsByOwnRule

/-- A module of contacts. The addresses are an array of texts of a category that is dropped on insertion; the
home is a row of that category with a street in it that has a transform of its own. -/
def contacts : Module where
  name := some "crm"
  privacy := Dict.ofList [("contact", { dropOn := some .insert })]
  tables := [
    { name := "Person"
      columns := [
        { name := "addresses", type := .array
          element := some { name := "", type := .varchar, privacy := some (.category "contact") } },
        { name := "home", type := .row, privacy := some (.category "contact")
          fields := [{ name := "street", type := .varchar
                       privacy := some (.inline { onInsert := some "MD5(\x7bquoted_name\x7d)" }) }] }] }]

/-- The tables of the module on Presto: how each column is loaded, what it is, whether it is a partition or set
by hand, and the rules inside it. -/
theorem contacts_bound : (contacts.bindAll .presto).map (·.map fun t => t.columns.map fun b =>
    ((b.loadValue, t.vocabulary.quoteColumn b.name), b.declared.dataType,
      (b.isPartition, b.declared.manuallySet),
      (Column.nestedDeclarations b.declared.kind).map (·.privacy))) =
    .ok [[(("\"addresses\"", "\"addresses\""), .array, (false, false),
        [{ name := some "contact", dropOn := some .insert }]),
      (("NULL AS \"home\"", "\"home\""), .row, (false, false),
        [{ onInsert := some "MD5(\x7bquoted_name\x7d)" }])]] := by
  cbv

theorem contacts_load_by_own_rules : contacts.check = .ok () ∧
    ∃ ts, contacts.bindAll .presto = .ok ts ∧
      List.Forall₂ contacts.LoadsByOwnRules (contacts.tables.filter (!·.isAbstract)) ts ∧
      ts.map (·.columns.map (·.loadValue)) = [["\"addresses\"", "NULL AS \"home\""]] := by
  have hcheck : contacts.check = .ok () := rfl
  obtain ⟨ts, hts, hbound⟩ := map_eq_ok.1 contacts_bound
  refine ⟨hcheck, ts, hts, load_by_own_rules hcheck hts, ?_⟩
  have hloads := congrArg (List.map (List.map fun b => b.1.1)) hbound
  simpa [List.map_map, Function.comp_def] using hloads

/-- The addresses are loaded as they are, though the texts in them are dropped on insertion. -/
theorem addresses_pass_through : ∃ (m : Module) (d : Dialect) (ts : List Table),
    m.check = .ok () ∧ m.bindAll d = .ok ts ∧
    ∃ t ∈ ts, ∃ b ∈ t.columns, b.declared.dataType.isComposite = true ∧ b.isPartition = false ∧
      b.declared.manuallySet = false ∧ b.declared.ActsInside ∧
      b.loadValue = t.vocabulary.quoteColumn b.name := by
  have hcheck : contacts.check = .ok () := rfl
  obtain ⟨ts, hts, hbound⟩ := map_eq_ok.1 contacts_bound
  obtain ⟨t, _, rfl, hcolumns, _⟩ := List.map_eq_cons_iff.1 hbound
  obtain ⟨b, _, hb, hfacts, _⟩ := List.map_eq_cons_iff.1 hcolumns
  simp only [Prod.mk.injEq] at hfacts
  obtain ⟨⟨hload, hname⟩, htype, ⟨hregular, hunset⟩, hinside⟩ := hfacts
  obtain ⟨d, _, hd, hrules, _⟩ := List.map_eq_cons_iff.1 hinside
  have hinside : b.declared.ActsInside := ⟨d, hd ▸ List.mem_cons_self, .inl (hrules ▸ rfl)⟩
  refine ⟨contacts, .presto, _, hcheck, hts, t, List.mem_cons_self, b, hb ▸ List.mem_cons_self,
    htype ▸ rfl, hregular, hunset, hinside, ?_⟩
  rw [hload, hname]

end Module

end Warehouse
