import Mathlib
import Warehouse.Proofs.Policy.Coverage
import Warehouse.Proofs.Vocabulary.Quoted

/-!
Select statements can be read back. A quoted name is over at the first quotation mark that is not doubled, so
neither a comma, a dot, a blank nor a word inside a name can be taken for one of the statement. So two plain
selects with the same text select the same names, in the same order, from the same table of the same schema.
-/

namespace Warehouse

/-- Whether two vocabularies quote names in the same way. -/
structure Vocabulary.QuotesLike (v w : Vocabulary) : Prop where
  table : v.tableQuote = w.tableQuote
  column : v.columnQuote = w.columnQuote

/-- Whether columns are selected by name and nothing else is asked for. -/
structure SelectOptions.Plain (o : SelectOptions) : Prop where
  condition : o.condition.getD "" = ""
  transforms : o.transforms = Dict.empty
  limit : o.limit = none
  order : o.orderBySortkey = false
  star : o.useStar = false

namespace QuoteStyle

variable (q : QuoteStyle)

/-! ### A list of names -/

/-- What follows the first name of a list that a blank closes. -/
def behindName : List (List Char) → List Char → List Char
  | [], r => ' ' :: r
  | n :: rest, r => ',' :: ' ' :: (q.quoteChars n ++ behindName rest r)

theorem intercalate_behindName : ∀ (n : List Char) (l : List (List Char)) (r : List Char),
    [',', ' '].intercalate ((n :: l).map q.quoteChars) ++ ' ' :: r = q.quoteChars n ++ q.behindName l r
  | n, [], r => by simp [behindName]
  | n, m :: l, r => by
    rw [behindName, ← intercalate_behindName m l r, List.map_cons, List.map_cons,
      List.intercalate_cons_cons, List.append_assoc, List.append_assoc]
    rfl

theorem leaves_behindName (l : List (List Char)) (r : List Char) : q.Leaves (q.behindName l r) := by
  cases l with
  | nil => exact q.leaves_cons (by cases q <;> decide) r
  | cons n l => exact q.leaves_cons (by cases q <;> decide) _

theorem read_behindName {r s : List Char} : ∀ {l m : List (List Char)},
    q.behindName l r = q.behindName m s → l = m ∧ r = s
  | [], [], h => ⟨rfl, (List.cons.inj h).2⟩
  | [], n :: m, h => absurd (List.cons.inj h).1 (by decide)
  | n :: l, [], h => absurd (List.cons.inj h).1 (by decide)
  | n :: l, k :: m, h => by
    have htail := (List.cons.inj (List.cons.inj h).2).2
    obtain ⟨rfl, hrest⟩ :=
      q.read_quoteChars (q.leaves_behindName l r) (q.leaves_behindName m s) htail
    obtain ⟨rfl, hrs⟩ := read_behindName hrest
    exact ⟨rfl, hrs⟩

/-- A list of quoted names is over at the first blank that follows no comma. -/
theorem read_names {l m : List (List Char)} {r s : List Char}
    (h : [',', ' '].intercalate (l.map q.quoteChars) ++ ' ' :: r =
      [',', ' '].intercalate (m.map q.quoteChars) ++ ' ' :: s) : l = m ∧ r = s := by
  have hblank : ∀ n k x y, ' ' :: x ≠ q.quoteChars n ++ q.behindName k y := by
    intro n k x y hxy
    have hmark : q.mark ≠ ' ' := by cases q <;> decide
    exact hmark (List.cons.inj hxy).1.symm
  cases l with
  | nil =>
    cases m with
    | nil => exact ⟨rfl, (List.cons.inj h).2⟩
    | cons n m =>
      rw [intercalate_behindName] at h
      exact absurd h (hblank n m r s)
  | cons n l =>
    rw [intercalate_behindName] at h
    cases m with
    | nil => exact absurd h.symm (hblank n l s r)
    | cons k m =>
      rw [intercalate_behindName] at h
      obtain ⟨rfl, hrest⟩ := q.read_quoteChars (q.leaves_behindName l r) (q.leaves_behindName m s) h
      obtain ⟨rfl, hrs⟩ := q.read_behindName hrest
      exact ⟨rfl, hrs⟩

end QuoteStyle

namespace Table

/-! ### Names of tables -/

theorem qualify_toList (t : Table) (name suffix : String) : (t.qualify true name suffix).toList =
    t.vocabulary.tableQuote.quoteChars t.schema.toList ++
      '.' :: t.vocabulary.tableQuote.quoteChars (name ++ suffix).toList := by
  simp [qualify, Vocabulary.quoteTable, QuoteStyle.quote]

/-- A qualified name tells the schema and the name in it. -/
theorem qualify_eq_iff {t u : Table} (hquote : t.vocabulary.tableQuote = u.vocabulary.tableQuote)
    {a b x y : String} : t.qualify true a x = u.qualify true b y ↔
      t.schema = u.schema ∧ a ++ x = b ++ y := by
  constructor
  · intro h
    have hchars := congrArg String.toList h
    rw [qualify_toList, qualify_toList, hquote] at hchars
    have hdot : '.' ≠ u.vocabulary.tableQuote.mark := by cases u.vocabulary.tableQuote <;> decide
    obtain ⟨hschema, hrest⟩ := u.vocabulary.tableQuote.read_quoteChars
      (u.vocabulary.tableQuote.leaves_cons hdot _) (u.vocabulary.tableQuote.leaves_cons hdot _) hchars
    have htable := congrArg (· ++ []) (List.cons.inj hrest).2
    obtain ⟨hname, _⟩ := u.vocabulary.tableQuote.read_quoteChars
      u.vocabulary.tableQuote.leaves_nil u.vocabulary.tableQuote.leaves_nil htable
    exact ⟨String.toList_inj.1 hschema, String.toList_inj.1 hname⟩
  · rintro ⟨hschema, hname⟩
    simp only [qualify, Vocabulary.quoteTable, hquote, hschema, hname]

/-! ### The text of a select -/

/-- A plain select is written as the names of its columns and the name of its table. -/
theorem WellBound.selectText_toList {t : Table} (ht : t.WellBound) {o : SelectOptions} (ho : o.Plain) :
    (t.selectText o).toList = "SELECT ".toList ++
      ([',', ' '].intercalate (((t.columnNames true o.filter).map String.toList).map
          t.vocabulary.columnQuote.quoteChars) ++
        ' ' :: ("FROM ".toList ++ (t.reference o.suffix).toList)) := by
  have hitems : ((t.select true o.filter).map (·.selectItem o.transforms)).map String.toList =
      ((t.columnNames true o.filter).map String.toList).map t.vocabulary.columnQuote.quoteChars := by
    rw [columnNames, List.map_map, List.map_map, List.map_map]
    refine List.map_congr_left fun c hc => ?_
    have hquoted := ht.quotedName (List.mem_of_mem_filter hc)
    have hitem : c.selectItem o.transforms = c.quotedName := by rw [ho.transforms]; rfl
    simp [hitem, hquoted, Vocabulary.quoteColumn, QuoteStyle.quote]
  have hquery : t.query o =
      { items := (t.select true o.filter).map (·.selectItem o.transforms)
        source := t.reference o.suffix } := by
    simp [query, ho.condition, ho.limit, ho.order, ho.star]
  have htext : t.selectText o = "SELECT " ++
      String.intercalate ", " ((t.select true o.filter).map (·.selectItem o.transforms)) ++ " FROM " ++
        t.reference o.suffix := by
    rw [selectText, hquery, Query.text]
    simp [whereClause]
  rw [htext, String.toList_append, String.toList_append, String.toList_append, String.toList_intercalate,
    hitems]
  simp

/-- In dialects that quote names in the same way, two plain selects have the same text exactly when they
select the same names in the same order from the same table of the same schema; and so do two full names
exactly when they name the same table of the same schema. -/
theorem selectText_eq_iff {t u : Table} (ht : t.Reachable) (hu : u.Reachable)
    (hquotes : t.vocabulary.QuotesLike u.vocabulary) {o p : SelectOptions} (ho : o.Plain) (hp : p.Plain) :
    (t.selectText o = u.selectText p ↔
      t.columnNames true o.filter = u.columnNames true p.filter ∧ t.schema = u.schema ∧
        t.prefixedName ++ o.suffix = u.prefixedName ++ p.suffix) ∧
    ∀ inPrefix inPrefix' suffix suffix',
      t.fullName true inPrefix suffix = u.fullName true inPrefix' suffix' ↔
        t.schema = u.schema ∧ (if inPrefix then t.prefixedName else t.tableName) ++ suffix =
          (if inPrefix' then u.prefixedName else u.tableName) ++ suffix' := by
  have hreference : t.reference o.suffix = u.reference p.suffix ↔
      t.schema = u.schema ∧ t.prefixedName ++ o.suffix = u.prefixedName ++ p.suffix :=
    qualify_eq_iff hquotes.table
  constructor
  · rw [← hreference, ← String.toList_inj, ht.wellBound.selectText_toList ho,
      hu.wellBound.selectText_toList hp, hquotes.column]
    constructor
    · intro h
      obtain ⟨hnames, hrest⟩ :=
        u.vocabulary.columnQuote.read_names (List.append_cancel_left h)
      refine ⟨List.map_injective_iff.2 (fun _ _ => String.toList_inj.1) hnames, ?_⟩
      exact String.toList_inj.1 (List.append_cancel_left hrest)
    · rintro ⟨hnames, hname⟩
      rw [hnames, hname]
  · exact fun _ _ _ _ => qualify_eq_iff hquotes.table

/-- One name that looks like a list of two, and like the end of a select. -/
def listedName : String := "id\", \"name\" FROM \"web"

theorem guests_selectText_eq_iff : ∃ t u : Table, t.Reachable ∧ u.Reachable ∧
    t.dialect.name = "presto" ∧ u.dialect.name = "trino" ∧
    t.columnNames true .all = [listedName, "ds", "country"] ∧
    u.columnNames true .all = ["id", "name", "ds", "country"] ∧
    t.selectText {} ≠ u.selectText {} ∧
    t.selectText { filter := .except [listedName], suffix := "_v2" } =
      u.selectText { filter := .only ["ds", "country"], suffix := "_v2" } ∧
    t.fullName true true "\".\"" ≠ u.fullName true true "" := by
  obtain ⟨t, ht, hpresto, hquote, htable, hnames, hrest⟩ : ∃ t : Table, t.Reachable ∧
      t.dialect.name = "presto" ∧ t.vocabulary.QuotesLike Vocabulary.presto ∧
      (t.schema = "web" ∧ t.prefixedName = "guests") ∧
      t.columnNames true .all = [listedName, "ds", "country"] ∧
      t.columnNames true (.except [listedName]) = ["ds", "country"] := by
    have hbind : bind (guestInstance [Column.scalar listedName .varchar]) .presto = .ok _ := rfl
    exact ⟨_, .bound (guestInstance_declared (by cbv)) hbind, rfl, ⟨rfl, rfl⟩, ⟨rfl, by cbv⟩, rfl, by cbv⟩
  obtain ⟨u, hu, htrino, huquote, hutable, hunames, hurest⟩ : ∃ u : Table, u.Reachable ∧
      u.dialect.name = "trino" ∧ u.vocabulary.QuotesLike Vocabulary.presto ∧
      (u.schema = "web" ∧ u.prefixedName = "guests") ∧
      u.columnNames true .all = ["id", "name", "ds", "country"] ∧
      u.columnNames true (.only ["ds", "country"]) = ["ds", "country"] := by
    have hbind : bind (guestInstance [Column.scalar "id" .integer, Column.scalar "name" .varchar])
      .trino = .ok _ := rfl
    exact ⟨_, .bound (guestInstance_declared (by cbv)) hbind, rfl, ⟨rfl, rfl⟩, ⟨rfl, by cbv⟩, rfl, by cbv⟩
  have hquotes : t.vocabulary.QuotesLike u.vocabulary :=
    ⟨hquote.table.trans huquote.table.symm, hquote.column.trans huquote.column.symm⟩
  obtain ⟨hall, hfull⟩ := selectText_eq_iff ht hu hquotes (o := {}) (p := {})
    ⟨rfl, rfl, rfl, rfl, rfl⟩ ⟨rfl, rfl, rfl, rfl, rfl⟩
  obtain ⟨hpartitions, -⟩ := selectText_eq_iff ht hu hquotes
    (o := { filter := .except [listedName], suffix := "_v2" })
    (p := { filter := .only ["ds", "country"], suffix := "_v2" })
    ⟨rfl, rfl, rfl, rfl, rfl⟩ ⟨rfl, rfl, rfl, rfl, rfl⟩
  refine ⟨t, u, ht, hu, hpresto, htrino, hnames, hunames, ?_, ?_, ?_⟩
  · intro htext
    have hsame := (hall.1 htext).1
    rw [hnames, hunames] at hsame
    simp at hsame
  · refine hpartitions.2 ⟨hrest.trans hurest.symm, htable.1.trans hutable.1.symm, ?_⟩
    rw [htable.2, hutable.2]
  · intro hname
    have hsame := ((hfull true true "\".\"" "").1 hname).2
    rw [if_pos rfl, if_pos rfl, htable.2, hutable.2] at hsame
    exact absurd hsame (by decide)

end Table

end Warehouse
