import Warehouse.Proofs.Binding.Steps
import Warehouse.Proofs.Table.Comparisons
import Warehouse.Proofs.Template.Rendering
import Warehouse.Proofs.Text.Reading
import Warehouse.Statement.Create
import Warehouse.Statement.Query

/-!
The sort key of a table in Redshift. The clause of a new table has the keys from a template, which puts each between
quotation marks as it stands; the order of a query and the definitions of the columns have them from the vocabulary,
which doubles the marks inside. Main statement: the texts agree exactly when no key holds a mark.
-/

namespace Warehouse

open Outcome (bind_eq_ok)
open Text (replaceChar replaceChar_other replaceChar_self)

/-- A name between quotation marks as it stands. -/
def enclosed (name : String) : String := "\"" ++ name ++ "\""

/-! ### Counting quotation marks -/

theorem count_replaceChar_doubled (q : Char) (cs : List Char) :
    (replaceChar q [q, q] cs).count q = 2 * cs.count q := by
  induction cs with
  | nil => rfl
  | cons c cs ih =>
    by_cases hc : c = q
    · rw [hc, replaceChar_self, List.count_append, ih, List.count_cons_self, List.count_cons_self,
        List.count_cons_self, List.count_nil]
      omega
    · rw [replaceChar_other hc, List.count_cons_of_ne hc, List.count_cons_of_ne hc, ih]

theorem replaceChar_of_not_mem {q : Char} (new : List Char) : ∀ {cs : List Char}, q ∉ cs →
    replaceChar q new cs = cs
  | [], _ => rfl
  | c :: cs, h => by
    have hc : c ≠ q := (List.ne_of_not_mem_cons h).symm
    rw [replaceChar_other hc, replaceChar_of_not_mem new (List.not_mem_of_not_mem_cons h)]

/-- How many quotation marks the text has. -/
def marks (text : String) : Nat := text.toList.count '\x22'

theorem marks_append (a b : String) : marks (a ++ b) = marks a + marks b := by
  rw [marks, String.toList_append, List.count_append, marks, marks]

theorem marks_enclosed (name : String) : marks (enclosed name) = marks name + 2 := by
  have hmark : marks "\"" = 1 := by decide
  rw [enclosed, marks_append, marks_append, hmark]
  omega

theorem marks_quote (name : String) : marks (QuoteStyle.doubleQuote.quote name) = 2 * marks name + 2 := by
  have hmark : QuoteStyle.doubleQuote.mark = '\x22' := rfl
  rw [marks, QuoteStyle.quote, String.toList_ofList, QuoteStyle.quoteChars, hmark, List.count_cons_self,
    List.count_append, count_replaceChar_doubled, List.count_singleton_self, marks]

theorem marks_eq_zero {name : String} : marks name = 0 ↔ '\x22' ∉ name.toList := List.count_eq_zero

/-- Quoting doubles each mark inside a name, which joined names cannot make up for elsewhere. -/
theorem marks_intercalate_quote : ∀ names : List String,
    marks (String.intercalate ", " (names.map QuoteStyle.doubleQuote.quote)) =
      marks (String.intercalate ", " (names.map enclosed)) + (names.map marks).sum
  | [] => rfl
  | [a] => by
    simp only [List.map_cons, List.map_nil, String.intercalate_singleton, marks_quote, marks_enclosed,
      List.sum_cons, List.sum_nil]
    omega
  | a :: b :: rest => by
    have hrest := marks_intercalate_quote (b :: rest)
    simp only [List.map_cons, String.intercalate_cons_cons, marks_append, marks_quote, marks_enclosed,
      List.sum_cons] at hrest ⊢
    omega

theorem enclosed_eq_quote {name : String} (h : '\x22' ∉ name.toList) :
    enclosed name = QuoteStyle.doubleQuote.quote name := by
  have hmark : QuoteStyle.doubleQuote.mark = '\x22' := rfl
  rw [← String.toList_inj, QuoteStyle.quote, String.toList_ofList, QuoteStyle.quoteChars, hmark,
    replaceChar_of_not_mem _ h]
  simp [enclosed]

theorem enclosed_eq_quote_iff {name : String} :
    enclosed name = QuoteStyle.doubleQuote.quote name ↔ '\x22' ∉ name.toList := by
  refine ⟨fun h => ?_, enclosed_eq_quote⟩
  have hmarks := congrArg marks h
  rw [marks_enclosed, marks_quote] at hmarks
  exact marks_eq_zero.1 (by omega)

/-- Joined names come out the same when they come out the same one by one. -/
theorem intercalate_enclosed_iff {names : List String} :
    String.intercalate ", " (names.map enclosed) =
      String.intercalate ", " (names.map QuoteStyle.doubleQuote.quote) ↔
      ∀ name ∈ names, '\x22' ∉ name.toList := by
  constructor
  · intro h name hname
    -- the names cannot be compared one by one, since a mark in one may look like its end, but marks can be counted
    have hmarks := marks_intercalate_quote names
    rw [← h] at hmarks
    have hsum : (names.map marks).sum = 0 := by omega
    exact marks_eq_zero.1 (List.sum_eq_zero_iff.1 hsum _ (List.mem_map_of_mem hname))
  · intro h
    exact congrArg _ (List.map_congr_left fun name hname => enclosed_eq_quote (h name hname))

/-! ### The clause of a new table -/

theorem Binding.list_templateValue (a : Attribute) : (templateValue a).list = a.asList := by
  cases a <;> rfl

/-- The clause of a sort key that is bound in Redshift. -/
theorem Binding.sortKey_text {t : Target} (ht : t.vocabulary = Vocabulary.redshift) {p : BoundProperty}
    (hp : PropertyCoherent t p) (hkind : p.declared.kind = .sortkey) :
    ∃ a, p.declared.attributes.find? "keys" = some a ∧
      p.text = "SORTKEY(" ++ String.intercalate ", " (a.asList.map enclosed) ++ ")" := by
  obtain ⟨text, htext, h⟩ := bind_eq_ok.1 hp
  obtain ⟨htemplate, hneeds⟩ := template_eq_ok.1 htext
  rw [hkind, ht] at htemplate hneeds
  obtain rfl := Option.some.inj htemplate
  obtain ⟨a, ha⟩ := Option.isSome_iff_exists.1 (hneeds "keys" (by decide))
  refine ⟨a, ha, ?_⟩
  have hvalue : attributeContext p.declared.attributes "keys" = some (templateValue a) := by
    rw [attributeContext, ha, Option.map_some]
  have hrender : Template.render ("SORTKEY(" ++ Template.slot "keys" .double ++ ")")
      (attributeContext p.declared.attributes) = "SORTKEY(" ++ (templateValue a).write .double ++ ")" :=
    Template.render_around (by decide) hvalue (by decide) (by decide) (by decide)
  rw [Template.Value.write, list_templateValue] at hrender
  exact (congrArg BoundProperty.text (Except.ok.inj h)).symm.trans hrender

/-- The definition of a column begins with its quoted name. -/
theorem Dialect.columnDefinition_name (d : Dialect) (c : BoundColumn) :
    ∃ rest, d.columnDefinition c = c.quotedName ++ " " ++ rest := by
  cases d <;> simp only [columnDefinition, String.append_assoc] <;> exact ⟨_, rfl⟩

namespace Table

/-- What the statements of a table in Redshift say of these keys. -/
structure SortedBy (t : Table) (p : BoundProperty) (keys : List String) : Prop where
  declared : ∃ a, p.declared.attributes.find? "keys" = some a ∧ a.asList = keys
  clause : ∃ before after, t.properties = before ++ p :: after ∧ (∀ q ∈ before, q.declared.kind ≠ .sortkey) ∧
    ∀ o : CreateOptions, (t.definition o).clauses = before.map (·.text) ++
      ("SORTKEY(" ++ String.intercalate ", " (keys.map enclosed) ++ ")") :: after.map (·.text)
  order : ∀ o : SelectOptions,
    (t.query { o with orderBySortkey := true }).order = keys.map t.vocabulary.quoteColumn
  columns : ∀ o : CreateOptions,
    (t.definition o).definitions = (t.select true o.filter).map t.dialect.columnDefinition ∧
    ∀ c ∈ t.select true o.filter, ∃ rest,
      t.dialect.columnDefinition c = t.vocabulary.quoteColumn c.name ++ " " ++ rest

theorem definition_redshift {t : Table} (hd : t.dialect = .redshift) (o : CreateOptions) :
    t.definition o = t.standardDefinition o := by
  rw [definition, hd]

theorem WellBound.sortedBy {t : Table} (ht : t.WellBound) (hd : t.dialect = .redshift) {p : BoundProperty}
    (hp : t.property? .sortkey = some p) : ∃ keys, t.SortedBy p keys := by
  obtain ⟨hkind, before, after, hproperties, hbefore⟩ := List.find?_eq_some_iff_append.1 hp
  have hmem : p ∈ t.properties := List.mem_of_find?_eq_some hp
  have hvocabulary : (target t.dialect).vocabulary = Vocabulary.redshift := by
    rw [hd]
    rfl
  obtain ⟨a, ha, htext⟩ := Binding.sortKey_text hvocabulary (ht.coherent.properties p hmem) (by simpa using hkind)
  refine ⟨a.asList, ⟨a, ha, rfl⟩, ⟨before, after, hproperties, ?_, ?_⟩, ?_, ?_⟩
  · intro q hq
    simpa using hbefore q hq
  · intro o
    rw [definition_redshift hd, standardDefinition, propertyTexts, hproperties, List.map_append, List.map_cons,
      htext]
  · intro o
    simp only [query, sortKeys, hp, Option.bind_some, ha, if_true]
  · intro o
    refine ⟨by rw [definition_redshift hd]; rfl, fun c hc => ?_⟩
    rw [← ht.quotedName (List.mem_of_mem_filter hc)]
    exact t.dialect.columnDefinition_name c

/-- The clause of the sort key and the order of a query say the same keys, in the same order, and the columns of these
names are defined by the texts of the order. The clause has a key by the same text exactly when no quotation mark is
in it, and all of its text is that of the order exactly when no mark is in any key. -/
theorem sort_keys {t : Table} (ht : t.Reachable) (hd : t.dialect = .redshift) {p : BoundProperty}
    (hp : t.property? .sortkey = some p) : ∃ keys, t.SortedBy p keys ∧
      (∀ key ∈ keys, enclosed key = t.vocabulary.quoteColumn key ↔ '\x22' ∉ key.toList) ∧
      (String.intercalate ", " (keys.map enclosed) =
        String.intercalate ", " (keys.map t.vocabulary.quoteColumn) ↔ ∀ key ∈ keys, '\x22' ∉ key.toList) := by
  obtain ⟨keys, hkeys⟩ := ht.wellBound.sortedBy hd hp
  have hquote : t.vocabulary.quoteColumn = QuoteStyle.doubleQuote.quote := by
    rw [Table.vocabulary, hd]
    rfl
  rw [hquote]
  exact ⟨keys, hkeys, fun key _ => enclosed_eq_quote_iff, intercalate_enclosed_iff⟩

/-- The draft of a table of readings that is sorted by the second column and the first. -/
def readings (key : String) : Draft where
  name := "Readings"
  columns := [(Column.scalar "id" .integer).withAttribute "encode" (.text "raw"),
    (Column.scalar key .date).withAttribute "encode" (.text "raw")]
  properties := [.distributionStyle "EVEN", .sortkey [key, "id"]]

/-- The shape of the draft. -/
def readingShape (key : String) : Shape where
  name := "Readings"
  description := none
  namePrefix := ""
  columns := (readings key).columns
  properties := (readings key).properties
  policies := Policies.none
  prototype := some ⟨(readings key).columns, (readings key).properties, Policies.none⟩

/-- A table of that shape. -/
def readingInstance (key : String) : Instance where
  shape := readingShape key
  schema := "web"
  columns := (readings key).columns
  properties := (readings key).properties
  policies := Policies.none

theorem readingInstance_declared {key : String} (hkey : key = "day" ∨ key = "a\"b") :
    (readingInstance key).Declared := by
  have hbuild : (readings key).build = .ok (readingShape key) := by
    rcases hkey with rfl | rfl <;> cbv
  have hcreate : Instance.create (readingShape key) "web" [] = .ok (readingInstance key) := rfl
  exact .created ⟨readings key, hbuild⟩ hcreate

/-- Readings sorted by day are so in both statements. -/
theorem readings_sorted : ∃ (t : Table) (p : BoundProperty), t.Reachable ∧
    t.dialect = .redshift ∧ t.property? .sortkey = some p ∧
    t.SortedBy p ["day", "id"] ∧
    (∀ key ∈ ["day", "id"], enclosed key = t.vocabulary.quoteColumn key) ∧
    String.intercalate ", " (["day", "id"].map enclosed) =
      String.intercalate ", " (["day", "id"].map t.vocabulary.quoteColumn) := by
  obtain ⟨t, p, ht, hd, hp, hlist⟩ : ∃ (t : Table) (p : BoundProperty), t.Reachable ∧
      t.dialect = .redshift ∧ t.property? .sortkey = some p ∧
      p.declared.attributes.find? "keys" = some (.list ["day", "id"]) := by
    have hbind : bind (readingInstance "day") .redshift = .ok _ := rfl
    exact ⟨_, _, .bound (readingInstance_declared (.inl rfl)) hbind, rfl, rfl, rfl⟩
  obtain ⟨keys, hsorted, heach, hjoined⟩ := sort_keys ht hd hp
  obtain rfl : keys = ["day", "id"] := by
    obtain ⟨a, ha, rfl⟩ := hsorted.declared
    obtain rfl := Option.some.inj (hlist.symm.trans ha)
    rfl
  have hplain : ∀ key ∈ ["day", "id"], '\x22' ∉ key.toList := by decide
  exact ⟨t, p, ht, hd, hp, hsorted, fun key hkey => (heach key hkey).2 (hplain key hkey), hjoined.2 hplain⟩

/-- A new table of readings whose clause ends the name of its first key too early. -/
def readingText : String :=
  "CREATE TABLE IF NOT EXISTS \"web\".\"readings\" (\n  \"id\" INTEGER ENCODE RAW,\n" ++
    "  \"a\"\"b\" DATE ENCODE RAW\n)\nDISTSTYLE EVEN\nSORTKEY(\"a\"b\", \"id\");"

set_option maxRecDepth 1024 in
/-- The order of a query has the same key by another text, which is that of the column. -/
theorem sort_keys_differ : ∃ (t : Table) (p : BoundProperty), t.Reachable ∧
    t.dialect = .redshift ∧ t.property? .sortkey = some p ∧
    p.declared.attributes.find? "keys" = some (.list ["a\"b", "id"]) ∧
    t.createTable {} = readingText ∧
    t.selectText { useStar := true, orderBySortkey := true } =
      "SELECT * FROM \"web\".\"readings\" ORDER BY \"a\"\"b\", \"id\"" ∧
    enclosed "a\"b" ≠ t.vocabulary.quoteColumn "a\"b" := by
  have hbind : bind (readingInstance "a\"b") .redshift = .ok _ := rfl
  exact ⟨_, _, .bound (readingInstance_declared (.inr rfl)) hbind, rfl, rfl, rfl, by cbv, by cbv, by decide⟩

end Table

end Warehouse
