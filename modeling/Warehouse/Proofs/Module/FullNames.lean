import Warehouse.Proofs.Module.Bound
import Warehouse.Proofs.Table.Comparisons
import Warehouse.Statement.Create

/-!
The full names of the tables of a module. A module declares each name once, but a table goes by the name that
is derived from the declared one, behind a prefix of its own or of a base. Quoting keeps names apart, while
the derivation and prefixes do not: a capital becomes an underscore and a small letter, which another name
may have in its place, and so may a prefix. Main statement: when all tables of a module have full names of
their own.
-/

namespace Warehouse

open Outcome (map_eq_ok)

/-! ### Derived names -/

/-- Whether, among characters that follow another one, each capital begins a word of its own: no capital
follows another and no underscore stands between words already. -/
def wordsAfter (inRun : Bool) : List Char → Bool
  | [] => true
  | c :: rest => c != '_' && !(c.isUpper && inRun) && wordsAfter c.isUpper rest

/-- Whether the name consists of words that begin with a capital and go on without one. -/
def OfWords (name : String) : Prop :=
  ∃ c rest, name.toList = c :: rest ∧ c.isUpper = true ∧ wordsAfter false rest = true

theorem wordsAfter_cons {inRun : Bool} {c : Char} {rest : List Char} :
    wordsAfter inRun (c :: rest) = true ↔
      c ≠ '_' ∧ (c.isUpper = true → inRun = false) ∧ wordsAfter c.isUpper rest = true := by
  rw [wordsAfter, Bool.and_eq_true, Bool.and_eq_true, bne_iff_ne, and_assoc]
  cases c.isUpper <;> simp

/-- Capitals are told apart by their small letters. -/
theorem capital_inj {c d : Char} (hc : c.isUpper = true) (hd : d.isUpper = true)
    (h : c.toLower = d.toLower) : c = d := by
  have hupper := congrArg Char.toUpper h
  rwa [Char.toUpper_toLower_eq_toUpper, Char.toUpper_toLower_eq_toUpper,
    Char.toUpper_eq_of_not_isLower (Char.not_isLower_of_isUpper hc),
    Char.toUpper_eq_of_not_isLower (Char.not_isLower_of_isUpper hd)] at hupper

/-- The first character of a derived rest: an underscore stands for a capital and nothing else. -/
theorem tableNameAfter_cons {inRun : Bool} {c : Char} {rest : List Char}
    (h : wordsAfter inRun (c :: rest) = true) : tableNameAfter inRun (c :: rest) =
      if c.isUpper then '_' :: c.toLower :: tableNameAfter true rest
      else c :: tableNameAfter false rest := by
  obtain ⟨_, hrun, _⟩ := wordsAfter_cons.1 h
  rw [tableNameAfter]
  cases hc : c.isUpper with
  | true => rw [hrun hc]; rfl
  | false =>
    have hsmall : c.toLower = c := Char.toLower_eq_of_not_isUpper (by simp [hc])
    rw [hsmall]
    rfl

/-- From the name of a table the words can be read again. -/
theorem tableNameAfter_inj : ∀ {xs ys : List Char} {inRun : Bool}, wordsAfter inRun xs = true →
    wordsAfter inRun ys = true → tableNameAfter inRun xs = tableNameAfter inRun ys → xs = ys
  | [], [], _, _, _, _ => rfl
  | [], d :: ys, _, _, hy, h => by
    rw [tableNameAfter_cons hy, tableNameAfter] at h
    split at h <;> cases h
  | c :: xs, [], _, hx, _, h => by
    rw [tableNameAfter_cons hx, tableNameAfter] at h
    split at h <;> cases h
  | c :: xs, d :: ys, _, hx, hy, h => by
    rw [tableNameAfter_cons hx, tableNameAfter_cons hy] at h
    obtain ⟨hcunderscore, _, hxs⟩ := wordsAfter_cons.1 hx
    obtain ⟨hdunderscore, _, hys⟩ := wordsAfter_cons.1 hy
    cases hc : c.isUpper <;> cases hd : d.isUpper <;> simp only [hc, hd, if_true, if_false,
      Bool.false_eq_true, List.cons.injEq] at h hxs hys
    case false.false => rw [h.1, tableNameAfter_inj hxs hys h.2]
    case false.true => exact absurd h.1 hcunderscore
    case true.false => exact absurd h.1.symm hdunderscore
    case true.true => rw [capital_inj hc hd h.2.1, tableNameAfter_inj hxs hys h.2.2]

/-- Tables that are declared under different names of words have different names. -/
theorem tableName_inj {a b : String} (ha : OfWords a) (hb : OfWords b) (h : tableName a = tableName b) :
    a = b := by
  obtain ⟨c, xs, hxs, hc, hx⟩ := ha
  obtain ⟨d, ys, hys, hd, hy⟩ := hb
  have hchars := congrArg String.toList h
  rw [tableName, tableName, String.toList_ofList, String.toList_ofList, hxs, hys, tableNameChars,
    tableNameChars, List.cons.injEq] at hchars
  refine String.toList_inj.1 ?_
  rw [hxs, hys, capital_inj hc hd hchars.1, tableNameAfter_inj hx hy hchars.2]

/-! ### Full names -/

/-- A definition begins with its heading and the name. -/
theorem TableDefinition.text_eq (d : TableDefinition) : ∃ rest, d.text = d.heading ++ d.name ++ rest :=
  ⟨" (\n" ++ indentedLines d.definitions ++ "\n)" ++ String.join (d.clauses.map ("\n" ++ ·)) ++ d.ending,
    by simp only [text, String.append_assoc]⟩

namespace Table

theorem reference_eq (t : Table) (suffix : String) : t.reference suffix =
    t.vocabulary.quoteTable t.schema ++ "." ++ t.vocabulary.quoteTable (t.prefixedName ++ suffix) :=
  rfl

/-- In one schema and dialect, tables are told apart by their prefixed names. -/
theorem reference_eq_iff {t u : Table} (hschema : t.schema = u.schema) (hdialect : t.dialect = u.dialect)
    (suffix : String) : t.reference suffix = u.reference suffix ↔ t.prefixedName = u.prefixedName := by
  have hvocabulary : t.vocabulary = u.vocabulary := congrArg Dialect.vocabulary hdialect
  rw [reference_eq, reference_eq, hschema, hvocabulary]
  constructor
  · intro h
    have hname := u.vocabulary.tableQuote.quote_inj ((String.append_right_inj _).1 h)
    exact (String.append_left_inj _).1 hname
  · intro h
    rw [h]

theorem definition_name (t : Table) (o : CreateOptions) :
    (t.definition o).name = t.reference o.suffix := by
  rw [definition]
  split <;> rfl

theorem definition_heading (t : Table) (o : CreateOptions) : (t.definition o).heading ∈
    ["CREATE TABLE IF NOT EXISTS ", "CREATE EXTERNAL TABLE IF NOT EXISTS "] := by
  rw [definition]
  split
  · change (if o.external = true then _ else _) ∈ _
    split
    · exact List.mem_cons_of_mem _ List.mem_cons_self
    · exact List.mem_cons_self
  all_goals exact List.mem_cons_self

/-- Creating the table means it by its full name. -/
theorem createTable_reference (t : Table) (o : CreateOptions) : ∃ heading rest,
    heading ∈ ["CREATE TABLE IF NOT EXISTS ", "CREATE EXTERNAL TABLE IF NOT EXISTS "] ∧
      t.createTable o = heading ++ t.reference o.suffix ++ rest := by
  obtain ⟨rest, hrest⟩ := (t.definition o).text_eq
  rw [definition_name] at hrest
  exact ⟨_, rest, t.definition_heading o, hrest⟩

end Table

namespace Module

/-- Whether the entries are for tables of different names, whatever prefixes they have. -/
def NamedApart (m : Module) (e f : TableEntry) : Prop :=
  ∀ p q, m.HasPrefix e p → m.HasPrefix f q → p ++ tableName e.name ≠ q ++ tableName f.name

/-- Whether the table of the entry goes by the schema of the module, the prefix and the derived name. -/
def NamedBy (m : Module) (d : Dialect) (e : TableEntry) (t : Table) : Prop :=
  ∃ p, m.HasPrefix e p ∧ t.prefixedName = p ++ tableName e.name ∧
    ∀ suffix, t.reference suffix = d.vocabulary.quoteTable m.schema ++ "." ++
      d.vocabulary.quoteTable (p ++ tableName e.name ++ suffix)

/-- The full names of the tables that are not abstract. -/
structure NamesTables (m : Module) (d : Dialect) (ts : List Table) : Prop where
  /-- Each table goes by the schema of the module, its prefix and its derived name. -/
  names : List.Forall₂ (m.NamedBy d) (m.tables.filter (!·.isAbstract)) ts
  /-- That is what creating it means it by. -/
  creation : ∀ t ∈ ts, ∀ o, ∃ heading rest,
    heading ∈ ["CREATE TABLE IF NOT EXISTS ", "CREATE EXTERNAL TABLE IF NOT EXISTS "] ∧
      t.createTable o = heading ++ t.reference o.suffix ++ rest
  /-- No two tables share a full name exactly when prefixes and derived names keep all of them apart. -/
  distinct : ∀ suffix, (ts.map (·.reference suffix)).Nodup ↔
    (m.tables.filter (!·.isAbstract)).Pairwise m.NamedApart
  /-- They do under names of words and one prefix. -/
  words : ∀ p, (∀ e ∈ m.tables, e.isAbstract = false → OfWords e.name ∧ m.HasPrefix e p) →
    ∀ suffix, (ts.map (·.reference suffix)).Nodup

theorem TableOf.namedBy {m : Module} {d : Dialect} {e : TableEntry} {t : Table} (h : m.TableOf d e t) :
    m.NamedBy d e t := by
  have hname : t.prefixedName = t.shape.namePrefix ++ tableName e.name := by
    rw [Table.prefixedName, Table.tableName, Shape.tableName, h.shaped.name]
  refine ⟨_, h.shaped.namePrefix, hname, fun suffix => ?_⟩
  rw [Table.reference_eq, hname, h.schema, Table.vocabulary, h.dialect]

/-- Tables share a full name exactly when their entries are not named apart. -/
theorem TableOf.reference_ne {m : Module} (hm : (m.tables.map (·.name)).Nodup) {d : Dialect}
    {e f : TableEntry} {t u : Table} (ht : m.TableOf d e t) (hu : m.TableOf d f u) (suffix : String) :
    m.NamedApart e f ↔ t.reference suffix ≠ u.reference suffix := by
  obtain ⟨p, hp, htname, _⟩ := ht.namedBy
  obtain ⟨q, hq, huname, _⟩ := hu.namedBy
  have hschema : t.schema = u.schema := ht.schema.trans hu.schema.symm
  have hdialect : t.dialect = u.dialect := ht.dialect.trans hu.dialect.symm
  rw [ne_eq, Table.reference_eq_iff hschema hdialect, htname, huname]
  constructor
  · exact fun h => h p q hp hq
  · intro h p' q' hp' hq'
    rwa [hp'.unique hm hp, hq'.unique hm hq]

/-- Lists that are related element by element have related pairs. -/
theorem pairwise_iff {α β : Type} {R : α → β → Prop} {S : α → α → Prop} {T : β → β → Prop}
    (hpair : ∀ {a b a' b'}, R a b → R a' b' → (S a a' ↔ T b b')) {l : List α} {k : List β}
    (h : List.Forall₂ R l k) : l.Pairwise S ↔ k.Pairwise T := by
  rw [List.pairwise_iff_getElem, List.pairwise_iff_getElem]
  constructor
  · intro hl i j hi hj hij
    have hi' : i < l.length := h.length_eq ▸ hi
    have hj' : j < l.length := h.length_eq ▸ hj
    exact (hpair (h.get hi' hi) (h.get hj' hj)).1 (hl i j hi' hj' hij)
  · intro hk i j hi hj hij
    have hi' : i < k.length := h.length_eq ▸ hi
    have hj' : j < k.length := h.length_eq ▸ hj
    exact (hpair (h.get hi hi') (h.get hj hj')).2 (hk i j hi' hj' hij)

/-- Of names of words under one prefix no two are the same. -/
theorem namedApart_of_words {m : Module} (hm : (m.tables.map (·.name)).Nodup) {p : String}
    (hwords : ∀ e ∈ m.tables, e.isAbstract = false → OfWords e.name ∧ m.HasPrefix e p) :
    (m.tables.filter (!·.isAbstract)).Pairwise m.NamedApart := by
  have hnames : (m.tables.filter (!·.isAbstract)).Pairwise fun e f => e.name ≠ f.name :=
    (List.pairwise_map.1 hm).sublist List.filter_sublist
  have hconcrete : ∀ e ∈ m.tables.filter (!·.isAbstract), OfWords e.name ∧ m.HasPrefix e p := by
    intro e he
    obtain ⟨he, hnot⟩ := List.mem_filter.1 he
    exact hwords e he (by simpa using hnot)
  refine hnames.imp_of_mem fun {e f} he hf hne q q' hq hq' hsame => hne ?_
  obtain ⟨hewords, hep⟩ := hconcrete e he
  obtain ⟨hfwords, hfp⟩ := hconcrete f hf
  rw [hq.unique hm hep, hq'.unique hm hfp] at hsame
  exact tableName_inj hewords hfwords ((String.append_right_inj p).1 hsame)

/-- The tables of a module that passes the check go by full names that are distinct exactly when prefixes and
derived names keep their entries apart. -/
theorem full_names {m : Module} (hcheck : m.check = .ok ()) {d : Dialect} {ts : List Table}
    (hbind : m.bindAll d = .ok ts) : m.NamesTables d ts := by
  have hm := (TableEntry.names_of_check hcheck).1
  have htables := tables_of_check hcheck hbind
  have hdistinct : ∀ suffix, (ts.map (·.reference suffix)).Nodup ↔
      (m.tables.filter (!·.isAbstract)).Pairwise m.NamedApart := fun suffix =>
    List.pairwise_map.trans (pairwise_iff (fun ht hu => ht.reference_ne hm hu suffix) htables).symm
  constructor
  case names => exact htables.imp fun _ _ h => h.namedBy
  case creation => exact fun t _ o => t.createTable_reference o
  case distinct => exact hdistinct
  case words => exact fun p hwords suffix => (hdistinct suffix).2 (namedApart_of_words hm hwords)

/-- A module of pages. Two names come to the same when they are derived, and two do behind a prefix. -/
def pages : Module where
  name := some "web"
  tables := [
    { name := "PageView", columns := [{ name := "id", type := .bigint }] },
    { name := "page_view", columns := [{ name := "url", type := .varchar }] },
    { name := "DailySummary", columns := [{ name := "views", type := .bigint }] },
    { name := "Summary", namePrefix := some "daily_", columns := [{ name := "url", type := .varchar }] }]

theorem pages_references : (pages.bindAll .presto).map (·.map (·.reference "")) =
    .ok ["\"web\".\"page_view\"", "\"web\".\"page_view\"", "\"web\".\"daily_summary\"",
      "\"web\".\"daily_summary\""] := by cbv

theorem pages_named : pages.check = .ok () ∧
    ∃ ts, pages.bindAll .presto = .ok ts ∧ pages.NamesTables .presto ts := by
  have hcheck : pages.check = .ok () := rfl
  obtain ⟨ts, hts, _⟩ := map_eq_ok.1 pages_references
  exact ⟨hcheck, ts, hts, full_names hcheck hts⟩

/-- The module passes the check, and its tables share two full names. -/
theorem pages_share_names : ∃ (m : Module) (d : Dialect) (ts : List Table),
    m.check = .ok () ∧ m.bindAll d = .ok ts ∧ ¬ (ts.map (·.reference "")).Nodup := by
  have hcheck : pages.check = .ok () := rfl
  obtain ⟨ts, hts, hreferences⟩ := map_eq_ok.1 pages_references
  refine ⟨pages, .presto, ts, hcheck, hts, ?_⟩
  rw [hreferences]
  decide

end Module

end Warehouse
