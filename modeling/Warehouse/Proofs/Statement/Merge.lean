import Warehouse.Proofs.Statement.Loading
import Warehouse.Proofs.Statement.Narrowing

/-!
Which existing rows a merge lets go. A condition on pairs of a new row and an existing one has one equality
for each column that a key names; a key that names no column leaves no trace in it, and without equalities
there is no condition, so that all existing rows stay. The existing rows come from a select of the chosen
columns alone, which the condition asks for its keys whether they are among these or not.
-/

namespace Warehouse

/-! ### Conditions on pairs of rows -/

namespace Condition

/-- The tokens of a name behind the one letter that stands for where it is taken from. -/
theorem tokens?_taken {c : Char} (hc : isWordPart c = true) {name text : String} {ts : List Token}
    (h : tokens? name = some ts) (htext : text.toList = c :: '.' :: name.toList) :
    tokens? text = some (.word [c] :: .sign '.' :: ts) := by
  rw [tokens?, htext, lex_wordPart hc, lex_break (by decide), lex_sign (by decide) (by decide),
    show lex (.plain []) name.toList = some ts from h]
  rfl

theorem operand_quote (q : QuoteStyle) (name : String) :
    ∃ ts, tokens? (q.quote name) = some ts ∧ Operand ts := by
  have hword : isWordPart q.mark = false := by cases q <;> decide
  have hmark : isQuoteMark q.mark = true := by cases q <;> decide
  obtain ⟨first, names, hquoted, hlex⟩ := lex_quoteChars hword hmark [] name.toList []
  have hneutral : ∀ t ∈ first :: names, t.Neutral := by
    intro t ht
    obtain ⟨m, cs, rfl⟩ := hquoted t ht
    exact ⟨rfl, rfl, rfl⟩
  have hnil : Operand [] := ⟨rfl, by rw [alternatives, partsFrom], by rw [factors, partsFrom]⟩
  refine ⟨first :: names ++ [], ?_, Operand.append hneutral hnil⟩
  rw [tokens?, QuoteStyle.quote, String.toList_ofList, QuoteStyle.quoteChars, lex_quoteMark hword hmark,
    hlex, lex]
  rfl

/-- Texts that are one operand each, joined with AND, hold when all of them do. -/
theorem holds_joined {row : List Token → Bool} {texts : List String} (hne : texts ≠ [])
    (h : ∀ s ∈ texts, ∃ ts, tokens? s = some ts ∧ Operand ts) :
    Holds row (String.intercalate " AND " texts) ↔ ∀ s ∈ texts, Holds row s := by
  obtain ⟨front, last, rfl⟩ := (List.eq_nil_or_concat' texts).resolve_left hne
  obtain ⟨ts, hts, hlast⟩ := h last (List.mem_append_right _ List.mem_cons_self)
  have hfront : ∀ s ∈ front, tokens? s = some ((tokens? s).getD []) ∧ Operand ((tokens? s).getD []) := by
    intro s hs
    obtain ⟨us, hus, hoperand⟩ := h s (List.mem_append_left _ hs)
    rw [hus, Option.getD_some]
    exact ⟨rfl, hoperand⟩
  have htokens : tokens? (String.intercalate " AND " (front ++ [last])) =
      some (conjoin (front.map fun s => (tokens? s).getD []) ts) := by
    rw [← tokens?_conjoin hts fun s hs => (hfront s hs).1, List.map_id' front]
  have hoperands : ∀ us ∈ front.map fun s => (tokens? s).getD [], Operand us :=
    List.forall_mem_map.2 fun s hs => (hfront s hs).2
  have hsingle : (alternatives ts).tail = [] := by rw [hlast.alternative, List.tail_cons]
  rw [holds_iff htokens, truth_conjoin hoperands, hsingle, List.forall_mem_append,
    List.forall_mem_singleton, List.forall_mem_map, holds_iff hts]
  simp only [List.not_mem_nil, false_and, exists_false, or_false]
  refine and_congr_left fun _ => forall₂_congr fun s hs => (holds_iff (hfront s hs).1).symm

end Condition

open Condition (Holds Operand Token tokens?)

/-- The equality of a key of a new row with that of an existing one. -/
def keyEquality (v : Vocabulary) (key : String) : String :=
  "u." ++ v.quoteColumn key ++ " = d." ++ v.quoteColumn key

/-- The condition on a new row that has the keys of an existing one. -/
def keyCondition (v : Vocabulary) (keys : List String) : String :=
  String.intercalate " AND " (keys.map (keyEquality v))

/-- The part of a merge that lets go of the existing rows whose keys a new row has. -/
def antiJoin (v : Vocabulary) (keys : List String) : String :=
  if keys = [] then ""
  else " WHERE NOT EXISTS (SELECT 1 FROM incremental_update AS u WHERE " ++ keyCondition v keys ++ ")"

/-- A select item that has the name of the column. -/
inductive NamedItem (v : Vocabulary) (c : Column) : String → Prop
  | bare : NamedItem v c (v.quoteColumn c.name)
  | renamed (value : String) : NamedItem v c (value ++ " AS " ++ v.quoteColumn c.name)

theorem keyEquality_eq (v : Vocabulary) (key : String) : keyEquality v key =
    "u." ++ (v.columnQuote.quote key ++ " = " ++ ("d." ++ v.columnQuote.quote key)) := by
  have hsign : " = d." = " = " ++ "d." := rfl
  rw [keyEquality, hsign]
  simp only [String.append_assoc, Vocabulary.quoteColumn]

theorem keyEquality_inj {v : Vocabulary} {a b : String} (h : keyEquality v a = keyEquality v b) :
    a = b := by
  rw [keyEquality_eq, keyEquality_eq] at h
  exact (v.columnQuote.equality_inj ((String.append_right_inj "u.").1 h)).1

theorem keyEquality_operand (v : Vocabulary) (key : String) :
    ∃ ts, tokens? (keyEquality v key) = some ts ∧ Operand ts := by
  have htaken : ∀ {c : Char} {ts : List Token}, Operand ts → Token.Neutral (.word [c]) →
      Operand (.word [c] :: .sign '.' :: ts) :=
    fun h hc => .cons hc (.cons ⟨rfl, rfl, rfl⟩ h)
  obtain ⟨ts, hts, hoperand⟩ := Condition.operand_quote v.columnQuote key
  have hold : tokens? ("d." ++ v.columnQuote.quote key) = some (.word ['d'] :: .sign '.' :: ts) :=
    Condition.tokens?_taken (by decide) hts (by simp)
  obtain ⟨us, hus, hequality, _⟩ := Condition.operand_equality v.columnQuote key hold
    (htaken hoperand ⟨rfl, rfl, rfl⟩)
  have hnew : tokens? (keyEquality v key) = some (.word ['u'] :: .sign '.' :: us) :=
    Condition.tokens?_taken (by decide) hus (by rw [keyEquality_eq]; simp)
  exact ⟨_, hnew, htaken hequality ⟨rfl, rfl, rfl⟩⟩

/-- Under the condition a new row and an existing one have all of the keys in common. -/
theorem keyCondition_holds (v : Vocabulary) {keys : List String} (hne : keys ≠ [])
    (row : List Token → Bool) :
    Holds row (keyCondition v keys) ↔ ∀ k ∈ keys, Holds row (keyEquality v k) := by
  have hoperands : ∀ s ∈ keys.map (keyEquality v), ∃ ts, tokens? s = some ts ∧ Operand ts :=
    List.forall_mem_map.2 fun k _ => keyEquality_operand v k
  rw [keyCondition, Condition.holds_joined (by simpa using hne) hoperands, List.forall_mem_map]

namespace Table

/-- The keys that existing rows are compared by: those that name a column, in the order of the columns. -/
def joinedKeys (t : Table) (o : UpsertOptions) : List String :=
  (t.toInstance.columns.map (·.name)).filter o.primaryKeys.contains

/-- The select of the existing rows of the partition in scope: it has an item with the name of each chosen
column. -/
def SelectsExisting (t : Table) (o : UpsertOptions) (text : String) : Prop :=
  ∃ items, List.Forall₂ (NamedItem t.vocabulary) (t.chosen (t.upsertFilter o)) items ∧
    text = "SELECT " ++ String.intercalate ", " items ++ " FROM " ++ t.reference "" ++
      whereClause (t.scopedCondition o.scope " AND ")

theorem existing_text (t : Table) (o : UpsertOptions) : (t.upsert o).existing = "SELECT " ++
    String.intercalate ", " ((t.select true (t.upsertFilter o)).map (·.selectItem o.transforms)) ++
      " FROM " ++ t.reference "" ++ whereClause (t.scopedCondition o.scope " AND ") := by
  have hcondition : String.intercalate " AND "
      ([t.scopedCondition o.scope " AND ", ""].filter (· != "")) = t.scopedCondition o.scope " AND " := by
    by_cases h : t.scopedCondition o.scope " AND " = "" <;> simp [h]
  rw [upsert, selectPartition, selectText, Query.text]
  simp [query, scopedOptions, hcondition]

theorem mem_joinedKeys {t : Table} {o : UpsertOptions} {k : String} :
    k ∈ t.joinedKeys o ↔ k ∈ o.primaryKeys ∧ ∃ c ∈ t.toInstance.columns, c.name = k := by
  rw [joinedKeys, List.mem_filter, List.mem_map, List.contains_iff_mem, and_comm]

section Coherent

variable {t : Table} (ht : t.Coherent)
include ht

theorem Coherent.namedItem {b : BoundColumn} (hb : b ∈ t.columns) (transforms : Dict String) :
    NamedItem t.vocabulary b.declared (b.selectItem transforms) := by
  rw [BoundColumn.selectItem, (ht.columns b hb).quotedName]
  split
  · exact .renamed _
  · exact .bare

theorem Coherent.selectsExisting (o : UpsertOptions) : t.SelectsExisting o (t.upsert o).existing := by
  refine ⟨_, ?_, t.existing_text o⟩
  rw [← select_declared]
  exact Binding.forall₂_declared fun b hb => ht.namedItem (List.mem_of_mem_filter hb) o.transforms

theorem Coherent.keyMatches_eq (o : UpsertOptions) :
    (t.upsert o).keyMatches = (t.joinedKeys o).map (keyEquality t.vocabulary) := by
  rw [upsert, joinedKeys, toInstance, List.map_map, List.filter_map, List.map_map]
  refine List.map_congr_left fun b hb => ?_
  rw [(ht.columns b (List.mem_of_mem_filter hb)).quotedName]
  rfl

/-- The arm of a merge that keeps existing rows: a select of the load items from these rows. -/
theorem Coherent.existingArm_eq (o : UpsertOptions) : (t.upsert o).existingArm = "SELECT " ++
    String.intercalate ", " (t.loadValues true (t.upsertFilter o)) ++ " FROM (" ++
      (t.upsert o).existing ++ ") AS d" ++ antiJoin t.vocabulary (t.joinedKeys o) := by
  have hitems : (t.upsert o).items = t.loadValues true (t.upsertFilter o) := rfl
  have hempty : (t.joinedKeys o).map (keyEquality t.vocabulary) = [] ↔ t.joinedKeys o = [] :=
    List.map_eq_nil_iff
  rw [Upsert.existingArm, ht.keyMatches_eq, hitems, antiJoin, keyCondition]
  simp only [List.isEmpty_iff, hempty]

/-- A merge ends with this arm. -/
theorem Coherent.upsertSelect_ends {o : UpsertOptions} {list existing condition : String}
    (hlist : String.intercalate ", " (t.loadValues true (t.upsertFilter o)) = list)
    (hexisting : (t.upsert o).existing = existing)
    (hcondition : antiJoin t.vocabulary (t.joinedKeys o) = condition) : ∃ front, t.upsertSelect o =
      front ++ ("SELECT " ++ list ++ " FROM (" ++ existing ++ ") AS d" ++ condition) := by
  rw [upsertSelect, Upsert.text_eq, ht.existingArm_eq, hlist, hexisting, hcondition]
  exact ⟨_, rfl⟩

end Coherent

/-- How a merge compares existing rows with new ones. -/
structure ComparesByKeys (t : Table) (o : UpsertOptions) : Prop where
  /-- The statement ends in the condition on pairs of rows, if there is one. -/
  statement : ∃ list existing, SelectList t.vocabulary (t.chosen (t.upsertFilter o)) list ∧
    t.SelectsExisting o existing ∧ t.upsertSelect o = "WITH incremental_update AS (" ++
      Statement.bare o.update ++ ") SELECT " ++ list ++ " FROM incremental_update UNION ALL SELECT " ++
      list ++ " FROM (" ++ existing ++ ") AS d" ++ antiJoin t.vocabulary (t.joinedKeys o)
  /-- It has one equality for each key that names a column. -/
  joined : ∀ k, k ∈ t.joinedKeys o ↔ k ∈ o.primaryKeys ∧ ∃ c ∈ t.toInstance.columns, c.name = k
  once : (t.joinedKeys o).Nodup
  apart : ∀ k k', keyEquality t.vocabulary k = keyEquality t.vocabulary k' → k = k'
  /-- A pair of rows that has all these keys in common meets it, and no other pair does. -/
  condition : t.joinedKeys o ≠ [] → ∀ row, Holds row (keyCondition t.vocabulary (t.joinedKeys o)) ↔
    ∀ k ∈ t.joinedKeys o, Holds row (keyEquality t.vocabulary k)
  counterpart : t.joinedKeys o ≠ [] → ∀ row,
    (∀ k ∈ o.primaryKeys, Holds row (keyEquality t.vocabulary k)) →
      Holds row (keyCondition t.vocabulary (t.joinedKeys o))
  /-- There is none when no key names a column, and all existing rows stay. -/
  unconditional : t.joinedKeys o = [] ↔ ∀ k ∈ o.primaryKeys, ∀ c ∈ t.toInstance.columns, c.name ≠ k
  /-- The select of the existing rows has the key if the filter lets its column through; without a filter,
  if its column is no partition. -/
  available : ∀ k ∈ t.joinedKeys o, o.filter = none →
    ((∃ c ∈ t.chosen (t.upsertFilter o), c.name = k) ↔ k ∉ t.partitionNames)
  /-- All keys are compared and available exactly when each names a chosen column. -/
  complete : ((∀ k ∈ o.primaryKeys, k ∈ t.joinedKeys o) ∧
    ∀ k ∈ t.joinedKeys o, ∃ c ∈ t.chosen (t.upsertFilter o), c.name = k) ↔
      ∀ k ∈ o.primaryKeys, ∃ c ∈ t.chosen (t.upsertFilter o), c.name = k

/-- A merge lets go of an existing row by those keys that name a column; the others are passed over. -/
theorem merge_compares_by_keys {t : Table} (ht : t.Reachable) (o : UpsertOptions) : t.ComparesByKeys o := by
  have hcoherent := ht.wellBound.coherent
  have hchosen : ∀ {k}, (∃ c ∈ t.chosen (t.upsertFilter o), c.name = k) →
      ∃ c ∈ t.toInstance.columns, c.name = k := by
    rintro k ⟨c, hc, hname⟩
    exact ⟨c, List.mem_of_mem_filter hc, hname⟩
  constructor
  case statement =>
    refine ⟨_, _, ⟨_, hcoherent.loadItems _, rfl⟩, hcoherent.selectsExisting o, ?_⟩
    rw [upsertSelect, Upsert.text_eq, hcoherent.existingArm_eq]
    simp only [String.append_assoc]
    rfl
  case joined => exact fun k => mem_joinedKeys
  case once => exact ht.wellBound.named.distinct.filter _
  case apart => exact fun k k' => keyEquality_inj
  case condition => exact fun hne row => keyCondition_holds t.vocabulary hne row
  case counterpart =>
    intro hne row hrow
    exact (keyCondition_holds t.vocabulary hne row).2 fun k hk => hrow k (mem_joinedKeys.1 hk).1
  case unconditional =>
    rw [List.eq_nil_iff_forall_not_mem]
    refine forall_congr' fun k => ?_
    rw [mem_joinedKeys, not_and]
    simp only [not_exists, not_and, ne_eq]
  case available =>
    intro k hk hfilter
    obtain ⟨_, c, hc, rfl⟩ := mem_joinedKeys.1 hk
    have haccepts : (t.upsertFilter o).accepts = fun c => !t.partitionNames.contains c.name := by
      rw [upsertFilter, hfilter]
      rfl
    rw [chosen, haccepts]
    constructor
    · rintro ⟨d, hd, hname⟩
      simpa [hname] using (List.mem_filter.1 hd).2
    · intro hnot
      exact ⟨c, List.mem_filter.2 ⟨hc, by simpa using hnot⟩, rfl⟩
  case complete =>
    constructor
    · rintro ⟨hall, hfound⟩ k hk
      exact hfound k (hall k hk)
    · intro h
      exact ⟨fun k hk => mem_joinedKeys.2 ⟨hk, hchosen (h k hk)⟩,
        fun k hk => h k (mem_joinedKeys.1 hk).1⟩

/-- A merge of the visits of one day by these keys. -/
def visitMerge (keys : List String) : UpsertOptions where
  update := "SELECT * FROM incoming"
  primaryKeys := keys
  scope := { params := Dict.ofList [("ds", "'2020-01-01'")] }

/-- The existing visits of that day. -/
def dayVisits : String :=
  "SELECT \"id\", \"email\" FROM \"web\".\"visits\" WHERE \"ds\" = '2020-01-01' AND \"country\" = 'nl'"

theorem visits_compare_by_keys : ∃ t : Table, t.Reachable ∧
    t.ComparesByKeys (visitMerge ["email", "id", "id"]) ∧
    ∃ front, t.upsertSelect (visitMerge ["email", "id", "id"]) = front ++
      ("SELECT " ++ "\"id\", \"email\"" ++ " FROM (" ++ dayVisits ++ ") AS d" ++
        (" WHERE NOT EXISTS (SELECT 1 FROM incremental_update AS u WHERE " ++
          "u.\"id\" = d.\"id\" AND u.\"email\" = d.\"email\")")) := by
  have hbind : bind visitInstance .presto = .ok _ := rfl
  have ht := Reachable.bound visitInstance_declared hbind
  exact ⟨_, ht, merge_compares_by_keys ht _,
    ht.wellBound.coherent.upsertSelect_ends (by cbv) (by cbv) (by cbv)⟩

/-- With a key that names no column all existing rows stay, though each may have a new row in its place; and
a partition among the keys is compared, though the select of the existing rows leaves it out. -/
theorem merge_loses_keys : ∃ t : Table, t.Reachable ∧
    (∃ front, t.upsertSelect (visitMerge ["idd"]) = front ++
      ("SELECT " ++ "\"id\", \"email\"" ++ " FROM (" ++ dayVisits ++ ") AS d" ++ "")) ∧
    ∃ front, t.upsertSelect (visitMerge ["id", "ds"]) = front ++
      ("SELECT " ++ "\"id\", \"email\"" ++ " FROM (" ++ dayVisits ++ ") AS d" ++
        (" WHERE NOT EXISTS (SELECT 1 FROM incremental_update AS u WHERE " ++
          "u.\"id\" = d.\"id\" AND u.\"ds\" = d.\"ds\")")) := by
  have hbind : bind visitInstance .presto = .ok _ := rfl
  have ht := Reachable.bound visitInstance_declared hbind
  have hcoherent := ht.wellBound.coherent
  exact ⟨_, ht, hcoherent.upsertSelect_ends (by cbv) (by cbv) (by cbv),
    hcoherent.upsertSelect_ends (by cbv) (by cbv) (by cbv)⟩

end Table

end Warehouse
