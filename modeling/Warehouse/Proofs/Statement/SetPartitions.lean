import Warehouse.Proofs.PartitionValue.Parentheses
import Warehouse.Proofs.Statement.Feeds
import Warehouse.Proofs.Table.Direct
import Warehouse.Proofs.Template.Untouched

/-!
Where a partition counts as set. The name of the staging table, the item that loads the column and the `PARTITION`
clause ask for a value that is not empty; the storage path and the parameters of conditions take any. So a partition
whose value is empty is set in some places and not in others, and its comparison has nothing behind its sign. Main
statement: the values for which all places agree, and those for which a comparison has two sides.
-/

namespace Warehouse

open PartitionValue (plain)
open Template (BraceFree filledSlot isName slot substitute)

/-! ### Joined texts -/

theorem length_intercalate (sep : String) : ∀ parts : List String, parts ≠ [] →
    (String.intercalate sep parts).length + sep.length = (parts.map (·.length + sep.length)).sum
  | [], h => absurd rfl h
  | [a], _ => by simp
  | a :: b :: rest, _ => by
    have hrest := length_intercalate sep (b :: rest) (List.cons_ne_nil _ _)
    rw [String.intercalate_cons_cons, List.map_cons, List.sum_cons, ← hrest, String.length_append,
      String.length_append]
    omega

/-- One more text among joined ones is seen, unless it is empty and the only one. -/
theorem intercalate_insert_eq_iff {sep : String} (hsep : sep ≠ "") {a b : List String} {w : String} :
    String.intercalate sep (a ++ w :: b) = String.intercalate sep (a ++ b) ↔ w = "" ∧ a ++ b = [] := by
  constructor
  · intro h
    have hlength := congrArg String.length h
    by_cases hothers : a ++ b = []
    · obtain ⟨rfl, rfl⟩ := List.append_eq_nil_iff.1 hothers
      exact ⟨by simpa using h, rfl⟩
    · have hwith := length_intercalate sep (a ++ w :: b) (by simp)
      have hwithout := length_intercalate sep (a ++ b) hothers
      have hpos : 0 < sep.length := Nat.pos_of_ne_zero (by simpa using hsep)
      simp only [List.map_append, List.map_cons, List.sum_append, List.sum_cons] at hwith hwithout
      omega
  · rintro ⟨rfl, hothers⟩
    obtain ⟨rfl, rfl⟩ := List.append_eq_nil_iff.1 hothers
    rfl

theorem QuoteStyle.quote_ne_empty (q : QuoteStyle) (name : String) : q.quote name ≠ "" := by
  intro h
  have hchars := congrArg String.toList h
  rw [quote, String.toList_ofList, quoteChars] at hchars
  cases hchars

/-! ### Places -/

/-- The places that tell whether a partition has a value. -/
inductive ValuePlace where
  | stagingName
  | path
  | params
  | loadItem
  | clause

namespace BoundColumn

/-- The column without its value. -/
def unset (c : BoundColumn) : BoundColumn := { c with declared := { c.declared with value := none } }

/-- The column with another setter. -/
def withSetter (c : BoundColumn) (setterTemplate : String) : BoundColumn := { c with setterTemplate }

/-- Whether the item that loads the column gives it its value, whatever the setter of the dialect is. -/
def LoadsValue (c : BoundColumn) : Prop :=
  ∃ v ∈ c.declared.value, ∀ template, (c.withSetter template).loadValue = (c.withSetter template).setter v

theorem loadValue_of_value (c : BoundColumn) (hc : c.declared.isPartition = true) {v : String}
    (hv : c.declared.currentValue? = some v) : c.loadValue = c.setter v := by
  rw [loadValue, if_pos hc, hv]

theorem loadValue_of_none (c : BoundColumn) (hc : c.declared.isPartition = true)
    (hv : c.declared.currentValue? = none) : c.loadValue = c.quotedName := by
  rw [loadValue, if_pos hc, hv]

end BoundColumn

namespace Table

/-- The table without the value of one column. -/
def without (t : Table) (name : String) : Table :=
  { t with columns := t.columns.map fun c => if c.name = name then c.unset else c }

/-- Whether the partition counts as set in a place. A name or a path tells it if it were another one without the
value. -/
def CountsAsSet (t : Table) (p : BoundColumn) : ValuePlace → Prop
  | .stagingName => t.stagingName ≠ (t.without p.name).stagingName
  | .path => t.partitionPath ≠ (t.without p.name).partitionPath
  | .params => (t.partitionParams Dict.empty).find? p.name ≠ none
  | .loadItem => p.LoadsValue
  | .clause => ∃ v, p.quotedName ++ " = " ++ v ∈ t.partitionEntries.map (·.text)

/-- Whether the value of the partition is to be seen in the name of the staging table: it is not empty, and neither is
its plain form, unless there is a word of another partition beside it. -/
def NamesStaging (t : Table) (p : BoundColumn) : Prop :=
  ∃ v ∈ p.declared.currentValue?, plain false false v ≠ "" ∨
    ∃ q ∈ t.partitions, q.name ≠ p.name ∧ q.declared.currentValue? ≠ none

/-! ### Names and paths without a value -/

theorem partitions_without (t : Table) (name : String) : (t.without name).partitions =
    t.partitions.map fun c => if c.name = name then c.unset else c := by
  rw [partitions, without, List.filter_map, partitions]
  refine congrArg _ (List.filter_congr fun c _ => ?_)
  rw [Function.comp_apply]
  split <;> rfl

/-- Names of staging tables differ where the words in them do. -/
theorem stagingName_eq_iff {t u : Table} (hname : u.tableName = t.tableName) : t.stagingName = u.stagingName ↔
    String.intercalate "_" t.valueWords = String.intercalate "_" u.valueWords := by
  -- words that are not empty make the name longer than the one without words
  have hlonger : ∀ {words : String}, words ≠ "" →
      "stg_" ++ words ++ "_" ++ t.tableName ≠ "stg_" ++ t.tableName := by
    intro words hwords h
    have hlength := congrArg String.length h
    simp only [String.length_append] at hlength
    have hone : "_".length = 1 := rfl
    omega
  rw [stagingName, stagingName, hname]
  generalize String.intercalate "_" t.valueWords = a
  generalize String.intercalate "_" u.valueWords = b
  by_cases ha : a = "" <;> by_cases hb : b = ""
  · rw [if_pos ha, if_pos hb, ha, hb]
    exact iff_of_true rfl rfl
  · rw [if_pos ha, if_neg hb, ha]
    exact iff_of_false (hlonger hb).symm (Ne.symm hb)
  · rw [if_neg ha, if_pos hb, hb]
    exact iff_of_false (hlonger ha) ha
  · rw [if_neg ha, if_neg hb, String.append_left_inj, String.append_left_inj, String.append_right_inj]

theorem pathSegment_ne_empty (p : BoundColumn) (v : String) : pathSegment p v ≠ "" := by
  simp [pathSegment, String.append_eq_empty_iff]

/-! ### Comparisons without a value -/

/-- Whether nothing stands behind the sign of a comparison. -/
def Dangles (t : Table) (params : Dict String) (p : BoundColumn) : Prop :=
  t.comparison params p = substitute p.quotedName (t.partitionParams params).find? ++ " = "

theorem dangles_iff_right {t : Table} {params : Dict String} {p : BoundColumn} :
    t.Dangles params p ↔ substitute (slot p.name) (t.partitionParams params).find? = "" := by
  rw [Dangles, comparison_sides, String.append_eq_left_iff]

theorem not_dangles {t : Table} {params : Dict String} (h : ∀ k, (t.partitionParams params).find? k ≠ some "")
    (p : BoundColumn) : ¬ t.Dangles params p := by
  rw [dangles_iff_right]
  exact Template.substitute_ne_empty h (Template.slot_ne_empty p.name)

/-- What the places tell of a partition with a current value. -/
structure TellsValue (t : Table) (p : BoundColumn) (v : String) : Prop where
  stagingName : plain false false v ∈ t.valueWords
  path : pathSegment p v ∈ t.partitions.filterMap fun p => p.declared.value.map (pathSegment p)
  params : (t.partitionParams Dict.empty).find? p.name = some v
  loadItem : p.loadValue = p.setter v
  clause : p.quotedName ++ " = " ++ v ∈ t.partitionEntries.map (·.text)
  condition : isName p.name.toList = true → t.comparison Dict.empty p = p.quotedName ++ " = " ++ v

section WellBound

variable {t : Table} (ht : t.WellBound) {p : BoundColumn} (hp : p ∈ t.partitions)
include ht hp

/-- The partition among the others, with its value and without. -/
theorem WellBound.partitions_split : ∃ front back, t.partitions = front ++ p :: back ∧
    (t.without p.name).partitions = front ++ p.unset :: back ∧
    ∀ q, q ∈ front ++ back ↔ q ∈ t.partitions ∧ q.name ≠ p.name := by
  obtain ⟨front, back, hpartitions⟩ := List.append_of_mem hp
  have hnodup := ht.partitions_nodup
  rw [hpartitions, List.map_append, List.map_cons, List.nodup_middle, List.nodup_cons, ← List.map_append] at hnodup
  have hother : ∀ q ∈ front ++ back, q.name ≠ p.name :=
    fun q hq hname => hnodup.1 (hname ▸ List.mem_map_of_mem hq)
  have hkept : ∀ l : List BoundColumn, (∀ q ∈ l, q.name ≠ p.name) →
      l.map (fun c => if c.name = p.name then c.unset else c) = l := by
    intro l hl
    rw [List.map_congr_left fun q hq => if_neg (hl q hq), List.map_id']
  refine ⟨front, back, hpartitions, ?_, fun q => ⟨fun hq => ⟨?_, hother q hq⟩, ?_⟩⟩
  · rw [partitions_without, hpartitions, List.map_append, List.map_cons, if_pos rfl,
      hkept front fun q hq => hother q (List.mem_append_left _ hq),
      hkept back fun q hq => hother q (List.mem_append_right _ hq)]
  · rw [hpartitions]
    exact List.perm_middle.symm.subset (List.mem_cons_of_mem _ hq)
  · rintro ⟨hq, hname⟩
    rw [hpartitions, List.mem_append, List.mem_cons] at hq
    rcases hq with hq | rfl | hq
    · exact List.mem_append_left _ hq
    · exact absurd rfl hname
    · exact List.mem_append_right _ hq

/-- Joined words for the values of the partitions are others without the value of one, unless there is no word for it,
or an empty one and no more. -/
theorem WellBound.joined_without_iff {word : BoundColumn → Option String} (hunset : word p.unset = none)
    {sep : String} (hsep : sep ≠ "") : String.intercalate sep (t.partitions.filterMap word) ≠
        String.intercalate sep ((t.without p.name).partitions.filterMap word) ↔
      ∃ w ∈ word p, w ≠ "" ∨ ∃ q ∈ t.partitions, q.name ≠ p.name ∧ word q ≠ none := by
  obtain ⟨front, back, hwith, hwithout, hothers⟩ := ht.partitions_split hp
  have hnone : front.filterMap word ++ back.filterMap word = [] ↔
      ¬ ∃ q ∈ t.partitions, q.name ≠ p.name ∧ word q ≠ none := by
    rw [← List.filterMap_append, List.filterMap_eq_nil_iff]
    simp only [hothers, not_exists, not_and, not_not, and_imp]
  rw [hwith, hwithout, List.filterMap_append, List.filterMap_append, List.filterMap_cons, List.filterMap_cons, hunset,
    ← hwith]
  cases hw : word p with
  | none => simp
  | some w =>
    rw [ne_eq, intercalate_insert_eq_iff hsep, hnone]
    simp only [Option.mem_def, Option.some.injEq, exists_eq_left']
    rw [not_and_or, not_not]

theorem WellBound.countsAsSet_stagingName : t.CountsAsSet p .stagingName ↔ t.NamesStaging p := by
  have hname : (t.without p.name).tableName = t.tableName := rfl
  rw [CountsAsSet, ne_eq, stagingName_eq_iff hname, valueWords, valueWords, ← ne_eq,
    ht.joined_without_iff hp rfl (by decide)]
  simp [NamesStaging]

theorem WellBound.countsAsSet_path : t.CountsAsSet p .path ↔ p.declared.value ≠ none := by
  rw [CountsAsSet, partitionPath_eq, partitionPath_eq, ht.joined_without_iff hp rfl (by decide)]
  cases p.declared.value with
  | none => simp
  | some v => simp [pathSegment_ne_empty]

theorem WellBound.countsAsSet_params : t.CountsAsSet p .params ↔ p.declared.value ≠ none := by
  rw [CountsAsSet, ht.partitionParams_find? hp]
  rfl

theorem WellBound.countsAsSet_loadItem : t.CountsAsSet p .loadItem ↔ p.declared.currentValue? ≠ none := by
  have hpartition : p.declared.isPartition = true := (List.mem_filter.1 hp).2
  constructor
  · rintro ⟨v, hv, hloads⟩ hnone
    -- from an empty setter comes nothing, and this is not the quoted name
    have hnothing : (p.withSetter "").setter v = "" := by
      rw [BoundColumn.setter, BoundColumn.withSetter, Template.substitutePairs, Template.substitute,
        Template.substituteChars, String.toList_empty, Template.pieces]
      rfl
    have hrows : (p.withSetter "").loadValue = p.quotedName := (p.withSetter "").loadValue_of_none hpartition hnone
    have hempty : p.quotedName = "" := by
      rw [← hrows, hloads, hnothing]
    rw [ht.quotedName (List.mem_of_mem_filter hp)] at hempty
    exact QuoteStyle.quote_ne_empty _ _ hempty
  · intro hset
    obtain ⟨v, hv⟩ := Option.ne_none_iff_exists'.1 hset
    have hgiven : ∀ template, (p.withSetter template).loadValue = (p.withSetter template).setter v :=
      fun template => (p.withSetter template).loadValue_of_value hpartition hv
    exact ⟨v, (Column.currentValue?_eq_some_iff.1 hv).1, hgiven⟩

theorem WellBound.countsAsSet_clause : t.CountsAsSet p .clause ↔ p.declared.currentValue? ≠ none := by
  have hcolumn : p ∈ t.columns := List.mem_of_mem_filter hp
  have hdeclared : p.declared ∈ t.toInstance.columns := List.mem_map_of_mem hcolumn
  have hpartition : p.declared.isPartition = true := (List.mem_filter.1 hp).2
  rw [CountsAsSet, Option.ne_none_iff_exists', ht.quotedName hcolumn]
  refine exists_congr fun v => ?_
  rw [BoundColumn.name, ht.mem_partitionTexts hdeclared, Column.fixedTo_iff, and_iff_right hpartition]

/-- Nothing stands behind the sign where an empty value is filled in, and only there. -/
theorem WellBound.dangles_iff (hname : BraceFree p.name) (params : Dict String) : t.Dangles params p ↔
    isName p.name.toList = true ∧ (params.find? p.name).or p.declared.value = some "" := by
  rw [dangles_iff_right, Template.substitute_slot hname, ht.partitionParams_find? hp, filledSlot]
  split
  · next h =>
    rw [and_iff_right h]
    cases (params.find? p.name).or p.declared.value with
    | none => simpa using Template.slot_ne_empty p.name
    | some v => simp
  · next h => exact iff_of_false (Template.slot_ne_empty p.name) fun hand => h hand.1

/-- All places tell the same value of a partition. -/
theorem WellBound.tellsValue {v : String} (hv : v ∈ p.declared.currentValue?) : t.TellsValue p v := by
  have hcolumn : p ∈ t.columns := List.mem_of_mem_filter hp
  have hdeclared : p.declared ∈ t.toInstance.columns := List.mem_map_of_mem hcolumn
  have hpartition : p.declared.isPartition = true := (List.mem_filter.1 hp).2
  have hvalue : p.declared.value = some v := (Column.currentValue?_eq_some_iff.1 hv).1
  constructor
  case stagingName => exact List.mem_filterMap.2 ⟨p, hp, by rw [hv, Option.map_some]⟩
  case path => exact List.mem_filterMap.2 ⟨p, hp, by rw [hvalue, Option.map_some]⟩
  case params => rw [ht.partitionParams_find? hp, hvalue]; rfl
  case loadItem => exact p.loadValue_of_value hpartition hv
  case clause =>
    rw [ht.quotedName hcolumn, BoundColumn.name, ht.mem_partitionTexts hdeclared, Column.fixedTo_iff]
    exact ⟨hpartition, hv⟩
  case condition =>
    intro hname
    rw [ht.comparison_direct hp hname, directComparison, scopedValue?, hvalue]
    rfl

end WellBound

/-- In which places a partition counts as set, and what they and its comparison say. -/
structure TellsPartition (t : Table) (p : BoundColumn) : Prop where
  /-- The path and the parameters ask for a value of any kind, the load item and the clause for one that is not
  empty, and so does the name of the staging table, which has to show it. -/
  stored : ∀ place, place = .path ∨ place = .params → (t.CountsAsSet p place ↔ p.declared.value ≠ none)
  current : ∀ place, place = .loadItem ∨ place = .clause →
    (t.CountsAsSet p place ↔ p.declared.currentValue? ≠ none)
  stagingName : t.CountsAsSet p .stagingName ↔ t.NamesStaging p
  /-- All places agree exactly when there is no value or the name of the staging table shows it. -/
  agree : (∀ a b : ValuePlace, t.CountsAsSet p a ↔ t.CountsAsSet p b) ↔
    p.declared.value = none ∨ t.NamesStaging p
  same : ∀ v ∈ p.declared.currentValue?, t.TellsValue p v
  /-- A comparison has nothing behind its sign exactly when an empty value is filled in. -/
  dangling : ∀ params : Dict String, BraceFree p.name →
    (t.Dangles params p ↔
      isName p.name.toList = true ∧ (params.find? p.name).or p.declared.value = some "")
  compared : ∀ params : Dict String, (∀ k, (t.partitionParams params).find? k ≠ some "") →
    ¬ t.Dangles params p

/-- A partition without a value counts as set nowhere. One with a value counts as set everywhere if its plain form
is to be seen in the name of the staging table, and else in the path and the parameters; if the value is empty, there
and nowhere else, and its comparison has nothing behind its sign. -/
theorem tells_partition {t : Table} (ht : t.Reachable) {p : BoundColumn} (hp : p ∈ t.partitions) :
    t.TellsPartition p := by
  have hbound := ht.wellBound
  have hname := hbound.countsAsSet_stagingName hp
  have hpath := hbound.countsAsSet_path hp
  have hparams := hbound.countsAsSet_params hp
  have hload := hbound.countsAsSet_loadItem hp
  have hclause := hbound.countsAsSet_clause hp
  have hcurrent : t.NamesStaging p → p.declared.currentValue? ≠ none := by
    rintro ⟨v, hv, _⟩ hnone
    rw [hnone] at hv
    cases hv
  have hstored : p.declared.currentValue? ≠ none → p.declared.value ≠ none := by
    rintro hset hnone
    exact hset (Column.currentValue?_eq_none_iff.2 fun v hv => by rw [hnone] at hv; cases hv)
  constructor
  case stored =>
    rintro place (rfl | rfl)
    · exact hpath
    · exact hparams
  case current =>
    rintro place (rfl | rfl)
    · exact hload
    · exact hclause
  case stagingName => exact hname
  case agree =>
    constructor
    · intro h
      by_cases hvalue : p.declared.value = none
      · exact .inl hvalue
      · exact .inr (hname.1 ((h .stagingName .path).2 (hpath.2 hvalue)))
    · intro h
      have hany : p.declared.value ≠ none ↔ t.NamesStaging p :=
        ⟨fun hset => h.resolve_left hset, fun hnames => hstored (hcurrent hnames)⟩
      have hfull : p.declared.currentValue? ≠ none ↔ t.NamesStaging p :=
        ⟨fun hset => h.resolve_left (hstored hset), hcurrent⟩
      have hall : ∀ place : ValuePlace, t.CountsAsSet p place ↔ t.NamesStaging p := by
        intro place
        cases place with
        | stagingName => exact hname
        | path => exact hpath.trans hany
        | params => exact hparams.trans hany
        | loadItem => exact hload.trans hfull
        | clause => exact hclause.trans hfull
      exact fun a b => (hall a).trans (hall b).symm
  case same => exact fun v hv => hbound.tellsValue hp hv
  case dangling => exact fun params hbraces => hbound.dangles_iff hp hbraces params
  case compared => exact fun params h => not_dangles h p

theorem mem_partitions_of_column? {t : Table} {name : String} {p : BoundColumn} (h : t.column? name = some p)
    (hpartition : p.isPartition = true) : p ∈ t.partitions ∧ p.name = name :=
  ⟨List.mem_filter.2 ⟨List.mem_of_find?_eq_some h, hpartition⟩, by simpa using List.find?_some h⟩

/-- The country of visits in Hive counts as set everywhere. -/
theorem country_told : ∃ (t : Table) (p : BoundColumn), t.Reachable ∧ p ∈ t.partitions ∧
    p.name = "country" ∧ t.TellsPartition p ∧ (∀ place, t.CountsAsSet p place) ∧ t.TellsValue p "'nl'" ∧
    ¬ t.Dangles Dict.empty p := by
  obtain ⟨t, p, ht, hcolumn, hpartition, hvalue⟩ : ∃ (t : Table) (p : BoundColumn), t.Reachable ∧
      t.column? "country" = some p ∧ p.isPartition = true ∧ p.declared.value = some "'nl'" := by
    have hbind : bind visitInstance .hive = .ok _ := rfl
    exact ⟨_, _, .bound visitInstance_declared hbind, rfl, rfl, rfl⟩
  obtain ⟨hp, hname⟩ := mem_partitions_of_column? hcolumn hpartition
  have hcurrent : "'nl'" ∈ p.declared.currentValue? := Column.currentValue?_eq_some_iff.2 ⟨hvalue, by decide⟩
  have htells := tells_partition ht hp
  have hnames : t.NamesStaging p := ⟨"'nl'", hcurrent, .inl (by cbv)⟩
  refine ⟨t, p, ht, hp, hname, htells, fun place => ?_, htells.same _ hcurrent, ?_⟩
  · exact (htells.agree.2 (.inr hnames) .stagingName place).1 (htells.stagingName.2 hnames)
  · rw [htells.dangling _ (by rw [hname]; decide), hvalue, hname]
    decide

/-- A day of visits in Hive that is set to nothing is in the path, in the parameters and in the condition, whose
comparison has nothing behind its sign, but in no other place. -/
theorem empty_day_told : ∃ (t : Table) (p : BoundColumn), t.Reachable ∧ p ∈ t.partitions ∧ p.name = "ds" ∧
    p.declared.value = some "" ∧ t.CountsAsSet p .path ∧ t.CountsAsSet p .params ∧
    ¬ t.CountsAsSet p .stagingName ∧ ¬ t.CountsAsSet p .loadItem ∧ ¬ t.CountsAsSet p .clause ∧
    t.partitionPath = "ds=/country=nl" ∧ t.stagingName = "stg_nl_visits" ∧ p.loadValue = "\x60ds\x60" ∧
    t.partitionEntries.map (·.text) = ["\x60ds\x60", "\x60country\x60 = 'nl'"] ∧
    t.scopedCondition {} " AND " = "\x60ds\x60 =  AND \x60country\x60 = 'nl'" ∧ t.Dangles Dict.empty p := by
  obtain ⟨t, p, ht, hcolumn, hpartition, hvalue, hpath, hstaging, hload, hentries, hcondition⟩ :
      ∃ (t : Table) (p : BoundColumn), t.Reachable ∧ t.column? "ds" = some p ∧ p.isPartition = true ∧
      p.declared.value = some "" ∧ t.partitionPath = "ds=/country=nl" ∧ t.stagingName = "stg_nl_visits" ∧
      p.loadValue = "\x60ds\x60" ∧
      t.partitionEntries.map (·.text) = ["\x60ds\x60", "\x60country\x60 = 'nl'"] ∧
      t.scopedCondition {} " AND " = "\x60ds\x60 =  AND \x60country\x60 = 'nl'" := by
    have hbind : bind visitInstance .hive = .ok _ := rfl
    have hbound := Reachable.bound visitInstance_declared hbind
    exact ⟨_, _, hbound.step (.setValue "ds" ""), rfl, rfl, rfl, by cbv, by cbv, by cbv, by cbv, by cbv⟩
  obtain ⟨hp, hname⟩ := mem_partitions_of_column? hcolumn hpartition
  have hbound := ht.wellBound
  have hcurrent : p.declared.currentValue? = none :=
    Column.currentValue?_eq_none_iff.2 fun v hv => (Option.some.inj (hvalue.symm.trans hv)).symm
  have hset : p.declared.value ≠ none := by
    rw [hvalue]
    exact Option.some_ne_none _
  refine ⟨t, p, ht, hp, hname, hvalue, (hbound.countsAsSet_path hp).2 hset, (hbound.countsAsSet_params hp).2 hset,
    ?_, ?_, ?_, hpath, hstaging, hload, hentries, hcondition, ?_⟩
  · rw [hbound.countsAsSet_stagingName hp]
    rintro ⟨v, hv, _⟩
    rw [hcurrent] at hv
    cases hv
  · exact fun h => (hbound.countsAsSet_loadItem hp).1 h hcurrent
  · exact fun h => (hbound.countsAsSet_clause hp).1 h hcurrent
  · rw [hbound.dangles_iff hp (by rw [hname]; decide), hvalue, hname]
    exact ⟨by decide, rfl⟩

end Table

end Warehouse
