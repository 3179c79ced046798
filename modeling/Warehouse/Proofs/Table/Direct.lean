import Warehouse.Proofs.Table.Comparisons
import Warehouse.Proofs.Template.Closing

/-!
The condition of a scope against the same condition with its values written at once. The two agree
wherever the partitions are named by identifiers, whatever their values are; the value of a partition of
any other name is never read, and its slot is left in the text. Main statement: what is written for each
partition and by which separator.
-/

namespace Warehouse

open Template (BraceFree Closed Enclosed filledSlot isName slot substitute)

theorem Template.braceFree_of_isName {name : String} (h : isName name.toList = true) :
    BraceFree name := by
  obtain ⟨_, hall⟩ := Bool.and_eq_true_iff.1 h
  have hpart : ∀ x ∈ name.toList, isNamePart x = true := List.all_eq_true.1 hall
  constructor
  · intro hmem
    exact absurd (hpart _ hmem) (by decide)
  · intro hmem
    exact absurd (hpart _ hmem) (by decide)

theorem QuoteStyle.cuts_mark (q : QuoteStyle) : Template.cuts q.mark = true := by
  cases q <;> decide

namespace Table

/-- The partitions that a scope compares, in order. -/
def compared (t : Table) (scope : Scope) : List BoundColumn :=
  t.partitions.filter fun p => !scope.ignored.contains p.name

/-- The value that a scope has for a partition: its parameter, or else the partition's own value. -/
def scopedValue? (params : Dict String) (p : BoundColumn) : Option String :=
  (params.find? p.name).or p.declared.value

/-- The comparison of a partition, its value written at once. Without a value it keeps its slot. -/
def directComparison (params : Dict String) (p : BoundColumn) : String :=
  p.quotedName ++ " = " ++ (scopedValue? params p).getD (slot p.name)

/-- The condition of a scope that asks for nothing else, its values written at once. -/
def directCondition (t : Table) (scope : Scope) (sep : String) : String :=
  String.intercalate sep ((t.compared scope).map (directComparison scope.params))

theorem partitionParams_insert (t : Table) (params : Dict String) (name value : String) :
    ∀ k, k ≠ name → (t.partitionParams (params.insert name value)).find? k =
      (t.partitionParams params).find? k := by
  intro k hk
  rw [partitionParams, Dict.find?_union, Dict.find?_insert, if_neg hk, partitionParams,
    Dict.find?_union]

/-- A parameter that no slot can name is never read. -/
theorem scopedCondition_insert (t : Table) (scope : Scope) (sep : String) {name : String}
    (hname : isName name.toList = false) (value : String) :
    t.scopedCondition { scope with params := scope.params.insert name value } sep =
      t.scopedCondition scope sep := by
  rw [scopedCondition, scopedCondition]
  refine Template.substitute_congr (fun k hk => ?_) _
  refine t.partitionParams_insert scope.params name value k ?_
  rintro rfl
  rw [hname] at hk
  exact Bool.false_ne_true hk

section WellBound

variable {t : Table} (ht : t.WellBound)
include ht

/-- A comparison starts with a quotation mark and ends in a closing brace before it is filled in. -/
theorem WellBound.enclosed {p : BoundColumn} (hp : p ∈ t.columns) :
    Enclosed (p.quotedName ++ " = " ++ slot p.name).toList := by
  have hquoted : p.quotedName = t.vocabulary.columnQuote.quote p.name := ht.quotedName hp
  constructor
  · rw [hquoted, QuoteStyle.quote, QuoteStyle.quoteChars, String.toList_append,
      String.toList_append, String.toList_ofList, List.cons_append, List.cons_append]
    exact ⟨_, _, rfl, QuoteStyle.cuts_mark _⟩
  · intro c hc
    rw [String.toList_append, Template.toList_slot, ← List.cons_append, ← List.append_assoc,
      List.getLast?_concat, Option.mem_def] at hc
    exact (Option.some.inj hc).symm

theorem WellBound.scopedCondition_join {scope : Scope} (hc : scope.condition.getD "" = "")
    (sep : String) : t.scopedCondition scope sep =
      String.intercalate (substitute sep (t.partitionParams scope.params).find?)
        ((t.compared scope).map (t.comparison scope.params)) := by
  have hnothing : (scope.condition.filter (· != "")).toList = [] := by
    cases hcondition : scope.condition with
    | none => rfl
    | some c =>
      have hempty : c = "" := by simpa [hcondition] using hc
      simp [hempty]
  rw [scopedCondition, partitionCondition, partitionConditions, hnothing, List.append_nil,
    Template.substitute_intercalate_enclosed, List.map_map]
  · rfl
  · intro part hpart
    obtain ⟨p, hp, rfl⟩ := List.mem_map.1 hpart
    exact ht.enclosed (List.mem_of_mem_filter (List.mem_of_mem_filter hp))

theorem WellBound.comparison_direct {p : BoundColumn} (hp : p ∈ t.partitions)
    (hname : isName p.name.toList = true) (params : Dict String) :
    t.comparison params p = directComparison params p := by
  rw [ht.comparison_eq hp (Template.braceFree_of_isName hname), filledSlot, if_pos hname,
    directComparison, scopedValue?]

/-- A name without braces that is no identifier keeps its slot, so writing the value at once gives the
same only if there is no value, or if the value is that slot. -/
theorem WellBound.comparison_eq_direct_iff {p : BoundColumn} (hp : p ∈ t.partitions)
    (hname : BraceFree p.name) (params : Dict String) :
    t.comparison params p = directComparison params p ↔
      isName p.name.toList = true ∨ ∀ v ∈ scopedValue? params p, v = slot p.name := by
  by_cases h : isName p.name.toList = true
  · exact iff_of_true (ht.comparison_direct hp h params) (Or.inl h)
  · have hkept : t.comparison params p = p.quotedName ++ " = " ++ slot p.name := by
      rw [ht.comparison_eq hp hname, filledSlot, if_neg h]
    rw [hkept, directComparison, String.append_right_inj]
    cases scopedValue? params p with
    | none => simp
    | some v => simp [h, eq_comm]

end WellBound

/-- A scope that asks for nothing else is written as its comparisons, in the order of the columns. Each of
them is filled in on both sides, and so is what joins them. Where the name of a partition is an identifier
this is the same as writing the value at once: the parameter, or else the partition's own value, or the
slot if there is neither. A parameter of any other name is never read; if the name holds no braces, its
slot stays where the value should be. -/
theorem scopedCondition_written {t : Table} (ht : t.Reachable) {scope : Scope}
    (hc : scope.condition.getD "" = "") (sep : String) :
    t.scopedCondition scope sep =
      String.intercalate (substitute sep (t.partitionParams scope.params).find?)
        ((t.compared scope).map (t.comparison scope.params)) ∧
    (∀ p ∈ t.compared scope, t.comparison scope.params p =
      substitute p.quotedName (t.partitionParams scope.params).find? ++ " = " ++
        substitute (slot p.name) (t.partitionParams scope.params).find?) ∧
    (∀ p ∈ t.compared scope, isName p.name.toList = true →
      t.comparison scope.params p = directComparison scope.params p) ∧
    (∀ p ∈ t.compared scope, BraceFree p.name →
      (t.comparison scope.params p = directComparison scope.params p ↔
        isName p.name.toList = true ∨ ∀ v ∈ scopedValue? scope.params p, v = slot p.name)) ∧
    (∀ name value, isName name.toList = false →
      t.scopedCondition { scope with params := scope.params.insert name value } sep =
        t.scopedCondition scope sep) ∧
    ((∀ p ∈ t.compared scope, isName p.name.toList = true) → '\x7b' ∉ sep.toList →
      t.scopedCondition scope sep = t.directCondition scope sep) := by
  have hjoin := ht.wellBound.scopedCondition_join hc sep
  have hdirect : ∀ p ∈ t.compared scope, isName p.name.toList = true →
      t.comparison scope.params p = directComparison scope.params p := by
    intro p hp hname
    exact ht.wellBound.comparison_direct (List.mem_of_mem_filter hp) hname scope.params
  refine ⟨hjoin, fun p _ => t.comparison_sides scope.params p, hdirect, ?_, ?_, ?_⟩
  · intro p hp hname
    exact ht.wellBound.comparison_eq_direct_iff (List.mem_of_mem_filter hp) hname scope.params
  · intro name value hname
    exact t.scopedCondition_insert scope sep hname value
  · intro hnames hsep
    have hplain : substitute sep (t.partitionParams scope.params).find? = sep := by
      have := Template.substitute_append hsep "" (t.partitionParams scope.params).find?
      simpa [substitute, Template.substituteChars, Template.pieces] using this
    rw [hjoin, hplain, directCondition]
    exact congrArg _ (List.map_congr_left fun p hp => hdirect p hp (hnames p hp))

/-- The scope of one day of the table of visits. -/
def visitDay : Scope where
  params := Dict.ofList [("ds", "'\x7bday\x7d'")]

theorem visits_scopedCondition_written : ∃ t : Table, t.Reachable ∧
    t.scopedCondition visitDay " AND " = t.directCondition visitDay " AND " ∧
    t.scopedCondition visitDay " AND " = "\"ds\" = '\x7bday\x7d' AND \"country\" = 'nl'" := by
  obtain ⟨t, ht, hnames, htext⟩ : ∃ t : Table, t.Reachable ∧
      (∀ p ∈ t.compared visitDay, isName p.name.toList = true) ∧
      t.scopedCondition visitDay " AND " =
        "\"ds\" = '\x7bday\x7d' AND \"country\" = 'nl'" := by
    have hbind : bind visitInstance .presto = .ok _ := rfl
    exact ⟨_, .bound visitInstance_declared hbind, by decide, by cbv⟩
  obtain ⟨_, _, _, _, _, hdirect⟩ :=
    @scopedCondition_written t ht visitDay rfl " AND "
  exact ⟨t, ht, hdirect hnames (by decide), htext⟩

/-- The table with one more partition, of this name and value. -/
def partitionedBy (t : Table) (name value : String) : Table :=
  t.after (.addColumn { (Column.scalar name .varchar).asPartition with value := some value })

/-- The value of a partition that is named by no identifier is not written; a name between braces is
itself filled in, and so is a separator. -/
theorem scopedCondition_unfilled : ∃ t : Table, t.Reachable ∧
    (t.partitionedBy "event-date" "'2020-01-01'").Reachable ∧
    (t.partitionedBy "\x7bcountry\x7d" "'be'").Reachable ∧
    (t.partitionedBy "event-date" "'2020-01-01'").scopedCondition { ignored := ["ds", "country"] } " AND " =
      "\"event-date\" = \x7bevent-date\x7d" ∧
    (t.partitionedBy "event-date" "'2020-01-01'").directCondition { ignored := ["ds", "country"] } " AND " =
      "\"event-date\" = '2020-01-01'" ∧
    (t.partitionedBy "\x7bcountry\x7d" "'be'").scopedCondition { ignored := ["ds"] } " AND " =
      "\"country\" = 'nl' AND \"'nl'\" = \x7b'nl'\x7d" ∧
    (t.partitionedBy "\x7bcountry\x7d" "'be'").directCondition { ignored := ["ds"] } " AND " =
      "\"country\" = 'nl' AND \"\x7bcountry\x7d\" = 'be'" ∧
    t.scopedCondition visitDay " \x7bcountry\x7d " =
      "\"ds\" = '\x7bday\x7d' 'nl' \"country\" = 'nl'" ∧
    t.directCondition visitDay " \x7bcountry\x7d " =
      "\"ds\" = '\x7bday\x7d' \x7bcountry\x7d \"country\" = 'nl'" := by
  have hbind : bind visitInstance .presto = .ok _ := rfl
  have hbound := Reachable.bound visitInstance_declared hbind
  exact ⟨_, hbound, hbound.step _, hbound.step _, by cbv, by cbv, by cbv, by cbv, by cbv, by cbv⟩

end Table

end Warehouse
