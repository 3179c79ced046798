import Warehouse.Proofs.Condition.Reading
import Warehouse.Proofs.Statement.Restriction
import Warehouse.Proofs.Table.Direct

/-!
What a condition of a scope's own does to the statements about its partition. It is put behind the equalities
of the partition as it is, so it narrows the statement where it has a single alternative. Each other alternative
is read on its own, and rows that meet one are in the statement whatever their partition.
-/

namespace Warehouse

open Template (isName substitute)

namespace Condition

/-- Whether a row meets a condition as it is written. -/
def Holds (row : List Token → Bool) (text : String) : Prop :=
  ∃ ts, tokens? text = some ts ∧ truth row ts = true

theorem holds_iff {row : List Token → Bool} {text : String} {ts : List Token}
    (h : tokens? text = some ts) : Holds row text ↔ truth row ts = true := by
  constructor
  · rintro ⟨us, hus, htruth⟩
    rw [h] at hus
    cases hus
    exact htruth
  · exact fun htruth => ⟨ts, h, htruth⟩

/-- The tokens of texts that are joined with AND. -/
theorem tokens?_conjoin {α : Type} {text : α → String} {tokens : α → List Token} {last : String}
    {ts : List Token} (hlast : tokens? last = some ts) : ∀ {l : List α},
      (∀ x ∈ l, tokens? (text x) = some (tokens x)) →
      tokens? (String.intercalate " AND " (l.map text ++ [last])) = some (conjoin (l.map tokens) ts)
  | [], _ => by
    rw [List.map_nil, List.nil_append, String.intercalate_singleton, hlast]
    rfl
  | x :: l, h => by
    obtain ⟨hx, h⟩ := List.forall_mem_cons.1 h
    rw [List.map_cons, List.cons_append, String.intercalate_cons_of_ne_nil (by simp),
      tokens?_and hx (tokens?_conjoin hlast h)]
    rfl

end Condition

theorem Query.text_where (q : Query) : ∃ ending, q.text =
    "SELECT " ++ String.intercalate ", " q.items ++ " FROM " ++ q.source ++ whereClause q.condition ++
      ending :=
  ⟨_, by rw [Query.text, String.append_assoc]⟩

open Condition (AtomOf Holds Operand Token alternatives closedFrom conjoin group? holds_iff tokens?
  truth)

namespace Table

/-- A condition of the scope's own, filled in. -/
def filled (t : Table) (scope : Scope) (condition : String) : String :=
  substitute condition (t.partitionParams scope.params).find?

theorem filled_empty (t : Table) (scope : Scope) : t.filled scope "" = "" := by
  simp [filled, substitute, Template.substituteChars, Template.pieces]

/-- Whether each partition in scope is named by an identifier and has a value that nothing parts. -/
def InScope (t : Table) (scope : Scope) : Prop :=
  ∀ p ∈ t.compared scope, isName p.name.toList = true ∧ ∃ value ts,
    scopedValue? scope.params p = some value ∧ tokens? value = some ts ∧ Operand ts

/-- The tokens of the equality of a partition. -/
def equalityTokens (params : Dict String) (p : BoundColumn) : List Token :=
  (tokens? (directComparison params p)).getD []

section Own

variable {t : Table} (ht : t.WellBound) {scope : Scope} (hset : t.InScope scope)
include ht hset

theorem WellBound.equality_operand {p : BoundColumn} (hp : p ∈ t.compared scope) :
    tokens? (directComparison scope.params p) = some (equalityTokens scope.params p) ∧
      Operand (equalityTokens scope.params p) ∧ group? (equalityTokens scope.params p) = none := by
  obtain ⟨_, value, ts, hvalue, hts, hoperand⟩ := hset p hp
  have hquoted : p.quotedName = t.vocabulary.columnQuote.quote p.name :=
    ht.quotedName (List.mem_of_mem_filter (List.mem_of_mem_filter hp))
  obtain ⟨equality, htokens, hequality, hgroup⟩ :=
    Condition.operand_equality t.vocabulary.columnQuote p.name hts hoperand
  have htext : tokens? (directComparison scope.params p) = some equality := by
    rw [directComparison, hquoted, hvalue, Option.getD_some, htokens]
  rw [equalityTokens, htext, Option.getD_some]
  exact ⟨rfl, hequality, hgroup⟩

variable {c : String} (hc : scope.condition = some c) (hne : t.filled scope c ≠ "")
include hc hne

theorem WellBound.conditions_own : t.conditions scope =
    (t.compared scope).map (directComparison scope.params) ++ [t.filled scope c] := by
  have hcne : c ≠ "" := by
    rintro rfl
    exact hne (t.filled_empty scope)
  have hown : t.furtherConditions scope = [t.filled scope c] := by
    simp [furtherConditions, hc, hcne, filled]
  have hcompared : (t.comparisons scope).map Prod.snd =
      (t.compared scope).map (directComparison scope.params) := by
    rw [comparisons, List.map_map]
    refine List.map_congr_left fun p hp => ?_
    exact ht.comparison_direct (List.mem_of_mem_filter hp) (hset p hp).1 scope.params
  rw [conditions, hown, hcompared]

variable {ts : List Token} (hts : tokens? (t.filled scope c) = some ts)
include hts

theorem WellBound.tokens?_scopedCondition : tokens? (t.scopedCondition scope " AND ") =
    some (conjoin ((t.compared scope).map (equalityTokens scope.params)) ts) := by
  rw [scopedCondition_eq t scope separates_and, ht.conditions_own hset hc hne]
  exact Condition.tokens?_conjoin hts fun p hp => (ht.equality_operand hset hp).1

/-- The condition of the scope is the equalities and what the scope asks, or any alternative of this but the
first. -/
theorem WellBound.scopedCondition_holds (row : List Token → Bool) :
    Holds row (t.scopedCondition scope " AND ") ↔
      ((∀ p ∈ t.compared scope, Holds row (directComparison scope.params p)) ∧
          Holds row (t.filled scope c)) ∨
        ∃ a ∈ (alternatives ts).tail, truth row a = true := by
  have hoperands : ∀ e ∈ (t.compared scope).map (equalityTokens scope.params), Operand e := by
    intro e he
    obtain ⟨p, hp, rfl⟩ := List.mem_map.1 he
    exact (ht.equality_operand hset hp).2.1
  have hequalities : (∀ e ∈ (t.compared scope).map (equalityTokens scope.params), truth row e = true) ↔
      ∀ p ∈ t.compared scope, Holds row (directComparison scope.params p) := by
    rw [List.forall_mem_map]
    exact forall_congr' fun p => forall_congr' fun hp =>
      (holds_iff (ht.equality_operand hset hp).1).symm
  rw [holds_iff (ht.tokens?_scopedCondition hset hc hne hts), Condition.truth_conjoin hoperands,
    hequalities, holds_iff hts]

/-- An alternative that does not state the equalities itself lets in rows of other partitions. -/
theorem WellBound.scopedCondition_widened {a : List Token} (ha : a ∈ (alternatives ts).tail)
    (hatoms : ∀ p ∈ t.compared scope, ¬ AtomOf a (equalityTokens scope.params p)) :
    ∃ row, Holds row (t.scopedCondition scope " AND ") ∧
      ∀ p ∈ t.compared scope, ¬ Holds row (directComparison scope.params p) := by
  -- a row of which all holds but the equalities
  refine ⟨fun f => decide (∀ p ∈ t.compared scope, f ≠ equalityTokens scope.params p), ?_, ?_⟩
  · rw [ht.scopedCondition_holds hset hc hne hts]
    refine .inr ⟨a, ha, Condition.truth_of_atoms a fun f hf => decide_eq_true ?_⟩
    rintro p hp rfl
    exact hatoms p hp hf
  · intro p hp hholds
    obtain ⟨htokens, hoperand, hgroup⟩ := ht.equality_operand hset hp
    rw [holds_iff htokens, hoperand.truth_eq, Condition.factorTruth, hgroup] at hholds
    exact of_decide_eq_true hholds p hp rfl

end Own

/-! ### The statements -/

section Statements

variable {t : Table} {scope : Scope} (hne : t.conditions scope ≠ [])
include hne

theorem restriction_conditions :
    restriction (t.conditions scope) = " WHERE " ++ t.scopedCondition scope " AND " := by
  rw [restriction, if_neg hne, scopedCondition_eq t scope separates_and]

theorem deletePartition_where (hd : t.dialect ≠ .hive) : t.deletePartition scope =
    "DELETE FROM " ++ t.reference scope.suffix ++ " WHERE " ++ t.scopedCondition scope " AND " ++
      t.dialect.terminator := by
  have hrestricted := t.deletePartition_restricted scope
  generalize t.deletePartition scope = sql at hrestricted ⊢
  cases hrestricted with
  | delete _ => rw [restriction_conditions hne, ← String.append_assoc]
  | drop h => exact absurd h hd

theorem anonymisePartition_where (hd : t.dialect ≠ .hive) (hparts : ∀ c ∈ t.conditions scope, c ≠ "")
    {sql : String} (h : t.anonymisePartition scope = some sql) : ∃ assignments, sql =
      "UPDATE " ++ t.reference scope.suffix ++ " SET " ++ assignments ++ " WHERE " ++
        t.scopedCondition scope " AND " ++ t.dialect.terminator := by
  cases anonymisePartition_restricted hparts h with
  | update _ assignments =>
    exact ⟨assignments, by rw [restriction_conditions hne, ← String.append_assoc]⟩
  | overwrite hhive _ => exact absurd hhive hd

theorem selectPartition_where (hparts : ∀ c ∈ t.conditions scope, c ≠ "") {o : SelectOptions}
    (ho : o.condition.getD "" = "") : ∃ items ending, t.selectPartition o scope =
      "SELECT " ++ items ++ " FROM " ++ t.reference o.suffix ++ " WHERE " ++
        t.scopedCondition scope " AND " ++ ending := by
  have hscoped : t.scopedCondition scope " AND " ≠ "" := by
    rw [scopedCondition_eq t scope separates_and]
    exact intercalate_ne_empty hne hparts
  have hcondition : (t.query (t.scopedOptions o scope)).condition = t.scopedCondition scope " AND " := by
    simp [query, scopedOptions, ho, hscoped]
  have hsource : (t.query (t.scopedOptions o scope)).source = t.reference o.suffix := rfl
  obtain ⟨ending, htext⟩ := (t.query (t.scopedOptions o scope)).text_where
  refine ⟨String.intercalate ", " (t.query (t.scopedOptions o scope)).items, ending, ?_⟩
  rw [selectPartition, selectText, htext, hsource, hcondition, whereClause, if_neg hscoped,
    ← String.append_assoc]

end Statements

theorem filled_parenthesised (t : Table) (scope : Scope) (c : String) :
    t.filled scope ("(" ++ c ++ ")") = "(" ++ t.filled scope c ++ ")" := by
  have hclose : Template.Separates ")".toList := ⟨')', _, rfl, by decide, by decide⟩
  have hsplit : "(" ++ c ++ ")" = "(" ++ c ++ ")" ++ "" := String.append_empty.symm
  rw [filled, hsplit, Template.substitute_separated _ hclose, ← filled, ← filled, filled_empty,
    String.append_empty, filled, Template.substitute_append (by decide), filled]

/-- What becomes of a condition of the scope's own, filled in as these tokens. -/
structure OwnConditionRead (t : Table) (scope : Scope) (condition : String) (ts : List Token) : Prop where
  /-- The statements ask for the condition of the scope and for nothing else. -/
  delete : t.deletePartition scope = "DELETE FROM " ++ t.reference scope.suffix ++ " WHERE " ++
    t.scopedCondition scope " AND " ++ t.dialect.terminator
  anonymise : ∀ sql, t.anonymisePartition scope = some sql → ∃ assignments, sql =
    "UPDATE " ++ t.reference scope.suffix ++ " SET " ++ assignments ++ " WHERE " ++
      t.scopedCondition scope " AND " ++ t.dialect.terminator
  select : ∀ o : SelectOptions, o.condition.getD "" = "" → ∃ items ending, t.selectPartition o scope =
    "SELECT " ++ items ++ " FROM " ++ t.reference o.suffix ++ " WHERE " ++
      t.scopedCondition scope " AND " ++ ending
  /-- A row meets it that meets the equalities and what the scope asks, or any alternative of this but the
  first. -/
  holds : ∀ row, Holds row (t.scopedCondition scope " AND ") ↔
    ((∀ p ∈ t.compared scope, Holds row (directComparison scope.params p)) ∧
        Holds row (t.filled scope condition)) ∨
      ∃ a ∈ (alternatives ts).tail, truth row a = true
  /-- A single alternative narrows the partition. -/
  narrowed : alternatives ts = [ts] → ∀ row, Holds row (t.scopedCondition scope " AND ") ↔
    (∀ p ∈ t.compared scope, Holds row (directComparison scope.params p)) ∧
      Holds row (t.filled scope condition)
  /-- So does any condition between parentheses. -/
  parenthesised : ∀ inner us, condition = "(" ++ inner ++ ")" →
    tokens? (t.filled scope inner) = some us → closedFrom 0 us = true →
    ∀ row, Holds row (t.scopedCondition scope " AND ") ↔
      (∀ p ∈ t.compared scope, Holds row (directComparison scope.params p)) ∧
        Holds row (t.filled scope inner)
  /-- A further alternative that does not state the equalities lets in rows of other partitions. -/
  widened : ∀ a ∈ (alternatives ts).tail,
    (∀ p ∈ t.compared scope, ¬ AtomOf a (equalityTokens scope.params p)) →
    ∃ row, Holds row (t.scopedCondition scope " AND ") ∧
      ∀ p ∈ t.compared scope, ¬ Holds row (directComparison scope.params p)

/-- The condition of a scope with a condition of its own is in the statements as it is joined: the equalities
of the partition and what the scope asks, or any alternative of this but the first. -/
theorem ownCondition_read {t : Table} (ht : t.Reachable) (hd : t.dialect ≠ .hive) {scope : Scope}
    {c : String} (hc : scope.condition = some c) (hset : t.InScope scope)
    (hne : t.filled scope c ≠ "") {ts : List Token} (hts : tokens? (t.filled scope c) = some ts) :
    t.OwnConditionRead scope c ts := by
  have hbound := ht.wellBound
  have hconditions := hbound.conditions_own hset hc hne
  have hnonempty : t.conditions scope ≠ [] := by
    rw [hconditions]
    exact List.append_ne_nil_of_right_ne_nil _ (List.cons_ne_nil _ _)
  have hparts : ∀ part ∈ t.conditions scope, part ≠ "" := by
    rw [hconditions]
    intro part hpart
    rcases List.mem_append.1 hpart with hpart | hpart
    · obtain ⟨p, _, rfl⟩ := List.mem_map.1 hpart
      simp [directComparison, String.append_eq_empty_iff]
    · rw [List.mem_singleton.1 hpart]
      exact hne
  have hholds := hbound.scopedCondition_holds hset hc hne hts
  have hnarrowed : alternatives ts = [ts] → ∀ row, Holds row (t.scopedCondition scope " AND ") ↔
      (∀ p ∈ t.compared scope, Holds row (directComparison scope.params p)) ∧
        Holds row (t.filled scope c) := by
    intro h row
    rw [hholds row, h]
    simp
  constructor
  case delete => exact deletePartition_where hnonempty hd
  case anonymise => exact fun sql hsql => anonymisePartition_where hnonempty hd hparts hsql
  case select => exact fun o ho => selectPartition_where hnonempty hparts ho
  case holds => exact hholds
  case narrowed => exact hnarrowed
  case parenthesised =>
    rintro inner us rfl hus hclosed row
    rw [filled_parenthesised] at hts
    obtain rfl : Token.sign '(' :: (us ++ [.sign ')']) = ts :=
      Option.some.inj ((Condition.tokens?_parenthesised hus).symm.trans hts)
    have hread : Holds row (t.filled scope ("(" ++ inner ++ ")")) ↔ Holds row (t.filled scope inner) := by
      rw [filled_parenthesised, holds_iff hts, holds_iff hus, Condition.truth_parenthesised hclosed]
    rw [hnarrowed (Condition.operand_parenthesised hclosed).alternative row, hread]
  case widened => exact fun a ha hatoms => hbound.scopedCondition_widened hset hc hne hts ha hatoms

/-! ### Two visits of a day -/

/-- A row meets the equalities of its own values. -/
def ofRow (values : List (String × Token)) : List Token → Bool
  | [.quoted _ name, .sign '=', value] => values.lookup (String.ofList name) == some value
  | _ => false

/-- What is asked of two visits. -/
def eitherVisit : String := "\"id\" = 1 OR \"id\" = 2"

/-- The scope of one day with a condition of its own. -/
def visitsOfDay (condition : String) : Scope where
  condition := some condition
  params := Dict.ofList [("ds", "'2020-01-01'")]

theorem visitsOfDay_inScope {t : Table} {condition : String}
    (h : (t.compared (visitsOfDay condition)).map (fun p =>
        (p.name, scopedValue? (visitsOfDay condition).params p)) =
      [("ds", some "'2020-01-01'"), ("country", some "'nl'")]) : t.InScope (visitsOfDay condition) := by
  intro p hp
  have hmem := List.mem_map_of_mem (f := fun p : BoundColumn =>
    (p.name, scopedValue? (visitsOfDay condition).params p)) hp
  rw [h, List.mem_cons, List.mem_singleton, Prod.mk.injEq, Prod.mk.injEq] at hmem
  rcases hmem with ⟨hname, hvalue⟩ | ⟨hname, hvalue⟩
  · exact ⟨by rw [hname]; decide, _, _, hvalue, rfl, ⟨rfl, rfl, rfl⟩⟩
  · exact ⟨by rw [hname]; decide, _, _, hvalue, rfl, ⟨rfl, rfl, rfl⟩⟩

/-- Between parentheses the condition narrows the partition. -/
theorem visits_narrowed : ∃ t : Table, t.Reachable ∧
    t.deletePartition (visitsOfDay ("(" ++ eitherVisit ++ ")")) =
      "DELETE FROM \"web\".\"visits\" WHERE \"ds\" = '2020-01-01' AND \"country\" = 'nl' AND " ++
        "(\"id\" = 1 OR \"id\" = 2)" ∧
    ∀ row, Holds row (t.scopedCondition (visitsOfDay ("(" ++ eitherVisit ++ ")")) " AND ") ↔
      (∀ p ∈ t.compared (visitsOfDay ("(" ++ eitherVisit ++ ")")),
          Holds row (directComparison (visitsOfDay ("(" ++ eitherVisit ++ ")")).params p)) ∧
        Holds row (t.filled (visitsOfDay ("(" ++ eitherVisit ++ ")")) eitherVisit) := by
  obtain ⟨t, ht, hd, hcompared, htext, hown, hinner⟩ : ∃ t : Table, t.Reachable ∧ t.dialect ≠ .hive ∧
      (t.compared (visitsOfDay ("(" ++ eitherVisit ++ ")"))).map (fun p =>
          (p.name, scopedValue? (visitsOfDay ("(" ++ eitherVisit ++ ")")).params p)) =
        [("ds", some "'2020-01-01'"), ("country", some "'nl'")] ∧
      t.deletePartition (visitsOfDay ("(" ++ eitherVisit ++ ")")) =
        "DELETE FROM \"web\".\"visits\" WHERE \"ds\" = '2020-01-01' AND \"country\" = 'nl' AND " ++
          "(\"id\" = 1 OR \"id\" = 2)" ∧
      t.filled (visitsOfDay ("(" ++ eitherVisit ++ ")")) ("(" ++ eitherVisit ++ ")") =
        "(\"id\" = 1 OR \"id\" = 2)" ∧
      t.filled (visitsOfDay ("(" ++ eitherVisit ++ ")")) eitherVisit = "\"id\" = 1 OR \"id\" = 2" := by
    have hbind : bind visitInstance .presto = .ok _ := rfl
    exact ⟨_, .bound visitInstance_declared hbind, Dialect.noConfusion, by cbv, by cbv, by cbv, by cbv⟩
  have hread := ownCondition_read ht hd rfl (visitsOfDay_inScope hcompared) (by simp [hown])
    (by rw [hown]; rfl)
  exact ⟨t, ht, htext, hread.parenthesised _ _ rfl (by rw [hinner]; rfl) rfl⟩

/-- The row of a visit on another day and in another country. -/
def otherVisit : List Token → Bool :=
  ofRow [("id", .word ['2']), ("ds", .quoted '\x27' "2021-01-01".toList),
    ("country", .quoted '\x27' ['b', 'e'])]

/-- Without parentheses the second alternative is read on its own, and the statement deletes a row of another
partition. -/
theorem visits_widened : ∃ t : Table, t.Reachable ∧ t.dialect ≠ .hive ∧
    t.InScope (visitsOfDay eitherVisit) ∧
    t.deletePartition (visitsOfDay eitherVisit) =
      "DELETE FROM \"web\".\"visits\" WHERE \"ds\" = '2020-01-01' AND \"country\" = 'nl' AND " ++
        "\"id\" = 1 OR \"id\" = 2" ∧
    Holds otherVisit (t.scopedCondition (visitsOfDay eitherVisit) " AND ") ∧
    ∀ p ∈ t.compared (visitsOfDay eitherVisit),
      ¬ Holds otherVisit (directComparison (visitsOfDay eitherVisit).params p) := by
  obtain ⟨t, ht, hd, hcompared, htext, hown, hequalities⟩ : ∃ t : Table, t.Reachable ∧
      t.dialect ≠ .hive ∧
      (t.compared (visitsOfDay eitherVisit)).map (fun p =>
          (p.name, scopedValue? (visitsOfDay eitherVisit).params p)) =
        [("ds", some "'2020-01-01'"), ("country", some "'nl'")] ∧
      t.deletePartition (visitsOfDay eitherVisit) =
        "DELETE FROM \"web\".\"visits\" WHERE \"ds\" = '2020-01-01' AND \"country\" = 'nl' AND " ++
          "\"id\" = 1 OR \"id\" = 2" ∧
      t.filled (visitsOfDay eitherVisit) eitherVisit = "\"id\" = 1 OR \"id\" = 2" ∧
      (t.compared (visitsOfDay eitherVisit)).map
          (directComparison (visitsOfDay eitherVisit).params) =
        ["\"ds\" = '2020-01-01'", "\"country\" = 'nl'"] := by
    have hbind : bind visitInstance .presto = .ok _ := rfl
    exact ⟨_, .bound visitInstance_declared hbind, Dialect.noConfusion, by cbv, by cbv, by cbv, by cbv⟩
  have hset := visitsOfDay_inScope hcompared
  refine ⟨t, ht, hd, hset, htext, ?_, ?_⟩
  · rw [ht.wellBound.scopedCondition_holds hset rfl (by simp [hown]) (by rw [hown]; rfl)]
    refine .inr ⟨_, List.mem_singleton.2 rfl, ?_⟩
    rw [Condition.truth_eq]
    rfl
  · intro p hp
    have hmem := List.mem_map_of_mem (f := directComparison (visitsOfDay eitherVisit).params) hp
    rw [hequalities, List.mem_cons, List.mem_singleton] at hmem
    rcases hmem with h | h
    all_goals
      rw [h, holds_iff rfl, Condition.truth_eq]
      decide

end Table

end Warehouse
