import Warehouse.Proofs.Table.Direct
import Warehouse.Statement.Delete

/-!
Expressions between double braces, which a scheduler fills in later. Their inner braces are read as those of a slot
wherever what stands between them is an identifier, and then the parameter of this name is written into the
expression. Main statement: all others are kept wherever they stand, also in the conditions of deletions and scopes.
-/

namespace Warehouse

namespace Template

/-- An expression between double braces. -/
def doubleBraced (inside : String) : String := "\x7b" ++ slot inside ++ "\x7d"

/-- What becomes of the expression: its inner braces are those of a slot. -/
def filledExpression (params : String → Option String) (inside : String) : String :=
  "\x7b" ++ filledSlot inside (params inside) ++ "\x7d"

/-- The expression is kept unless it is the name of a parameter that says something else. -/
theorem filledExpression_eq_iff {params : String → Option String} {inside : String} :
    filledExpression params inside = doubleBraced inside ↔
      (isName inside.toList = true → ∀ v ∈ params inside, v = slot inside) := by
  rw [filledExpression, doubleBraced, String.append_left_inj, String.append_right_inj, filledSlot]
  cases params inside with
  | none => simp
  | some v => simp

theorem ne_empty_of_doubleBraced (front inside rest : String) : front ++ doubleBraced inside ++ rest ≠ "" := by
  intro h
  have hchars := congrArg String.toList h
  simp [doubleBraced] at hchars

/-! ### Filling in an expression -/

theorem slot?_brace (quotings : Bool) (cs : List Char) : slot? quotings ('\x7b' :: cs) = none := by
  rw [slot?, if_neg (by simp [isNameStart])]

section

variable {params : String → Option String}

/-- A brace in front of another one stands for itself. -/
theorem substituteChars_brace (cs : List Char) : substituteChars params ('\x7b' :: '\x7b' :: cs) =
    '\x7b' :: substituteChars params ('\x7b' :: cs) := by
  rw [substituteChars, pieces_brace (slot?_brace false cs)]
  rfl

theorem closed_slot (name : String) : Closed (slot name).toList := by
  intro c hc
  rw [toList_slot, ← List.cons_append, List.getLast?_concat, Option.mem_def] at hc
  exact (Option.some.inj hc).symm

theorem substituteChars_doubleBraced {inside : String} (h : BraceFree inside) (front rest : List Char) :
    substituteChars params (front ++ '\x7b' :: ((slot inside).toList ++ '\x7d' :: rest)) =
      substituteChars params front ++
        '\x7b' :: ((filledSlot inside (params inside)).toList ++ '\x7d' :: substituteChars params rest) := by
  have hslot : substituteChars params (slot inside).toList = (filledSlot inside (params inside)).toList := by
    rw [← substitute_slot h params, substitute, String.toList_ofList]
  have hclose : substituteChars params ('\x7d' :: rest) = '\x7d' :: substituteChars params rest :=
    substituteChars_plain params (a := ['\x7d']) (by decide) rest
  have hopen : (slot inside).toList ++ '\x7d' :: rest =
      '\x7b' :: (inside.toList ++ ['\x7d'] ++ '\x7d' :: rest) := by
    rw [toList_slot, List.cons_append]
  -- no slot goes past the outer brace, which opens none itself, and the inner ones are read without what follows
  rw [substituteChars_cut params (by decide), hopen, substituteChars_brace, ← hopen,
    substituteChars_append_of_closed params (closed_slot inside), hslot, hclose]

/-- An expression is filled in apart from what stands in front of it and behind it. -/
theorem substitute_doubleBraced {inside : String} (h : BraceFree inside) (front rest : String) :
    substitute (front ++ doubleBraced inside ++ rest) params =
      substitute front params ++ filledExpression params inside ++ substitute rest params := by
  rw [← String.toList_inj]
  simpa [substitute, doubleBraced, filledExpression] using
    substituteChars_doubleBraced h front.toList rest.toList

end

/-- With a blank between the braces, an expression is kept whatever the parameters are. -/
theorem filledExpression_blank (params : String → Option String) (inside : String) :
    filledExpression params (" " ++ inside) = doubleBraced (" " ++ inside) := by
  rw [filledExpression_eq_iff]
  intro hname
  have hblank : (" " ++ inside).toList = ' ' :: inside.toList := by simp
  rw [hblank] at hname
  exact absurd (Bool.and_eq_true_iff.1 hname).1 (by simp [isNameStart])

end Template

open Template (BraceFree doubleBraced filledExpression ne_empty_of_doubleBraced substitute substitute_doubleBraced)

/-! ### Conditions of statements -/

/-- What ends the last of the joined texts ends the whole. -/
theorem intercalate_concat (sep a b : String) : ∀ l : List String,
    String.intercalate sep (l ++ [a ++ b]) = String.intercalate sep (l ++ [a]) ++ b
  | [] => by simp
  | [x] => by
    rw [List.singleton_append, List.singleton_append, String.intercalate_cons_cons, String.intercalate_cons_cons]
    simp [String.append_assoc]
  | x :: y :: l => by
    have hrest := intercalate_concat sep a b (y :: l)
    rw [List.cons_append, List.cons_append] at hrest
    rw [List.cons_append, List.cons_append, List.cons_append, List.cons_append, String.intercalate_cons_cons,
      String.intercalate_cons_cons, hrest]
    simp only [String.append_assoc]

namespace Table

/-- The value that a scope has for a name: its parameter, or else the value of the partition of this name. -/
def scopeValue? (t : Table) (params : Dict String) (name : String) : Option String :=
  (params.find? name).or ((t.partitions.find? (·.name == name)).bind (·.declared.value))

/-- The condition of a scope as it is written up to this place in what it asks. -/
def conditionFront (t : Table) (scope : Scope) (sep front : String) : String :=
  String.intercalate sep (t.partitionConditions none scope.ignored ++ [front])

theorem WellBound.partitionParams_eq {t : Table} (ht : t.WellBound) (params : Dict String) :
    (t.partitionParams params).find? = t.scopeValue? params := by
  funext name
  rw [scopeValue?]
  cases hfound : t.partitions.find? (·.name == name) with
  | some p =>
    have hname : p.name = name := by simpa using List.find?_some hfound
    rw [← hname, ht.partitionParams_find? (List.mem_of_find?_eq_some hfound), Option.bind_some]
  | none =>
    have habsent : name ∉ (t.partitions.filterMap fun p =>
        p.declared.value.map fun v => (p.name, v)).map Prod.fst := by
      rintro hmem
      obtain ⟨e, he, rfl⟩ := List.mem_map.1 hmem
      obtain ⟨p, hp, hvalue⟩ := List.mem_filterMap.1 he
      obtain ⟨v, _, rfl⟩ := Option.map_eq_some_iff.1 hvalue
      exact List.find?_eq_none.1 hfound p hp (beq_self_eq_true p.name)
    rw [ht.partitionParams_lookup, lookup_eq_none.2 habsent, Option.bind_none]

/-- A deletion fills in an expression of its condition with its parameters. -/
theorem deleteFrom_doubleBraced (t : Table) {o : DeleteOptions} {front inside rest : String}
    (hinside : BraceFree inside) (ho : o.condition = some (front ++ doubleBraced inside ++ rest)) :
    t.deleteFrom o = Deletion.text
      { target := t.reference o.suffix
        source := o.source
        condition := some (substitute front o.params.find? ++ filledExpression o.params.find? inside ++
          substitute rest o.params.find?)
        ending := t.dialect.terminator } := by
  have hsome : o.condition.filter (· != "") = o.condition := by
    rw [ho, Option.filter_some, if_pos (bne_iff_ne.2 (ne_empty_of_doubleBraced front inside rest))]
  rw [deleteFrom, deletion, hsome, ho, Option.map_some, substitute_doubleBraced hinside]

/-- A scope fills in an expression of its condition with its parameters and the values of the partitions. -/
theorem WellBound.scopedCondition_doubleBraced {t : Table} (ht : t.WellBound) {scope : Scope}
    {front inside rest : String} (hinside : BraceFree inside)
    (hscope : scope.condition = some (front ++ doubleBraced inside ++ rest)) (sep : String) :
    t.scopedCondition scope sep =
      substitute (t.conditionFront scope sep front) (t.scopeValue? scope.params) ++
        filledExpression (t.scopeValue? scope.params) inside ++ substitute rest (t.scopeValue? scope.params) := by
  have hwritten : t.partitionCondition scope.condition scope.ignored sep =
      t.conditionFront scope sep front ++ doubleBraced inside ++ rest := by
    rw [partitionCondition, partitionConditions, hscope, Option.filter_some,
      if_pos (bne_iff_ne.2 (ne_empty_of_doubleBraced front inside rest)), Option.toList_some,
      String.append_assoc, intercalate_concat, conditionFront, partitionConditions, Option.filter_none,
      Option.toList_none, List.append_nil, String.append_assoc]
  rw [scopedCondition, hwritten, ht.partitionParams_eq, substitute_doubleBraced hinside]

end Table

namespace Template

/-- An expression between double braces is filled in apart from what stands around it, and it is kept unless there
is a parameter of this very name that says something else: so it is wherever there is a blank inside its braces.
The condition of a deletion has its own parameters, and that of a scope has besides them the values of all
partitions of the table. -/
theorem expressions_filled {inside : String} (h : BraceFree inside) (front rest : String) :
    (∀ params, substitute (front ++ doubleBraced inside ++ rest) params =
        substitute front params ++ filledExpression params inside ++ substitute rest params ∧
      (filledExpression params inside = doubleBraced inside ↔
        (isName inside.toList = true → ∀ v ∈ params inside, v = slot inside)) ∧
      filledExpression params (" " ++ inside) = doubleBraced (" " ++ inside)) ∧
    (∀ (t : Table) (o : DeleteOptions), o.condition = some (front ++ doubleBraced inside ++ rest) →
      t.deleteFrom o = Deletion.text
        { target := t.reference o.suffix
          source := o.source
          condition := some (substitute front o.params.find? ++ filledExpression o.params.find? inside ++
            substitute rest o.params.find?)
          ending := t.dialect.terminator }) ∧
    ∀ t : Table, t.Reachable → ∀ (scope : Scope) sep,
      scope.condition = some (front ++ doubleBraced inside ++ rest) →
      t.scopedCondition scope sep =
        substitute (t.conditionFront scope sep front) (t.scopeValue? scope.params) ++
          filledExpression (t.scopeValue? scope.params) inside ++
          substitute rest (t.scopeValue? scope.params) := by
  refine ⟨fun params => ⟨substitute_doubleBraced h front rest, filledExpression_eq_iff,
    filledExpression_blank params inside⟩, ?_, ?_⟩
  · intro t o ho
    exact t.deleteFrom_doubleBraced h ho
  · intro t ht scope sep hscope
    exact ht.wellBound.scopedCondition_doubleBraced h hscope sep

/-- The deletion of visits before the day that an expression gives. -/
def visitsBefore (inside : String) : DeleteOptions where
  condition := some ("\"at\" < '" ++ doubleBraced inside ++ "'")
  params := Dict.ofList [("ds", "'2020-01-01'")]

/-- The scope of visits since the day that an expression gives. -/
def visitsSince (inside : String) : Scope where
  condition := some ("\"at\" > '" ++ doubleBraced inside ++ "'")
  params := Dict.ofList [("ds", "'2020-01-01'")]

/-- With blanks in its braces, the name of a parameter is left to the scheduler. -/
theorem expressions_kept : ∃ t : Table, t.Reachable ∧ BraceFree " ds " ∧
    t.deleteFrom (visitsBefore " ds ") =
      "DELETE FROM \"web\".\"visits\" WHERE \"at\" < '\x7b\x7b ds \x7d\x7d'" ∧
    t.scopedCondition (visitsSince " ds ") " AND " =
      "\"ds\" = '2020-01-01' AND \"country\" = 'nl' AND \"at\" > '\x7b\x7b ds \x7d\x7d'" := by
  obtain ⟨t, ht, htarget, hending, hfront⟩ : ∃ t : Table, t.Reachable ∧
      t.reference (visitsBefore " ds ").suffix = "\"web\".\"visits\"" ∧ t.dialect.terminator = "" ∧
      substitute (t.conditionFront (visitsSince " ds ") " AND " "\"at\" > '")
        (t.scopeValue? (visitsSince " ds ").params) =
          "\"ds\" = '2020-01-01' AND \"country\" = 'nl' AND \"at\" > '" := by
    have hbind : Table.bind Table.visitInstance .presto = .ok _ := rfl
    exact ⟨_, .bound Table.visitInstance_declared hbind, by cbv, rfl, by cbv⟩
  have hinside : BraceFree " ds " := by decide
  obtain ⟨hvalues, hdeletions, _⟩ := expressions_filled hinside "\"at\" < '" "'"
  obtain ⟨_, _, hscopes⟩ := expressions_filled hinside "\"at\" > '" "'"
  have hkept : ∀ params, filledExpression params " ds " = doubleBraced " ds " := fun params =>
    (hvalues params).2.1.2 fun hname => absurd hname (by decide)
  refine ⟨t, ht, hinside, ?_, ?_⟩
  · rw [hdeletions t _ rfl, htarget, hending, hkept]
    cbv
  · rw [hscopes t ht _ " AND " rfl, hfront, hkept]
    cbv

/-- Without blanks, it is written into the expression, which no scheduler can read any more. -/
theorem expressions_replaced : ∃ t : Table, t.Reachable ∧ BraceFree "ds" ∧
    substitute (doubleBraced "ds") (visitsSince "ds").params.find? = "\x7b'2020-01-01'\x7d" ∧
    t.deleteFrom (visitsBefore "ds") =
      "DELETE FROM \"web\".\"visits\" WHERE \"at\" < '\x7b'2020-01-01'\x7d'" ∧
    t.scopedCondition (visitsSince "country") " AND " =
      "\"ds\" = '2020-01-01' AND \"country\" = 'nl' AND \"at\" > '\x7b'nl'\x7d'" := by
  have hbind : Table.bind Table.visitInstance .presto = .ok _ := rfl
  exact ⟨_, .bound Table.visitInstance_declared hbind, by decide, by cbv, by cbv, by cbv⟩

end Template

end Warehouse
