import Warehouse.Proofs.Policy.Coverage

/-!
What the policies of a table come to, told by its shape. A policy is resolved for a fresh table of the shape
at the earliest partition of the policy, so the values that the table at hand was made with, and those that it
has been given since, have no say. Main statement: tables of one shape, schema and dialect answer each policy
alike, and the answer is the one that the shape declares.
-/

namespace Warehouse

open Outcome (bind_eq_ok)

/-! ### One policy -/

/-- A policy is found under its own kind. -/
theorem Policies.kind_of_find? {ps : Policies} {kind : PolicyKind} {p : Policy}
    (h : ps.find? kind = some p) : p.kind = kind := by
  cases kind with
  | partitionRetention =>
    obtain ⟨e, _, rfl⟩ := Option.map_eq_some_iff.1 h
    rfl
  | partitionAnonymisation =>
    obtain ⟨e, _, rfl⟩ := Option.map_eq_some_iff.1 h
    rfl
  | manualAnonymisation =>
    rw [find?] at h
    split at h <;> cases h
    rfl

namespace Policy

/-- Whether the expiry names no partition to act on first. -/
def Nameless (e : Expiry) : Prop := (e.earliest.getD Dict.empty).isEmpty = true

/-- What is wrong with a policy of the kind that names no partition. -/
def unspecified (kind : PolicyKind) : Problem :=
  .policyIncomplete kind.label "earliest_partition is not specified"

theorem earliest_nameless {p : Policy} {e : Expiry} (h : Nameless e) :
    p.earliest e = .error (unspecified p.kind) := by
  rw [earliest]
  split
  · next values he =>
    rw [Nameless, he] at h
    exact if_pos h
  · rfl

theorem earliest_given {p : Policy} {e : Expiry} {values : Dict String} (he : e.earliest = some values)
    (hvalues : values.isEmpty = false) : p.earliest e = .ok values := by
  rw [earliest, he]
  exact if_neg (by simp [hvalues])

theorem not_nameless {e : Expiry} {values : Dict String} (he : e.earliest = some values)
    (hne : values.isEmpty = false) : ¬ Nameless e := by
  rw [Nameless, he]
  simp [hne]

theorem nameless_or_given (e : Expiry) :
    Nameless e ∨ ∃ values, e.earliest = some values ∧ values.isEmpty = false := by
  cases he : e.earliest with
  | none => exact .inl (by rw [Nameless, he]; rfl)
  | some values =>
    cases hvalues : values.isEmpty with
    | true => exact .inl (by rw [Nameless, he]; exact hvalues)
    | false => exact .inr ⟨values, rfl, hvalues⟩

end Policy

/-! ### What a shape declares -/

namespace Shape

/-- The policy of a kind that the shape declares. -/
def policy? (s : Shape) (kind : PolicyKind) : Option Policy :=
  s.prototype.bind (·.policies.find? kind)

/-- Whether a table is the fresh one of the shape with these values. -/
def Fresh (s : Shape) (schema : String) (d : Dialect) (values : Dict String) (old : Table) : Prop :=
  ∃ i, Instance.create s schema values.entries = .ok i ∧ Table.bind i d = .ok old

/-- What the policy of a kind comes to for tables of the shape: nothing without a policy, or with one that is
left to a person; a problem if it names no partition; or else the statement for the fresh table of the
partition that it names. -/
inductive Resolution (s : Shape) (schema : String) (d : Dialect) (kind : PolicyKind) :
    Except Problem (Option String) → Prop
  | undeclared (h : s.policy? kind = none) : Resolution s schema d kind (.ok none)
  | manual (h : s.policy? kind = some .manual) : Resolution s schema d kind (.ok none)
  | incomplete {p : Policy} {e : Expiry} (h : s.policy? kind = some p) (he : p.expiry? = some e)
      (hnone : Policy.Nameless e) : Resolution s schema d kind (.error (Policy.unspecified kind))
  | retention {e : Expiry} {values : Dict String} {old : Table}
      (h : s.policy? kind = some (.retention e)) (he : e.earliest = some values)
      (hne : values.isEmpty = false) (hold : s.Fresh schema d values old) :
      Resolution s schema d kind (.ok (some (old.deletePartition (old.scopeOf values))))
  | anonymisation {e : Expiry} {values : Dict String} {old : Table}
      (h : s.policy? kind = some (.anonymisation e)) (he : e.earliest = some values)
      (hne : values.isEmpty = false) (hold : s.Fresh schema d values old) :
      Resolution s schema d kind (.ok (old.anonymisePartition (old.scopeOf values)))

/-- A shape declares a policy under its own kind. -/
theorem policy?_kind {s : Shape} {kind : PolicyKind} {p : Policy} (h : s.policy? kind = some p) :
    p.kind = kind := by
  obtain ⟨prototype, _, hfind⟩ := Option.bind_eq_some_iff.1 h
  exact Policies.kind_of_find? hfind

/-- A shape makes one fresh table with the values at most. -/
theorem Fresh.unique {s : Shape} {schema : String} {d : Dialect} {values : Dict String} {old new : Table}
    (ho : s.Fresh schema d values old) (hn : s.Fresh schema d values new) : old = new := by
  obtain ⟨i, hi, ho⟩ := ho
  obtain ⟨j, hj, hn⟩ := hn
  obtain rfl : i = j := Except.ok.inj (hi.symm.trans hj)
  exact Except.ok.inj (ho.symm.trans hn)

/-- A shape settles what its policy of a kind comes to. -/
theorem Resolution.unique {s : Shape} {schema : String} {d : Dialect} {kind : PolicyKind}
    {a b : Except Problem (Option String)} (ha : s.Resolution schema d kind a)
    (hb : s.Resolution schema d kind b) : a = b := by
  cases ha with
  | undeclared h =>
    cases hb with
    | undeclared | manual => rfl
    | incomplete h' | retention h' | anonymisation h' => cases h.symm.trans h'
  | manual h =>
    cases hb with
    | undeclared | manual => rfl
    | retention h' | anonymisation h' => cases h.symm.trans h'
    | incomplete h' he =>
      cases h.symm.trans h'
      cases he
  | incomplete h he hnone =>
    cases hb with
    | incomplete => rfl
    | undeclared h' => cases h.symm.trans h'
    | manual h' =>
      cases h.symm.trans h'
      cases he
    | retention h' he' hne' | anonymisation h' he' hne' =>
      cases h.symm.trans h'
      cases he
      exact absurd hnone (Policy.not_nameless he' hne')
  | retention h he hne hold =>
    cases hb with
    | undeclared h' | manual h' | anonymisation h' => cases h.symm.trans h'
    | incomplete h' he' hnone =>
      cases h.symm.trans h'
      cases he'
      exact absurd hnone (Policy.not_nameless he hne)
    | retention h' he' _ hold' =>
      cases h.symm.trans h'
      cases he.symm.trans he'
      rw [hold.unique hold']
  | anonymisation h he hne hold =>
    cases hb with
    | undeclared h' | manual h' | retention h' => cases h.symm.trans h'
    | incomplete h' he' hnone =>
      cases h.symm.trans h'
      cases he'
      exact absurd hnone (Policy.not_nameless he hne)
    | anonymisation h' he' _ hold' =>
      cases h.symm.trans h'
      cases he.symm.trans he'
      rw [hold.unique hold']

end Shape

/-- The policies of an instance are those that its shape declares. -/
theorem Instance.Declared.find?_policies {i : Instance} (h : i.Declared) (kind : PolicyKind) :
    i.policies.find? kind = i.shape.policy? kind := by
  induction h with
  | created hs h =>
    obtain ⟨p, hp, hi⟩ := bind_eq_ok.1 h
    cases hi
    rw [Shape.policy?, Shape.requirePrototype_eq_ok.1 hp]
    rfl
  | valueSet _ column value ih =>
    obtain ⟨columns, hleft, _⟩ := Instance.left_setValue _ column value
    rw [hleft]
    exact ih

namespace Table

/-! ### Tables of one shape -/

/-- The tables of a shape in a schema and a dialect, whatever values they were made with and have been given
since. -/
inductive OfShape (s : Shape) (schema : String) (d : Dialect) : Table → Prop
  | bound {i : Instance} {t : Table} (hi : i.Declared) (hshape : i.shape = s) (hschema : i.schema = schema)
      (h : bind i d = .ok t) : OfShape s schema d t
  | valueSet {t : Table} (ht : OfShape s schema d t) (column value : String) :
      OfShape s schema d (t.after (.setValue column value))

/-- Setting a value touches the columns and nothing else, and so does a failure to set one. -/
theorem after_setValue (t : Table) (column value : String) :
    ∃ columns, t.after (.setValue column value) = { t with columns } := by
  cases h : t.perform (.setValue column value) with
  | ok _ t' =>
    obtain ⟨columns, _, rfl⟩ := setValue_ok h
    exact ⟨columns, after_ok h⟩
  | error p left => exact ⟨t.columns, after_error h⟩

/-- What the answer of a policy rests on: the shape, the schema, the dialect and the policies. -/
structure Stems (s : Shape) (schema : String) (d : Dialect) (t : Table) : Prop where
  shape : t.shape = s
  schema : t.schema = schema
  dialect : t.dialect = d
  policies : ∀ kind, t.policies.find? kind = s.policy? kind

section OfShape

variable {s : Shape} {schema : String} {d : Dialect} {t : Table}

theorem OfShape.reachable (ht : t.OfShape s schema d) : t.Reachable := by
  induction ht with
  | bound hi _ _ h => exact .bound hi h
  | valueSet _ column value ih => exact ih.step (.setValue column value)

theorem OfShape.stems (ht : t.OfShape s schema d) : t.Stems s schema d := by
  induction ht with
  | bound hi hshape hschema h =>
    obtain ⟨_, hdialect, rfl⟩ := bind_eq_ok_iff.1 h
    exact ⟨hshape, hschema, hdialect, fun kind => hshape ▸ hi.find?_policies kind⟩
  | valueSet _ column value ih =>
    obtain ⟨columns, hafter⟩ := after_setValue _ column value
    rw [hafter]
    exact ⟨ih.shape, ih.schema, ih.dialect, ih.policies⟩

/-- A fresh table of the shape can be made with any values. -/
theorem OfShape.exists_withValues (ht : t.OfShape s schema d) (values : Dict String) :
    ∃ old, t.withValues values = .ok old ∧ s.Fresh schema d values old := by
  obtain ⟨p, added, hp⟩ := ht.reachable.descends
  obtain ⟨old, hold⟩ := ht.reachable.wellBound.coherent.exists_withValues hp values
  obtain ⟨i, hi, hbind⟩ := bind_eq_ok.1 hold
  obtain ⟨hshape, hschema, hdialect, _⟩ := ht.stems
  refine ⟨old, hold, i, ?_, ?_⟩
  · rw [← hshape, ← hschema]
    exact hi
  · rw [← hdialect]
    exact hbind

/-- A policy that names no partition has no answer but the problem. -/
theorem resolve_nameless (t : Table) {p : Policy} {e : Expiry} (he : p.expiry? = some e)
    (h : Policy.Nameless e) : t.resolve p = .error (Policy.unspecified p.kind) := by
  cases p with
  | manual => cases he
  | retention | anonymisation =>
    cases he
    rw [resolve, Policy.earliest_nameless h]
    rfl

theorem resolve_retention {e : Expiry} {values : Dict String} {old : Table} (he : e.earliest = some values)
    (hne : values.isEmpty = false) (hold : t.withValues values = .ok old) :
    t.resolve (.retention e) = .ok (some (old.deletePartition (old.scopeOf values))) :=
  bind_eq_ok.2 ⟨values, Policy.earliest_given he hne, bind_eq_ok.2 ⟨old, hold, rfl⟩⟩

theorem resolve_anonymisation {e : Expiry} {values : Dict String} {old : Table}
    (he : e.earliest = some values) (hne : values.isEmpty = false) (hold : t.withValues values = .ok old) :
    t.resolve (.anonymisation e) = .ok (old.anonymisePartition (old.scopeOf values)) :=
  bind_eq_ok.2 ⟨values, Policy.earliest_given he hne, bind_eq_ok.2 ⟨old, hold, rfl⟩⟩

/-- The answer of a policy is the one that the shape settles. -/
theorem OfShape.resolution (ht : t.OfShape s schema d) (kind : PolicyKind) :
    s.Resolution schema d kind (t.resolvePolicy kind) := by
  rw [resolvePolicy, ht.stems.policies]
  cases hp : s.policy? kind with
  | none => exact .undeclared hp
  | some p =>
    change s.Resolution schema d kind (t.resolve p)
    cases he : p.expiry? with
    | none =>
      cases p <;> cases he
      exact .manual hp
    | some e =>
      obtain hnone | ⟨values, hvalues, hne⟩ := Policy.nameless_or_given e
      · rw [t.resolve_nameless he hnone, Shape.policy?_kind hp]
        exact .incomplete hp he hnone
      · obtain ⟨old, hold, hfresh⟩ := ht.exists_withValues values
        cases p with
        | manual => cases he
        | retention e =>
          cases he
          rw [resolve_retention hvalues hne hold]
          exact .retention hp hvalues hne hfresh
        | anonymisation e =>
          cases he
          rw [resolve_anonymisation hvalues hne hold]
          exact .anonymisation hp hvalues hne hfresh

/-- The warnings that come with the answer are told by the shape as well. -/
theorem OfShape.warnings (ht : t.OfShape s schema d) (kind : PolicyKind) :
    t.resolvePolicyWarnings kind = (((s.policy? kind).bind (·.expiry?)).bind (·.earliest)).elim []
      fun values => Instance.createWarnings s values.entries := by
  obtain ⟨hshape, _, _, hpolicies⟩ := ht.stems
  rw [resolvePolicyWarnings, hpolicies]
  cases (s.policy? kind).bind (·.expiry?) with
  | none => rfl
  | some e =>
    rw [Option.bind_some, ← hshape]
    cases he : e.earliest <;> simp [withValuesWarnings, he]

end OfShape

/-- For tables of one shape, schema and dialect, whatever values they were made with and have been given since,
the policy of each kind comes to what the shape declares of it; so all of them answer alike, be it with a
problem, with a statement or with nothing, and with the same warnings. -/
theorem policies_of_declaration {s : Shape} {schema : String} {d : Dialect} {t u : Table}
    (ht : t.OfShape s schema d) (hu : u.OfShape s schema d) (kind : PolicyKind) :
    s.Resolution schema d kind (t.resolvePolicy kind) ∧
    u.resolvePolicy kind = t.resolvePolicy kind ∧
    u.resolvePolicyWarnings kind = t.resolvePolicyWarnings kind := by
  refine ⟨ht.resolution kind, (hu.resolution kind).unique (ht.resolution kind), ?_⟩
  rw [hu.warnings, ht.warnings]

/-- Two tables of guests, one with values from the start and one with values set since, anonymise the partition
that their policy names, in the country that they declare. -/
theorem guests_policies_of_declaration : ∃ t u : Table,
    t.OfShape (guestShape guestColumns) "web" .presto ∧ u.OfShape (guestShape guestColumns) "web" .presto ∧
    t.columns.map (·.declared.value) = [none, none, none, some "'2020-02-02'", some "'nl'"] ∧
    u.columns.map (·.declared.value) = [none, some "'guest'", none, some "'1999-12-31'", some "'be'"] ∧
    (guestShape guestColumns).Resolution "web" .presto .partitionAnonymisation
      (t.resolvePolicy .partitionAnonymisation) ∧
    u.resolvePolicy .partitionAnonymisation =
      .ok (some ("UPDATE \"web\".\"guests\" SET \"name\" = SUBSTR(\"name\", 1, 1), " ++
        "\"email\" = NULL WHERE \"ds\" = '2020-01-01'")) := by
  have hshape : (guestShape guestColumns).Declared := ⟨guests guestColumns, by cbv⟩
  obtain ⟨t, ht, htvalues, hsql⟩ : ∃ t : Table, t.OfShape (guestShape guestColumns) "web" .presto ∧
      t.columns.map (·.declared.value) = [none, none, none, some "'2020-02-02'", some "'nl'"] ∧
      t.resolvePolicy .partitionAnonymisation =
        .ok (some ("UPDATE \"web\".\"guests\" SET \"name\" = SUBSTR(\"name\", 1, 1), " ++
          "\"email\" = NULL WHERE \"ds\" = '2020-01-01'")) := by
    have hbind : bind (guestInstance guestColumns) .presto = .ok _ := rfl
    have hbound := OfShape.bound (guestInstance_declared (by cbv)) rfl rfl hbind
    exact ⟨_, hbound.valueSet "ds" "'2020-02-02'", by cbv, by cbv⟩
  obtain ⟨u, hu, huvalues⟩ : ∃ u : Table, u.OfShape (guestShape guestColumns) "web" .presto ∧
      u.columns.map (·.declared.value) = [none, some "'guest'", none, some "'1999-12-31'", some "'be'"] := by
    have hcreate : Instance.create (guestShape guestColumns) "web"
      [("ds", "'1999-12-31'"), ("country", "'be'"), ("none", "1")] = .ok _ := rfl
    have hbound := OfShape.bound (d := .presto) (.created hshape hcreate) rfl rfl rfl
    exact ⟨_, hbound.valueSet "name" "'guest'", by cbv⟩
  obtain ⟨hresolution, hanswer, _⟩ := policies_of_declaration ht hu .partitionAnonymisation
  exact ⟨t, u, ht, hu, htvalues, huvalues, hresolution, hanswer.trans hsql⟩

end Table

end Warehouse
