import Warehouse.Proofs.Table.Coherence

/-!
When an instance binds, and how it fails. All that binding looks at is laid out as a list of sites: the
columns in order, each with what is nested in it behind it, then the properties. A site is covered when
the vocabulary has a template for its class and the site has the attributes that the class needs. An
instance binds exactly when all its sites are covered, and otherwise it fails with the fault of the
first site that is not.
-/

namespace Warehouse

open Outcome (error? error?_bind error?_bind_ok)

namespace Binding

/-- A declaration at its place: the parts of its dotted path, its class and its attributes. -/
structure Site where
  path : List String
  declares : DeclarationClass
  attributes : Attributes

namespace Site

/-- The name of the site in messages. -/
def label (s : Site) : String := String.intercalate "." s.path

/-- The attributes that the class of the site needs and the site does not have, in the order of the
vocabulary. -/
def absent (v : Vocabulary) (s : Site) : List String :=
  (v.required s.declares).filter fun a => !s.attributes.contains a

/-- Whether a vocabulary has a template for the site, and the site all that the vocabulary needs. -/
def Covered (v : Vocabulary) (s : Site) : Prop :=
  (∃ text, v.template? s.declares = some text) ∧
    ∀ a ∈ v.required s.declares, s.attributes.contains a = true

/-- What is said of a site that is not covered: a missing template counts before missing attributes. -/
def fault (v : Vocabulary) (dialect : String) (s : Site) : Problem :=
  match v.template? s.declares with
  | none => .classUnsupported s.label s.declares.label dialect
  | some _ => .attributesMissing s.label dialect (s.absent v)

/-- The fault of the site, if it is not covered. -/
def fault? (t : Target) (s : Site) : Option Problem :=
  error? (template t s.label s.declares s.attributes)

theorem absent_eq_nil {v : Vocabulary} {s : Site} :
    s.absent v = [] ↔ ∀ a ∈ v.required s.declares, s.attributes.contains a = true := by
  simp [absent, List.filter_eq_nil_iff]

theorem fault?_eq_none {t : Target} {s : Site} : s.fault? t = none ↔ s.Covered t.vocabulary := by
  unfold fault? template Covered
  rw [← absent_eq_nil, absent]
  cases ht : t.vocabulary.template? s.declares with
  | none => simp [error?]
  | some text =>
    simp only [Option.some.injEq, exists_eq', true_and, missing]
    split
    · next h => exact ⟨fun _ => h, fun _ => rfl⟩
    · next h => simpa [error?] using h

theorem fault?_eq_some {t : Target} {s : Site} {p : Problem} :
    s.fault? t = some p ↔ ¬ s.Covered t.vocabulary ∧ p = s.fault t.vocabulary t.dialect := by
  rw [← fault?_eq_none, fault?, template, fault, absent]
  cases ht : t.vocabulary.template? s.declares with
  | none => simp [error?, eq_comm]
  | some text =>
    simp only [missing]
    split
    · simp [error?]
    · simp [error?, eq_comm]

end Site

/-- How a path names a nested column: by its name, or by its type when it has none. -/
def part (c : Column) : String :=
  if c.name = "" then "<" ++ c.dataType.label ++ ">" else c.name

mutual

/-- The sites of a column at the end of a path: the column itself, then what is nested in it. -/
def columnSites (path : List String) : Column → List Site
  | ⟨declared, kind⟩ => ⟨path, .column kind.dataType, declared.attributes⟩ :: nestedSites path kind

/-- The sites nested in the column at the end of a path. -/
def nestedSites (path : List String) : Kind Column → List Site
  | .scalar _ => []
  | .array element => columnSites (path ++ [part element]) element
  | .map key value =>
    columnSites (path ++ [part key]) key ++ columnSites (path ++ [part value]) value
  | .row fields => fieldSites path fields

/-- The sites of the fields of a row. -/
def fieldSites (path : List String) : List Column → List Site
  | [] => []
  | c :: rest => columnSites (path ++ [part c]) c ++ fieldSites path rest

end

/-- The site of a property. -/
def propertySite (p : Property) : Site := ⟨[p.kind.label], .property p.kind, p.attributes⟩

example : (columnSites ["a"] (.array "a" (.map "" (.scalar "k" .varchar) (.scalar "" .date)))).map
    Site.label = ["a", "a.<Map>", "a.<Map>.k", "a.<Map>.<Date>"] := by decide

/-! ### Labels -/

theorem label_root (c : Column) : label none c = String.intercalate "." [c.name] := by
  simp [label]

theorem label_nested {path : List String} (hp : path ≠ []) (c : Column) :
    label (some (String.intercalate "." path)) c = String.intercalate "." (path ++ [part c]) := by
  rw [String.intercalate_append_of_ne_nil hp (by simp), String.intercalate_singleton, label, part]
  split
  · rw [show ".<" = "." ++ "<" from rfl]
    simp only [String.append_assoc]
  · rfl

/-! ### The problem of a column is the fault of its first site that is not covered -/

/-- The fault of the first site that is not covered, if there is one. -/
def firstFault? (t : Target) (sites : List Site) : Option Problem := sites.findSome? (Site.fault? t)

theorem firstFault?_cons (t : Target) (s : Site) (rest : List Site) :
    firstFault? t (s :: rest) = (s.fault? t).or (firstFault? t rest) := by
  rw [firstFault?, List.findSome?_cons, firstFault?]
  cases s.fault? t <;> rfl

theorem firstFault?_append (t : Target) (before after : List Site) :
    firstFault? t (before ++ after) = (firstFault? t before).or (firstFault? t after) :=
  List.findSome?_append

mutual

theorem error?_column (t : Target) {path : List String} (hp : path ≠ []) (parent : Option String) :
    ∀ c : Column, label parent c = String.intercalate "." path →
      error? (column t parent c) = firstFault? t (columnSites path c)
  | ⟨declared, kind⟩, hl => by
    rw [column, columnSites, firstFault?_cons, Site.fault?, Site.label, ← hl]
    refine error?_bind fun text => ?_
    rw [hl, error?_bind_ok]
    exact error?_nestedColumns t hp kind

theorem error?_nestedColumns (t : Target) {path : List String} (hp : path ≠ []) :
    ∀ kind : Kind Column, error? (nestedColumns t (String.intercalate "." path) kind) =
      firstFault? t (nestedSites path kind)
  | .scalar _ => by rw [nestedColumns, nestedSites]; rfl
  | .array element => by
    rw [nestedColumns, nestedSites, error?_bind_ok]
    exact error?_column t (by simp) _ element (label_nested hp element)
  | .map key value => by
    rw [nestedColumns, nestedSites, firstFault?_append,
      ← error?_column t (by simp) _ key (label_nested hp key),
      ← error?_column t (by simp) _ value (label_nested hp value)]
    refine error?_bind fun k => ?_
    rw [error?_bind_ok]
  | .row fields => by
    rw [nestedColumns, nestedSites]
    exact error?_columnList t hp fields

theorem error?_columnList (t : Target) {path : List String} (hp : path ≠ []) :
    ∀ fields : List Column, error? (columnList t (some (String.intercalate "." path)) fields) =
      firstFault? t (fieldSites path fields)
  | [] => by rw [columnList, fieldSites]; rfl
  | c :: rest => by
    rw [columnList, fieldSites, firstFault?_append,
      ← error?_column t (by simp) _ c (label_nested hp c), ← error?_columnList t hp rest]
    refine error?_bind fun b => ?_
    rw [error?_bind_ok]

end

/-- The columns of a table have no parent, and their paths start with their own names. -/
theorem error?_topColumns (t : Target) : ∀ columns : List Column,
    error? (columnList t none columns) =
      firstFault? t (columns.flatMap fun c => columnSites [c.name] c)
  | [] => by rw [columnList]; rfl
  | c :: rest => by
    rw [columnList, List.flatMap_cons, firstFault?_append, ← error?_topColumns t rest,
      ← error?_column t (by simp) none c (label_root c)]
    refine error?_bind fun b => ?_
    rw [error?_bind_ok]

theorem error?_property (t : Target) (p : Property) :
    error? (property t p) = (propertySite p).fault? t := by
  rw [property, error?_bind_ok, Site.fault?, Site.label, propertySite,
    String.intercalate_singleton]

end Binding

open Binding

/-- All sites of an instance, in the order in which binding looks at them. -/
def Instance.sites (i : Instance) : List Site :=
  (i.columns.flatMap fun c => columnSites [c.name] c) ++ i.properties.map propertySite

namespace Table

theorem error?_bindProperties (t : Target) (properties : List Property) :
    error? (bindProperties t properties) = firstFault? t (properties.map propertySite) := by
  rw [bindProperties_eq_mapM, Outcome.error?_mapM, firstFault?, List.findSome?_map]
  exact congrArg (properties.findSome? ·) (funext (error?_property t))

theorem error?_bind_eq (i : Instance) (d : Dialect) :
    error? (bind i d) = firstFault? (target d) i.sites := by
  rw [bind, Instance.sites, firstFault?_append, ← error?_topColumns, ← error?_bindProperties]
  refine Outcome.error?_bind fun columns => ?_
  rw [Outcome.error?_bind_ok]

/-- An instance binds exactly when all its sites are covered, and otherwise it fails with the fault of
the first site that is not. -/
theorem bind_ok_iff_covered (i : Instance) (d : Dialect) :
    ((∃ t, bind i d = .ok t) ↔ ∀ s ∈ i.sites, s.Covered d.vocabulary) ∧
    ∀ p, bind i d = .error p ↔
      ∃ before s after, i.sites = before ++ s :: after ∧
        (∀ r ∈ before, r.Covered d.vocabulary) ∧ ¬ s.Covered d.vocabulary ∧
        p = s.fault d.vocabulary d.name := by
  refine ⟨?_, fun p => ?_⟩
  · rw [← Outcome.error?_eq_none, error?_bind_eq, firstFault?, List.findSome?_eq_none_iff]
    exact forall₂_congr fun s _ => Site.fault?_eq_none
  · rw [← Outcome.error?_eq_some, error?_bind_eq, firstFault?, List.findSome?_eq_some_iff]
    constructor
    · rintro ⟨before, s, after, hsites, hs, hbefore⟩
      obtain ⟨hs, hp⟩ := Site.fault?_eq_some.1 hs
      exact ⟨before, s, after, hsites, fun r hr => Site.fault?_eq_none.1 (hbefore r hr), hs, hp⟩
    · rintro ⟨before, s, after, hsites, hbefore, hs, hp⟩
      exact ⟨before, s, after, hsites, Site.fault?_eq_some.2 ⟨hs, hp⟩,
        fun r hr => Site.fault?_eq_none.2 (hbefore r hr)⟩

end Table

end Warehouse
