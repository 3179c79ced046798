import Warehouse.Proofs.Binding.Steps
import Warehouse.Proofs.Dict.Lookup
import Warehouse.Proofs.Module.Places
import Warehouse.Proofs.Template.Filled

/-!
Complete vocabularies. What a vocabulary needs of a declaration is written apart from its templates; it is
complete when both match, so that each slot outside a group stands for a needed attribute or for the type of
something nested. Main statement: whatever binds to a built-in dialect has no slot of its template left open,
and so it is with all that is nested in it.
-/

namespace Warehouse

open Outcome (bind_eq_ok map_eq_ok)
open Template (Completes Context Filled Value completes_render filled_pieces outline slotNames)

/-! ### What stands in the slots -/

/-- The slots that a type has for what is nested in its columns. -/
def DataType.nestedSlots : DataType → List String
  | .array => ["element"]
  | .map => ["key_type", "value_type"]
  | .row => ["fields"]
  | _ => []

namespace Binding

/-- Whether the value is that of a declared attribute. -/
def Declares (attributes : Attributes) (name : String) (value : Value) : Prop :=
  ∃ a, attributes.find? name = some a ∧ value = templateValue a

/-- What stands in the slots of the field of a row. -/
inductive FieldValue (v : Vocabulary) (f : BoundColumn) : String → Value → Prop
  | name : FieldValue v f "quoted_name" (.text (v.quoteColumn f.name))
  | type : FieldValue v f "type" (.text f.typeText)

/-- Whether this is how the vocabulary writes the field of a row, with no slot left open. -/
def FieldText (v : Vocabulary) (f : BoundColumn) (text : String) : Prop :=
  Filled false (FieldValue v f) v.rowField.toList text.toList

/-- What stands in the slots of the type of a bound column: the types of what is nested in it, and declared
attributes. -/
inductive TypeValue (v : Vocabulary) (b : BoundColumn) : String → Value → Prop
  | element {e : BoundColumn} (ht : b.declared.dataType = .array) (h : b.nested = [e]) :
      TypeValue v b "element" (.text e.typeText)
  | keyType {key value : BoundColumn} (ht : b.declared.dataType = .map) (h : b.nested = [key, value]) :
      TypeValue v b "key_type" (.text key.typeText)
  | valueType {key value : BoundColumn} (ht : b.declared.dataType = .map)
      (h : b.nested = [key, value]) : TypeValue v b "value_type" (.text value.typeText)
  | fields {texts : List String} (ht : b.declared.dataType = .row)
      (h : List.Forall₂ (FieldText v) b.nested texts) :
      TypeValue v b "fields" (.text (String.intercalate ", " texts))
  | own {name : String} {value : Value} (hname : name ∉ b.declared.dataType.nestedSlots)
      (h : Declares b.declared.attributes name value) : TypeValue v b name value

end Binding

/-- Whether the type of a bound column is its template with no slot left open, and so it is with all that is
nested in it. -/
inductive BoundColumn.Complete (v : Vocabulary) : BoundColumn → Prop
  | intro {b : BoundColumn} {text : String} (template : v.typeTemplate b.declared.dataType = some text)
      (type : Completes (Binding.TypeValue v b) text b.typeText)
      (declared : b.nested.map (·.declared) = b.declared.nested)
      (nested : ∀ n ∈ b.nested, Complete v n) : Complete v b

/-- Whether the text of a bound property is its template with no slot left open. -/
def BoundProperty.Complete (v : Vocabulary) (b : BoundProperty) : Prop :=
  ∃ text, v.propertyTemplate b.declared.kind = some text ∧
    Completes (Binding.Declares b.declared.attributes) text b.text

/-! ### Vocabularies -/

namespace Vocabulary

/-- Whether the slots of a template outside its groups are among the names, and no slot at all stands for the
name of a column. -/
def covers (names : List String) (template : String) : Bool :=
  (outline template.toList).freeNames.all names.contains &&
    (outline template.toList).names.all fun name => name != "name" && name != "quoted_name"

/-- Whether what the vocabulary needs matches its templates. -/
structure Complete (v : Vocabulary) : Prop where
  types : ∀ t, (v.typeTemplate t).all (covers (t.nestedSlots ++ v.required (.column t))) = true
  properties : ∀ k, (v.propertyTemplate k).all (covers (v.required (.property k))) = true
  field : (slotNames false v.rowField.toList).all ["quoted_name", "type"].contains = true

theorem hive_complete : hive.Complete where
  types t := by cases t <;> cbv
  properties k := by cases k <;> cbv
  field := by cbv

theorem presto_complete : presto.Complete where
  types t := by cases t <;> cbv
  properties k := by cases k <;> cbv
  field := by cbv

theorem redshift_complete : redshift.Complete where
  types t := by cases t <;> cbv
  properties k := by cases k <;> cbv
  field := by cbv

theorem of_covers {names : List String} {template : Option String} {text : String}
    (h : template.all (covers names) = true) (htext : template = some text) :
    (∀ name ∈ (outline text.toList).freeNames, name ∈ names) ∧
      ∀ name ∈ (outline text.toList).names, name ≠ "name" ∧ name ≠ "quoted_name" := by
  subst htext
  simpa [covers] using h

end Vocabulary

/-! ### Declarations of entries -/

/-- Whether no scalar is of a type that is made of others, at any depth of the column. -/
inductive Column.WellKinded : Column → Prop
  | intro {c : Column} (scalar : ∀ t, c.kind = .scalar t → t.isComposite = false)
      (nested : ∀ n ∈ c.nested, WellKinded n) : WellKinded c

namespace ColumnEntry

variable {categories : Dict Privacy}

mutual

/-- The declaration of an entry has a part in each place of its type. -/
theorem wellKinded_of_toColumn : ∀ {e : ColumnEntry} {c : Column},
    e.toColumn categories = .ok c → c.WellKinded
  | ⟨h, element, keyType, valueType, fields⟩, c, hcolumn => by
    rw [toColumn] at hcolumn
    split at hcolumn
    · next ht =>
      obtain ⟨d, hd, hc⟩ := bind_eq_ok.1 hcolumn
      obtain ⟨hkind, _⟩ := withKind_declares hc ht.symm
      refine .intro (by simp [hkind]) ?_
      rw [Column.nested, hkind]
      simpa [Kind.nested] using wellKinded_of_part hd
    · next ht =>
      obtain ⟨k, hk, hrest⟩ := bind_eq_ok.1 hcolumn
      obtain ⟨v, hv, hc⟩ := bind_eq_ok.1 hrest
      obtain ⟨hkind, _⟩ := withKind_declares hc ht.symm
      refine .intro (by simp [hkind]) ?_
      rw [Column.nested, hkind]
      simpa [Kind.nested] using ⟨wellKinded_of_part hk, wellKinded_of_part hv⟩
    · next ht =>
      obtain ⟨fs, hfs, hc⟩ := bind_eq_ok.1 hcolumn
      obtain ⟨hkind, _⟩ := withKind_declares hc ht.symm
      refine .intro (by simp [hkind]) ?_
      rw [Column.nested, hkind]
      exact wellKinded_of_toColumns hfs
    · next harray hmap hrow =>
      obtain ⟨hkind, _⟩ := withKind_declares hcolumn rfl
      refine .intro (fun t ht => ?_) ?_
      · obtain rfl : h.type = t := by simpa [hkind] using ht
        cases ht : h.type <;> simp_all [DataType.isComposite]
      · rw [Column.nested, hkind]
        simp [Kind.nested]

theorem wellKinded_of_part : ∀ {part : Option ColumnEntry} {absent : Problem} {c : Column},
    partToColumn categories absent part = .ok c → c.WellKinded
  | some e, absent, c, h => by
    rw [partToColumn] at h
    exact wellKinded_of_toColumn h
  | none, absent, c, h => by
    rw [partToColumn] at h
    cases h

theorem wellKinded_of_toColumns : ∀ {fields : List ColumnEntry} {cs : List Column},
    toColumns categories fields = .ok cs → ∀ c ∈ cs, c.WellKinded
  | [], cs, h => by
    rw [toColumns] at h
    cases h
    simp
  | e :: rest, cs, h => by
    rw [toColumns] at h
    obtain ⟨c, hc, h⟩ := bind_eq_ok.1 h
    obtain ⟨cs, hcs, h⟩ := bind_eq_ok.1 h
    cases h
    exact List.forall_mem_cons.2 ⟨wellKinded_of_toColumn hc, wellKinded_of_toColumns hcs⟩

end

end ColumnEntry

/-! ### What binding fills in -/

namespace Binding

variable {v : Vocabulary}

/-- The fields of a row are written one by one. -/
theorem rowFields_written
    (hv : (slotNames false v.rowField.toList).all ["quoted_name", "type"].contains = true)
    {fields : List BoundColumn} (hnames : ∀ f ∈ fields, f.quotedName = v.quoteColumn f.name) :
    ∃ texts, List.Forall₂ (FieldText v) fields texts ∧
      rowFields v fields = String.intercalate ", " texts := by
  refine ⟨_, List.forall₂_map_right_iff.2 (List.forall₂_same.2 fun f hf => ?_), rfl⟩
  rw [FieldText, Template.substitutePairs, Template.substitute, Template.substituteChars,
    String.toList_ofList]
  refine filled_pieces fun name hname => ?_
  obtain rfl | rfl : name = "quoted_name" ∨ name = "type" := by
    simpa using List.all_eq_true.1 hv name hname
  · exact ⟨_, rfl, hnames f hf ▸ .name⟩
  · exact ⟨_, rfl, .type⟩

/-- A slot stands for what is nested in its column, or for an attribute. -/
theorem TypeValue.nested_or_own {b : BoundColumn} {name : String} {value : Value}
    (h : TypeValue v b name value) : name ∈ b.declared.dataType.nestedSlots ∨
      (b.declared.attributes.find? name).isSome := by
  cases h with
  | element ht _ => exact .inl (by simp [ht, DataType.nestedSlots])
  | keyType ht _ => exact .inl (by simp [ht, DataType.nestedSlots])
  | valueType ht _ => exact .inl (by simp [ht, DataType.nestedSlots])
  | fields ht _ => exact .inl (by simp [ht, DataType.nestedSlots])
  | own _ h =>
    obtain ⟨a, ha, _⟩ := h
    exact .inr (by rw [ha]; rfl)

/-- The context of a column has no names but those of the column that its kind and its attributes do not
have. -/
theorem columnContext_of_ne (c : Column) (nested : List BoundColumn) {name : String}
    (hname : name ≠ "name" ∧ name ≠ "quoted_name") : columnContext v c nested name =
      ((kindContext v c.kind nested).lookup name).or (attributeContext c.attributes name) := by
  show ((kindContext v c.kind nested ++ _).lookup name).or _ = _
  rw [List.lookup_append, List.lookup_cons, beq_eq_false_iff_ne.2 hname.1, List.lookup_cons,
    beq_eq_false_iff_ne.2 hname.2, List.lookup_nil, Option.or_none]

section Nested

variable {c : Column} {nested : List BoundColumn}
  (hscalar : ∀ t, c.kind = .scalar t → t.isComposite = false)
  (hdeclared : nested.map (·.declared) = c.nested)
  (hrow : ∃ texts, List.Forall₂ (FieldText v) nested texts ∧
    rowFields v nested = String.intercalate ", " texts)
include hscalar hdeclared hrow

/-- What a kind adds to the context are the types of what is nested. -/
theorem kindContext_nested (text : String) :
    (kindContext v c.kind nested).map (·.1) = c.dataType.nestedSlots ∧
    ∀ p ∈ kindContext v c.kind nested, TypeValue v (boundColumn v c text nested) p.1 p.2 := by
  obtain ⟨declared, kind⟩ := c
  cases kind with
  | scalar t =>
    refine ⟨?_, by simp [kindContext]⟩
    have hsimple := hscalar t rfl
    cases t with
    | array | map | row => cases hsimple
    | _ => rfl
  | array element =>
    obtain ⟨e, rfl, _⟩ := List.map_eq_singleton_iff.1 hdeclared
    exact ⟨rfl, by simpa [kindContext] using .element rfl rfl⟩
  | map key value =>
    obtain ⟨k, _, rfl, _, hrest⟩ := List.map_eq_cons_iff.1 hdeclared
    obtain ⟨w, rfl, _⟩ := List.map_eq_singleton_iff.1 hrest
    exact ⟨rfl, by simpa [kindContext] using ⟨.keyType rfl rfl, .valueType rfl rfl⟩⟩
  | row fields =>
    refine ⟨rfl, ?_⟩
    obtain ⟨texts, htexts, hrow⟩ := hrow
    simp only [kindContext, List.mem_singleton, forall_eq, hrow]
    exact .fields rfl htexts

/-- The context of a column has a value for each slot of its kind and each attribute, and it is the right one. -/
theorem columnContext_gives (text : String) {name : String}
    (hname : name ≠ "name" ∧ name ≠ "quoted_name") :
    (columnContext v c nested).Gives (TypeValue v (boundColumn v c text nested)) name ∧
      (name ∈ c.dataType.nestedSlots ∨ (c.attributes.find? name).isSome →
        (columnContext v c nested name).isSome) := by
  obtain ⟨hslots, hvalues⟩ := kindContext_nested hscalar hdeclared hrow text
  rw [Context.Gives, columnContext_of_ne c nested hname, ← hslots]
  -- what the kind adds is asked first, so an attribute of the same name is never written
  cases hkind : (kindContext v c.kind nested).lookup name with
  | some w =>
    obtain ⟨front, back, hfound, _⟩ := List.lookup_eq_some_iff.1 hkind
    exact ⟨hvalues (name, w) (hfound ▸ List.mem_append_right _ List.mem_cons_self), fun _ => rfl⟩
  | none =>
    have hother := lookup_eq_none.1 hkind
    rw [Option.none_or, attributeContext]
    cases hfind : c.attributes.find? name with
    | some a => exact ⟨.own (hslots ▸ hother) ⟨a, hfind, rfl⟩, fun _ => rfl⟩
    | none =>
      refine ⟨fun w hw => ?_, fun h => ?_⟩
      · rcases hw.nested_or_own with h | h
        · exact hother (hslots ▸ h)
        · exact absurd h (by simp [boundColumn, hfind])
      · rcases h with h | h
        · exact absurd h hother
        · cases h

end Nested

theorem attributeContext_gives (attributes : Attributes) (name : String) :
    (attributeContext attributes).Gives (Declares attributes) name := by
  rw [Context.Gives, attributeContext]
  cases h : attributes.find? name with
  | some a => exact ⟨a, h, rfl⟩
  | none =>
    rintro w ⟨a, ha, _⟩
    rw [h] at ha
    cases ha

end Binding

namespace Vocabulary.Complete

variable {t : Binding.Target}

/-- A column that binds to a complete vocabulary is complete, if its scalars have types of their own. -/
theorem column (hv : t.vocabulary.Complete) {c : Column} (hc : c.WellKinded) :
    ∀ {parent : Option String} {b : BoundColumn}, Binding.column t parent c = .ok b →
      b.Complete t.vocabulary := by
  induction hc with
  | @intro c scalar _ ih =>
    intro parent b h
    obtain ⟨text, nested, htext, hneeds, hdeclared, hbound, rfl⟩ := Binding.column_eq_ok h
    obtain ⟨hfree, hnames⟩ := of_covers (hv.types c.dataType) htext
    have hrow := Binding.rowFields_written hv.field fun n hn => Binding.quotedName_of_column (hbound n hn)
    have hgives := fun name (hname : name ≠ "name" ∧ name ≠ "quoted_name") =>
      Binding.columnContext_gives scalar hdeclared hrow text hname
    refine .intro htext (completes_render (fun name hname => ?_) fun name hname => ?_) hdeclared
      fun n hn => ih n.declared (hdeclared ▸ List.mem_map_of_mem hn) (hbound n hn)
    · refine (hgives name (hnames name (List.mem_append_left _ hname))).2 ?_
      exact (List.mem_append.1 (hfree name hname)).imp_right (hneeds name)
    · exact (hgives name (hnames name hname)).1

/-- A property that binds to a complete vocabulary is complete. -/
theorem property (hv : t.vocabulary.Complete) {p : Property} {b : BoundProperty}
    (h : Binding.property t p = .ok b) : b.Complete t.vocabulary := by
  obtain ⟨text, htext, h⟩ := bind_eq_ok.1 h
  cases h
  obtain ⟨htemplate, hneeds⟩ := Binding.template_eq_ok.1 htext
  obtain ⟨hfree, _⟩ := of_covers (hv.properties p.kind) htemplate
  refine ⟨text, htemplate, completes_render (fun name hname => ?_) fun name _ => ?_⟩
  · simpa [Binding.attributeContext] using hneeds name (hfree name hname)
  · exact Binding.attributeContext_gives p.attributes name

end Vocabulary.Complete

/-! ### The built-in dialects -/

namespace Dialect

/-- The dialects that are built in. -/
def builtin : List Dialect := [.hive, .presto, .trino, .redshift]

theorem vocabulary_complete {d : Dialect} (hd : d ∈ builtin) : d.vocabulary.Complete := by
  simp only [builtin, List.mem_cons, List.not_mem_nil, or_false] at hd
  rcases hd with rfl | rfl | rfl | rfl
  · exact Vocabulary.hive_complete
  · exact Vocabulary.presto_complete
  · exact Vocabulary.presto_complete
  · exact Vocabulary.redshift_complete

/-- What binds to a built-in dialect has no slot left open: the declaration of any entry, at any depth, and any
property. -/
theorem bound_complete {d : Dialect} (hd : d ∈ builtin) :
    (∀ (categories : Dict Privacy) (e : ColumnEntry) (c : Column), e.toColumn categories = .ok c →
      ∀ (parent : Option String) (b : BoundColumn), Binding.column (Table.target d) parent c = .ok b →
        b.declared = c ∧ b.Complete d.vocabulary) ∧
    ∀ (p : Property) (b : BoundProperty), Binding.property (Table.target d) p = .ok b →
      b.declared = p ∧ b.Complete d.vocabulary := by
  have hv : (Table.target d).vocabulary.Complete := vocabulary_complete hd
  refine ⟨fun categories e c hc parent b hb => ?_, fun p b hb => ?_⟩
  · exact ⟨Binding.declared_of_column hb, hv.column (ColumnEntry.wellKinded_of_toColumn hc) hb⟩
  · exact ⟨Binding.declared_of_property hb, hv.property hb⟩

/-- The entry of a row of two fields. One text in it has a length and one has none, and a precision looks like
a slot. -/
def itinerary : ColumnEntry where
  name := "itinerary"
  type := .row
  fields := [
    { name := "stops", type := .array
      element := some { name := "", type := .varchar, attributes := .ofList [("length", .int 40)] } },
    { name := "fares", type := .map
      keyType := some { name := "class", type := .varchar }
      valueType := some
        { name := "", type := .decimal
          attributes := .ofList [("precision", .text "\x7bscale\x7d"), ("scale", .int 2)] } }]

/-- All slots in the type of the row are filled in, and so are those of a property. -/
theorem itinerary_complete : Dialect.trino ∈ builtin ∧
    (∃ c b, itinerary.toColumn {} = .ok c ∧ Binding.column (Table.target .trino) none c = .ok b ∧
      b.Complete Vocabulary.presto ∧
      b.typeText =
        "ROW(\"stops\" ARRAY(VARCHAR(40)), \"fares\" MAP(VARCHAR, DECIMAL(\x7bscale\x7d,2)))") ∧
    ∃ b, Binding.property (Table.target .trino) (.bucket ["stops"] 8) = .ok b ∧
      b.Complete Vocabulary.presto ∧ b.text = "bucketed_by = ARRAY['stops'], bucket_count = 8" := by
  have hd : Dialect.trino ∈ builtin := by simp [builtin]
  have htype : (itinerary.toColumn {} >>= fun c =>
      (Binding.column (Table.target .trino) none c).map (·.typeText)) =
      .ok "ROW(\"stops\" ARRAY(VARCHAR(40)), \"fares\" MAP(VARCHAR, DECIMAL(\x7bscale\x7d,2)))" := by
    cbv
  have htext : (Binding.property (Table.target .trino) (.bucket ["stops"] 8)).map (·.text) =
      .ok "bucketed_by = ARRAY['stops'], bucket_count = 8" := by cbv
  obtain ⟨hcolumn, hproperty⟩ := bound_complete hd
  obtain ⟨c, hc, htype⟩ := bind_eq_ok.1 htype
  obtain ⟨b, hb, htype⟩ := map_eq_ok.1 htype
  obtain ⟨p, hp, htext⟩ := map_eq_ok.1 htext
  exact ⟨hd, ⟨c, b, hc, hb, (hcolumn {} itinerary c hc none b hb).2, htype⟩, p, hp,
    (hproperty _ p hp).2, htext⟩

end Dialect

end Warehouse
