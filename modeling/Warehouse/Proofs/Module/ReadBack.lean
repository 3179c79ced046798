import Mathlib
import Warehouse.Module.Reader
import Warehouse.Proofs.Document.Records

/-!
Modules as JSON lose nothing. What is written for each part of a module reads back as that part, and no
two alternatives of a place are written alike: a category of personal data is a text and rules are an
object, and each kind of attribute is a JSON value of its own. Floats are left out, since one that is not
finite is no number in JSON.
-/

namespace Warehouse

open Document
open Option (bind_eq_some_iff)

/-! ### Without floats -/

/-- Whether an attribute is no float. -/
def Attribute.FloatFree : Attribute → Prop
  | .float _ => False
  | _ => True

instance : DecidablePred Attribute.FloatFree
  | .float _ => isFalse id
  | .bool _ | .int _ | .text _ | .list _ => isTrue trivial

/-- Whether no attribute is a float. -/
def FloatFreeAttributes (attributes : Attributes) : Prop := ∀ e ∈ attributes.entries, e.2.FloatFree

instance (attributes : Attributes) : Decidable (FloatFreeAttributes attributes) :=
  inferInstanceAs (Decidable (∀ e ∈ attributes.entries, e.2.FloatFree))

namespace ColumnEntry

/-- The entries that are nested in an entry. -/
def inner (e : ColumnEntry) : List ColumnEntry :=
  e.element.toList ++ e.keyType.toList ++ e.valueType.toList ++ e.fields

/-- Neither the entry nor any that is nested in it, at any depth, has a float among its attributes. -/
inductive FloatFree : ColumnEntry → Prop
  | intro {e : ColumnEntry} (attributes : FloatFreeAttributes e.attributes)
      (inner : ∀ p ∈ e.inner, FloatFree p) : FloatFree e

end ColumnEntry

/-- Whether neither the columns nor the properties of a table entry have floats. -/
structure TableEntry.FloatFree (t : TableEntry) : Prop where
  columns : ∀ e ∈ t.columns, e.FloatFree
  properties : ∀ p ∈ t.properties, FloatFreeAttributes p.attributes

/-- Whether no table of a module has floats among its attributes. -/
def Module.FloatFree (m : Module) : Prop := ∀ t ∈ m.tables, t.FloatFree

/-! ### Attributes -/

namespace Attribute

theorem ofInt_toInt (i : Int64) : ofInt i.toInt = .int i := by
  have hlow := i.le_toInt
  have hhigh := i.toInt_lt
  rw [ofInt, if_pos (by simp; omega), Int64.ofInt_toInt]

theorem ofDocument?_toJson {a : Attribute} (h : a.FloatFree) : ofDocument? (ofJson a.toJson) = some a := by
  rw [ofDocument?, resolve?_ofJson]
  cases a with
  | bool b => rfl
  | int i => exact congrArg some (ofInt_toInt i)
  | float x => exact h.elim
  | text s => rfl
  | list items =>
    have hitems : (items.map fun s => Document.atom (.text s)).mapM item? = some items :=
      mapM_of_readBack fun _ _ => rfl
    rw [toJson, ofJson, ofItems_eq_map, List.map_map]
    exact congrArg (Option.map list) hitems

end Attribute

theorem readAttributes_toJson {attributes : Attributes} (h : FloatFreeAttributes attributes) :
    readAttributes (ofJson (jsonDict Attribute.toJson attributes)) = some attributes :=
  dictOf_ofJson fun e he => Attribute.ofDocument?_toJson (h e he)

/-! ### Privacy rules -/

theorem Lifecycle.ofKey?_key (e : Lifecycle) : Lifecycle.ofKey? e.key = some e := by
  cases e <;> rfl

namespace Privacy

theorem ofDocument?_toJson (p : Privacy) : ofDocument? (ofJson p.toJson) = some p := by
  obtain ⟨name, dropOn, onInsert, onDelete⟩ := p
  have hdrop : ifPresent (fun d => d.variant?.bind Lifecycle.ofKey?)
      (ofJson (jsonText? (dropOn.map (·.key)))) = some dropOn := by
    rw [jsonText?, Option.map_map]
    exact ifPresent_ofJson (fun e _ => e.ofKey?_key) (fun _ _ => nofun)
  obtain ⟨fs, hfs, hlookup⟩ := fields?_ofJson fieldNames true
    (j := toJson ⟨name, dropOn, onInsert, onDelete⟩) rfl rfl (by decide)
  simp only [List.forall_mem_cons] at hlookup
  obtain ⟨hname, hdropOn, honInsert, honDelete, -⟩ := hlookup
  simp only [ofDocument?, hfs, Option.bind_eq_bind, Option.bind_some, optional_eq hname,
    optional_eq hdropOn, optional_eq honInsert, optional_eq honDelete, ifPresent_jsonText, hdrop]
  rfl

end Privacy

theorem PrivacyRef.ofDocument?_toJson (r : PrivacyRef) : ofDocument? (ofJson r.toJson) = some r := by
  rw [ofDocument?, resolve?_ofJson]
  cases r with
  | category name => rfl
  | inline rules => exact congrArg (Option.map inline) rules.ofDocument?_toJson

/-! ### Properties and policies -/

theorem PropertyKind.ofKey?_key (k : PropertyKind) : PropertyKind.ofKey? k.key = some k := by
  cases k <;> decide

theorem Property.ofDocument?_toJson {p : Property} (h : FloatFreeAttributes p.attributes) :
    ofDocument? (ofJson p.toJson) = some p := by
  obtain ⟨kind, attributes⟩ := p
  have hkind : (ofJson (.text kind.key)).variant?.bind PropertyKind.ofKey? = some kind := kind.ofKey?_key
  obtain ⟨fs, hfs, hlookup⟩ := fields?_ofJson fieldNames true
    (j := toJson ⟨kind, attributes⟩) rfl rfl (by decide)
  simp only [List.forall_mem_cons] at hlookup
  obtain ⟨hkindField, hattributes, -⟩ := hlookup
  simp only [ofDocument?, hfs, Option.bind_eq_bind, Option.bind_some, required_eq hkindField,
    defaulted_eq hattributes, hkind, readAttributes_toJson h]
  rfl

theorem PolicyKind.ofKey?_key (k : PolicyKind) : PolicyKind.ofKey? k.key = some k := by
  cases k <;> decide

namespace Policy

theorem days?_toNat (days : UInt32) : days? (ofJson (.int days.toNat)) = some days := by
  have hlt := days.toNat_lt
  rw [ofJson, days?, if_pos (by simp; omega), Int.toNat_natCast, UInt32.ofNat_toNat]

theorem readExpiry_fields (e : Expiry) : readExpiry (ofJson (.object e.fields)) = some e := by
  obtain ⟨daysAgo, earliest⟩ := e
  have hearliest : ifPresent (dictOf text?) (ofJson ((earliest.map (jsonDict .text)).getD .null)) =
      some earliest :=
    ifPresent_ofJson (fun _ _ => dictOf_ofJson fun _ _ => rfl) (fun _ _ => nofun)
  obtain ⟨fs, hfs, hlookup⟩ := fields?_ofJson ["ds_ago", "earliest_partition"] false
    (j := .object (Expiry.fields ⟨daysAgo, earliest⟩)) rfl rfl (by decide)
  simp only [Expiry.fields, List.forall_mem_cons] at hlookup
  obtain ⟨hdays, hvalues, -⟩ := hlookup
  simp only [readExpiry, hfs, Option.bind_eq_bind, Option.bind_some, required_eq hdays,
    optional_eq hvalues, days?_toNat, hearliest]
  rfl

theorem asText_ofJson (j : Json) : asText (ofJson j) = ofJson j := by
  cases j <;> rfl

/-- In JSON the kind of a policy is a text already. -/
theorem withKindAsText_ofJson (entries : List (String × Json)) :
    withKindAsText (ofJson (.object entries)) = ofJson (.object entries) := by
  rw [ofJson, withKindAsText, ofEntries_eq_map, List.map_map]
  refine congrArg _ (List.map_congr_left fun e _ => ?_)
  dsimp only [Function.comp_apply]
  rw [asText_ofJson, ite_self]

theorem ofDocument?_toJson (p : Policy) : ofDocument? (ofJson p.toJson) = some p := by
  have hresolve : (withKindAsText (ofJson p.toJson)).resolve? = some (ofJson p.toJson) := by
    rw [toJson, withKindAsText_ofJson, resolve?_ofJson]
  rw [ofDocument?, hresolve]
  cases p with
  | retention e =>
    have hsplit : splitKind? (ofJson (retention e).toJson) =
        some (PolicyKind.partitionRetention.key, ofJson (.object e.fields)) := rfl
    simp [hsplit, PolicyKind.ofKey?_key, readExpiry_fields]
  | anonymisation e =>
    have hsplit : splitKind? (ofJson (anonymisation e).toJson) =
        some (PolicyKind.partitionAnonymisation.key, ofJson (.object e.fields)) := rfl
    simp [hsplit, PolicyKind.ofKey?_key, readExpiry_fields]
  | manual => rfl

end Policy

/-! ### Column entries -/

theorem DataType.ofKey?_key (t : DataType) : DataType.ofKey? t.key = some t := by
  cases t <;> decide

namespace ColumnEntry

theorem listToJson_eq_map : ∀ es : List ColumnEntry, listToJson es = es.map toJson
  | [] => by rw [listToJson, List.map_nil]
  | e :: rest => by rw [listToJson, listToJson_eq_map rest, List.map_cons]

theorem partToJson_eq (part : Option ColumnEntry) : partToJson part = (part.map toJson).getD .null := by
  cases part <;> rw [partToJson] <;> rfl

theorem toJson_ne_null : ∀ e : ColumnEntry, e.toJson ≠ .null
  | ⟨h, element, keyType, valueType, fields⟩ => by
    rw [toJson]
    nofun

/-- What is nested in an entry stands in one of four fields. -/
theorem toJson_parts : ∀ e : ColumnEntry, ∃ entries, e.toJson = .object entries ∧
    (∀ name part, (name, part) ∈ [("element", e.element), ("key_type", e.keyType),
      ("value_type", e.valueType)] → (name, partToJson part) ∈ entries) ∧
    ("fields", .list (listToJson e.fields)) ∈ entries
  | ⟨h, element, keyType, valueType, fields⟩ => by
    refine ⟨_, by rw [toJson], ?_, by simp⟩
    intro name part hpart
    simp only [List.mem_cons, Prod.mk.injEq, List.not_mem_nil, or_false] at hpart
    rcases hpart with ⟨rfl, rfl⟩ | ⟨rfl, rfl⟩ | ⟨rfl, rfl⟩ <;> simp

/-- What is nested in an entry is nested in its document, and hence less deep. -/
theorem depth_inner {e p : ColumnEntry} (hp : p ∈ e.inner) :
    (ofJson p.toJson).depth < (ofJson e.toJson).depth := by
  obtain ⟨entries, hjson, hparts, hfields⟩ := e.toJson_parts
  rw [hjson, ofJson, depth, Nat.lt_succ_iff]
  have hpart : ∀ name part, (name, partToJson part) ∈ entries → part = some p →
      (ofJson p.toJson).depth ≤ depthOfPairs (ofEntries entries) := by
    rintro name _ hmem rfl
    have hle := depth_le_of_mem_entries hmem
    rwa [partToJson] at hle
  simp only [inner, List.mem_append, Option.mem_toList] at hp
  rcases hp with ((hp | hp) | hp) | hp
  · exact hpart _ _ (hparts "element" _ (by simp)) hp
  · exact hpart _ _ (hparts "key_type" _ (by simp)) hp
  · exact hpart _ _ (hparts "value_type" _ (by simp)) hp
  · have hlist : p.toJson ∈ listToJson e.fields := by
      rw [listToJson_eq_map]
      exact List.mem_map_of_mem hp
    have hdepth := depth_le_of_mem_entries hfields
    rw [ofJson, depth] at hdepth
    exact (depth_le_of_mem_items hlist).trans ((Nat.le_succ _).trans hdepth)

/-- An entry is read back if what is nested in it is. -/
theorem read_succ {n : Nat} {e : ColumnEntry} (hattributes : FloatFreeAttributes e.attributes)
    (hinner : ∀ p ∈ e.inner, read n (ofJson p.toJson) = some p) :
    read (n + 1) (ofJson e.toJson) = some e := by
  obtain ⟨⟨name, type, attributes, comment, defaultValue, partition, value, privacy⟩, element, keyType,
    valueType, fields⟩ := e
  simp only [inner, List.forall_mem_append, Option.mem_toList] at hinner
  obtain ⟨⟨⟨helement, hkey⟩, hvalueType⟩, hfields⟩ := hinner
  have htype : readType (ofJson (.text type.key)) = some type := type.ofKey?_key
  have hprivacy : ifPresent PrivacyRef.ofDocument? (ofJson ((privacy.map (·.toJson)).getD .null)) =
      some privacy := by
    refine ifPresent_ofJson (fun r _ => r.ofDocument?_toJson) (fun r _ => ?_)
    cases r <;> nofun
  have hpart : ∀ {part : Option ColumnEntry}, (∀ p, part = some p → read n (ofJson p.toJson) = some p) →
      ifPresent (read n) (ofJson (partToJson part)) = some part := by
    intro part h
    rw [partToJson_eq]
    exact ifPresent_ofJson (fun p hp => h p hp) (fun p _ => p.toJson_ne_null)
  have hlist : listOf (read n) (ofJson (.list (listToJson fields))) = some fields := by
    rw [listToJson_eq_map]
    exact listOf_ofJson hfields
  have hjson := toJson.eq_1 ⟨name, type, attributes, comment, defaultValue, partition, value, privacy⟩
    element keyType valueType fields
  obtain ⟨fs, hfs, hlookup⟩ := fields?_ofJson fieldNames true hjson rfl (by decide)
  simp only [List.forall_mem_cons] at hlookup
  obtain ⟨fname, ftype, fattributes, fcomment, fdefault, fpartition, fvalue, fprivacy, felement, fkey,
    fvalueType, ffields, -⟩ := hlookup
  -- the fields in the order in which they are read
  rw [read]
  refine bind_eq_some_iff.2 ⟨fs, hfs, ?_⟩
  refine bind_eq_some_iff.2 ⟨name, defaulted_eq fname _ _, ?_⟩
  refine bind_eq_some_iff.2 ⟨type, (required_eq ftype _).trans htype, ?_⟩
  refine bind_eq_some_iff.2
    ⟨attributes, (defaulted_eq fattributes _ _).trans (readAttributes_toJson hattributes), ?_⟩
  refine bind_eq_some_iff.2 ⟨comment, (optional_eq fcomment _).trans (ifPresent_jsonText _), ?_⟩
  refine bind_eq_some_iff.2 ⟨defaultValue, (optional_eq fdefault _).trans (ifPresent_jsonText _), ?_⟩
  refine bind_eq_some_iff.2 ⟨partition, defaulted_eq fpartition _ _, ?_⟩
  refine bind_eq_some_iff.2 ⟨value, (optional_eq fvalue _).trans (ifPresent_jsonText _), ?_⟩
  refine bind_eq_some_iff.2 ⟨privacy, (optional_eq fprivacy _).trans hprivacy, ?_⟩
  refine bind_eq_some_iff.2 ⟨element, (optional_eq felement _).trans (hpart helement), ?_⟩
  refine bind_eq_some_iff.2 ⟨keyType, (optional_eq fkey _).trans (hpart hkey), ?_⟩
  refine bind_eq_some_iff.2 ⟨valueType, (optional_eq fvalueType _).trans (hpart hvalueType), ?_⟩
  refine bind_eq_some_iff.2 ⟨fields, (defaulted_eq ffields _ _).trans hlist, ?_⟩
  rfl

/-- To read an entry back, it is enough to read as deep as its document goes. -/
theorem read_toJson {e : ColumnEntry} (he : e.FloatFree) : ∀ {n : Nat}, (ofJson e.toJson).depth ≤ n →
    read n (ofJson e.toJson) = some e := by
  -- on what is nested in the entry, each with one level less to read
  induction he with
  | @intro e hattributes _ ih =>
    intro n hn
    obtain ⟨n, rfl⟩ := Nat.exists_eq_succ_of_ne_zero (n := n) (by
      rintro rfl
      obtain ⟨entries, hjson, -⟩ := e.toJson_parts
      rw [hjson, ofJson, depth] at hn
      omega)
    refine read_succ hattributes fun p hp => ih p hp ?_
    exact Nat.le_of_lt_succ ((depth_inner hp).trans_le hn)

theorem ofDocument?_toJson {e : ColumnEntry} (he : e.FloatFree) : ofDocument? (ofJson e.toJson) = some e :=
  read_toJson he (Nat.le_refl _)

end ColumnEntry

/-! ### Table entries and modules -/

theorem TableEntry.ofDocument?_toJson {t : TableEntry} (ht : t.FloatFree) :
    ofDocument? (ofJson t.toJson) = some t := by
  obtain ⟨name, description, namePrefix, isAbstract, base, columns, properties, policies⟩ := t
  have hname : text? (ofJson (.text name)) = some name := rfl
  have habstract : flag? (ofJson (.bool isAbstract)) = some isAbstract := rfl
  have hcolumns : listOf ColumnEntry.ofDocument? (ofJson (.list (ColumnEntry.listToJson columns))) =
      some columns := by
    rw [ColumnEntry.listToJson_eq_map]
    exact listOf_ofJson fun e he => ColumnEntry.ofDocument?_toJson (ht.columns e he)
  have hproperties : listOf Property.ofDocument? (ofJson (.list (properties.map (·.toJson)))) =
      some properties :=
    listOf_ofJson fun p hp => Property.ofDocument?_toJson (ht.properties p hp)
  have hpolicies : listOf Policy.ofDocument? (ofJson (.list (policies.map (·.toJson)))) = some policies :=
    listOf_ofJson fun p _ => p.ofDocument?_toJson
  obtain ⟨fs, hfs, hlookup⟩ := fields?_ofJson fieldNames true
    (j := toJson ⟨name, description, namePrefix, isAbstract, base, columns, properties, policies⟩)
    rfl rfl (by decide)
  simp only [List.forall_mem_cons] at hlookup
  obtain ⟨fname, fdescription, fprefix, fabstract, fbase, fcolumns, fproperties, fpolicies, -⟩ := hlookup
  simp only [ofDocument?, hfs, Option.bind_eq_bind, Option.bind_some, required_eq fname,
    optional_eq fdescription, optional_eq fprefix, defaulted_eq fabstract, optional_eq fbase,
    defaulted_eq fcolumns, defaulted_eq fproperties, defaulted_eq fpolicies, ifPresent_jsonText, hname,
    habstract, hcolumns, hproperties, hpolicies]
  rfl

namespace Module

/-- A module without floats is read back from the JSON value that is written for it. -/
theorem toJson_read_back {m : Module} (hm : m.FloatFree) : ofDocument? (ofJson m.toJson) = some m := by
  obtain ⟨name, description, privacy, tables⟩ := m
  have hprivacy : dictOf Privacy.ofDocument? (ofJson (jsonDict Privacy.toJson privacy)) = some privacy :=
    dictOf_ofJson fun e _ => e.2.ofDocument?_toJson
  have htables : listOf TableEntry.ofDocument? (ofJson (.list (tables.map (·.toJson)))) = some tables :=
    listOf_ofJson fun t ht => TableEntry.ofDocument?_toJson (hm t ht)
  obtain ⟨fs, hfs, hlookup⟩ := fields?_ofJson fieldNames true
    (j := toJson ⟨name, description, privacy, tables⟩) rfl rfl (by decide)
  simp only [List.forall_mem_cons] at hlookup
  obtain ⟨fname, fdescription, fprivacy, ftables, -⟩ := hlookup
  simp only [ofDocument?, hfs, Option.bind_eq_bind, Option.bind_some, optional_eq fname,
    optional_eq fdescription, defaulted_eq fprivacy, defaulted_eq ftables, ifPresent_jsonText, hprivacy,
    htables]
  rfl

/-- A column that holds a list of rows, with rules of its own on what is nested deepest. -/
def orders : ColumnEntry where
  name := "orders"
  type := .array
  privacy := some (.category "shop")
  element := some
    { name := ""
      type := .row
      fields :=
        [{ name := "price"
           type := .decimal
           attributes := Dict.ofList [("precision", .int 12), ("scale", .text "2"), ("exact", .bool true)] },
         { name := "note\n"
           type := .varchar
           privacy := some (.inline
            { dropOn := some .delete, onInsert := some "UPPER(\x7bquoted_name\x7d)" }) }] }

/-- A module with a category of personal data, and one property and one policy of each kind. -/
def shop : Module where
  name := some "shop"
  privacy := Dict.ofList [("shop", { onDelete := some "NULL" })]
  tables :=
    [{ name := "Orders"
       isAbstract := true
       columns := [orders, { name := "ds", type := .date, partition := true, value := some "" }]
       properties :=
        [.format "ORC", .bucket ["id", "1"] (-1), .sortkey ["id"], .distributionKey "id",
          .distributionStyle "all"]
       policies :=
        [.retention ⟨0, some (Dict.ofList [("ds", "'2020-01-01'")])⟩, .anonymisation ⟨4294967295, none⟩,
          .manual] }]

theorem orders_floatFree : orders.FloatFree := by
  have hprice : FloatFreeAttributes
      (Dict.ofList [("precision", .int 12), ("scale", .text "2"), ("exact", .bool true)]) := by decide
  have hnone : FloatFreeAttributes Dict.empty := nofun
  refine .intro hnone (List.forall_mem_singleton.2 (.intro hnone ?_))
  refine List.forall_mem_cons.2 ⟨.intro hprice nofun, List.forall_mem_singleton.2 (.intro hnone nofun)⟩

theorem shop_read_back : ofDocument? (ofJson shop.toJson) = some shop := by
  have hds : ColumnEntry.FloatFree { name := "ds", type := .date, partition := true, value := some "" } :=
    .intro nofun nofun
  refine toJson_read_back (List.forall_mem_singleton.2 ⟨?_, ?_⟩)
  · exact List.forall_mem_cons.2 ⟨orders_floatFree, List.forall_mem_singleton.2 hds⟩
  · simp only [List.forall_mem_cons]
    decide

end Module

end Warehouse
