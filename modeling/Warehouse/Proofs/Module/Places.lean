import Warehouse.Proofs.Module.Checked

/-!
Where the parts of an entry end up. An entry has places for an element, for the types of a key and a value
and for fields, whatever its type is; its declaration has only the places of its type. So a part that
stands where the type has no use for it is checked with the rest, for a type that has other parts, and
then has no place in the declaration. Main statement: what the declaration holds at each place, and when
nothing is lost.
-/

namespace Warehouse

open Outcome (bind_eq_ok map_eq_ok)

/-- A place for a part of a declaration. -/
inductive Place where
  | element
  | keyType
  | valueType
  | field (index : Nat)
  deriving DecidableEq, Repr

/-- Whether declarations of the type have a part at the place. -/
def DataType.holds : DataType → Place → Bool
  | .array, .element => true
  | .map, .keyType => true
  | .map, .valueType => true
  | .row, .field _ => true
  | _, _ => false

namespace ColumnEntry

/-- The part at a place of the entry, whatever the type of the entry. -/
def part? (e : ColumnEntry) : Place → Option ColumnEntry
  | .element => e.element
  | .keyType => e.keyType
  | .valueType => e.valueType
  | .field i => e.fields[i]?

/-- The part at the end of a path of places. -/
def at? (e : ColumnEntry) : List Place → Option ColumnEntry
  | [] => some e
  | p :: path => (e.part? p).bind (·.at? path)

/-- The part at a place that the type of the entry has. -/
def usedPart? (e : ColumnEntry) (p : Place) : Option ColumnEntry :=
  if e.type.holds p then e.part? p else none

/-- The part at the end of a path on which each type has the place that is taken. -/
def usedAt? (e : ColumnEntry) : List Place → Option ColumnEntry
  | [] => some e
  | p :: path => (e.usedPart? p).bind (·.usedAt? path)

/-- Whether each part, at any depth, stands at a place that the type around it has. -/
def Fitting (e : ColumnEntry) : Prop :=
  ∀ path part, e.at? path = some part → ∀ p inner, part.part? p = some inner → part.type.holds p = true

end ColumnEntry

namespace Column

/-- The part at a place of the column. -/
def part? (c : Column) (p : Place) : Option Column :=
  match c.kind, p with
  | .array element, .element => some element
  | .map key _, .keyType => some key
  | .map _ value, .valueType => some value
  | .row fields, .field i => fields[i]?
  | _, _ => none

/-- The part at the end of a path of places. -/
def at? (c : Column) : List Place → Option Column
  | [] => some c
  | p :: path => (c.part? p).bind (·.at? path)

end Column

theorem DataType.holds_of_scalar {t : DataType} (harray : t = .array → False) (hmap : t = .map → False)
    (hrow : t = .row → False) (p : Place) : t.holds p = false := by
  revert harray hmap hrow
  cases t <;> cases p <;> simp [holds]

namespace ColumnEntry

open DataType (holds_of_scalar)

variable {categories : Dict Privacy}

/-- Whether the column says what the entry says of itself, its category of personal data looked up. -/
structure Declares (categories : Dict Privacy) (e : ColumnEntry) (c : Column) : Prop where
  name : c.name = e.name
  dataType : c.dataType = e.type
  attributes : c.attributes = e.attributes
  privacy : rules categories e.name e.privacy = .ok c.privacy
  isPartition : c.isPartition = e.partition
  value : c.value = e.value
  defaultValue : c.defaultValue = e.defaultValue
  comment : c.comment = e.comment
  fresh : c.manuallySet = false ∧ c.orderingKey = none

/-! ### One entry -/

theorem withKind_declares {h : EntryHead} {kind : Kind Column} {c : Column}
    (hc : withKind categories h kind = .ok c) (ht : kind.dataType = h.type) :
    c.kind = kind ∧ ∀ element keyType valueType fields,
      Declares categories ⟨h, element, keyType, valueType, fields⟩ c := by
  obtain ⟨_, hrules, rfl⟩ := map_eq_ok.1 hc
  exact ⟨rfl, fun _ _ _ _ => ⟨rfl, ht, rfl, hrules, rfl, rfl, rfl, rfl, rfl, rfl⟩⟩

theorem partToColumn_ok {absent : Problem} {part : Option ColumnEntry} {c : Column}
    (h : partToColumn categories absent part = .ok c) :
    ∃ e, part = some e ∧ e.toColumn categories = .ok c := by
  cases part with
  | none => rw [partToColumn] at h; cases h
  | some e => exact ⟨e, rfl, by rwa [partToColumn] at h⟩

theorem toColumns_ok : ∀ {fields : List ColumnEntry} {cs : List Column},
    toColumns categories fields = .ok cs →
      List.Forall₂ (fun e c => e.toColumn categories = .ok c) fields cs
  | [], _, h => by
    rw [toColumns] at h
    cases h
    exact .nil
  | e :: rest, _, h => by
    rw [toColumns] at h
    obtain ⟨c, hc, h⟩ := bind_eq_ok.1 h
    obtain ⟨cs, hcs, h⟩ := bind_eq_ok.1 h
    cases h
    exact .cons hc (toColumns_ok hcs)

/-- Lists that are related element by element are related at each index. -/
theorem rel_getElem? {α β : Type} {R : α → β → Prop} {l : List α} {k : List β}
    (h : List.Forall₂ R l k) : ∀ i : Nat, Option.Rel R l[i]? k[i]? := by
  induction h with
  | nil => exact fun i => .none
  | cons hab _ ih =>
    intro i
    cases i with
    | zero => exact .some hab
    | succ i => exact ih i

/-- The declaration of an entry says what the entry says, and has at each place the declaration of the part
there, if the type has the place. -/
theorem toColumn_parts {c : Column} : ∀ {e : ColumnEntry}, e.toColumn categories = .ok c →
    e.Declares categories c ∧ ∀ p, Option.Rel (fun part d => part.toColumn categories = .ok d)
      (e.usedPart? p) (c.part? p)
  | ⟨h, element, keyType, valueType, fields⟩, hcolumn => by
    rw [toColumn] at hcolumn
    split at hcolumn
    · next ht =>
      obtain ⟨d, hd, hc⟩ := bind_eq_ok.1 hcolumn
      obtain ⟨part, helement, hpart⟩ := partToColumn_ok hd
      obtain ⟨hkind, hdeclares⟩ := withKind_declares hc ht.symm
      refine ⟨hdeclares .., fun p => ?_⟩
      simp only [usedPart?, Column.part?, hkind, ht]
      cases p with
      | element => exact helement ▸ .some hpart
      | keyType => exact .none
      | valueType => exact .none
      | field i => exact .none
    · next ht =>
      obtain ⟨k, hk, hrest⟩ := bind_eq_ok.1 hcolumn
      obtain ⟨v, hv, hc⟩ := bind_eq_ok.1 hrest
      obtain ⟨keyPart, hkey, hk⟩ := partToColumn_ok hk
      obtain ⟨valuePart, hvalue, hv⟩ := partToColumn_ok hv
      obtain ⟨hkind, hdeclares⟩ := withKind_declares hc ht.symm
      refine ⟨hdeclares .., fun p => ?_⟩
      simp only [usedPart?, Column.part?, hkind, ht]
      cases p with
      | element => exact .none
      | keyType => exact hkey ▸ .some hk
      | valueType => exact hvalue ▸ .some hv
      | field i => exact .none
    · next ht =>
      obtain ⟨fs, hfs, hc⟩ := bind_eq_ok.1 hcolumn
      obtain ⟨hkind, hdeclares⟩ := withKind_declares hc ht.symm
      refine ⟨hdeclares .., fun p => ?_⟩
      simp only [usedPart?, Column.part?, hkind, ht]
      cases p with
      | element => exact .none
      | keyType => exact .none
      | valueType => exact .none
      | field i => exact rel_getElem? (toColumns_ok hfs) i
    · next harray hmap hrow =>
      obtain ⟨hkind, hdeclares⟩ := withKind_declares hcolumn rfl
      refine ⟨hdeclares .., fun p => ?_⟩
      have hnone : h.type.holds p = false := holds_of_scalar harray hmap hrow p
      simp only [usedPart?, Column.part?, hkind, hnone]
      exact .none

/-! ### Paths -/

theorem at?_of_usedAt? {path : List Place} : ∀ {e part : ColumnEntry}, e.usedAt? path = some part →
    e.at? path = some part := by
  induction path with
  | nil => exact fun h => h
  | cons p path ih =>
    intro e part h
    obtain ⟨inner, hinner, h⟩ := Option.bind_eq_some_iff.1 h
    rw [usedPart?, Option.ite_none_right_eq_some] at hinner
    exact Option.bind_eq_some_iff.2 ⟨inner, hinner.2, ih h⟩

theorem at?_concat (e : ColumnEntry) (path : List Place) (p : Place) :
    e.at? (path ++ [p]) = (e.at? path).bind (·.part? p) := by
  induction path generalizing e with
  | nil => exact Option.bind_fun_some _
  | cons q path ih =>
    rw [List.cons_append, at?, at?, Option.bind_assoc]
    exact Option.bind_congr fun inner _ => ih inner

theorem usedAt?_concat (e : ColumnEntry) (path : List Place) (p : Place) :
    e.usedAt? (path ++ [p]) = (e.usedAt? path).bind (·.usedPart? p) := by
  induction path generalizing e with
  | nil => exact Option.bind_fun_some _
  | cons q path ih =>
    rw [List.cons_append, usedAt?, usedAt?, Option.bind_assoc]
    exact Option.bind_congr fun inner _ => ih inner

/-- A declaration has at the end of each path what the part there declares, if all types on the path have
the place that is taken, and nothing otherwise. -/
theorem toColumn_at? (path : List Place) : ∀ {e : ColumnEntry} {c : Column},
    e.toColumn categories = .ok c → Option.Rel (Declares categories) (e.usedAt? path) (c.at? path) := by
  induction path with
  | nil => exact fun h => .some (toColumn_parts h).1
  | cons p path ih =>
    intro e c h
    rw [usedAt?, Column.at?]
    have hpart := (toColumn_parts h).2 p
    revert hpart
    generalize e.usedPart? p = part
    generalize c.part? p = d
    rintro (hpart | _)
    · exact ih hpart
    · exact .none

/-- In a fitting entry every path is one that its types have. -/
theorem Fitting.usedAt?_eq {e : ColumnEntry} (h : e.Fitting) (path : List Place) :
    e.usedAt? path = e.at? path := by
  induction path generalizing e with
  | nil => rfl
  | cons p path ih =>
    have hpart : e.usedPart? p = e.part? p := by
      rw [usedPart?]
      cases hp : e.part? p with
      | none => exact ite_self none
      | some inner => rw [h [] e rfl p inner hp, if_pos rfl]
    rw [usedAt?, at?, hpart]
    refine Option.bind_congr fun inner hinner => ih fun rest part hrest => ?_
    exact h (p :: rest) part (Option.bind_eq_some_iff.2 ⟨inner, hinner, hrest⟩)

/-! ### Checked entries -/

theorem checkFields_part {fields : List ColumnEntry} {path : String}
    (h : checkFields categories path fields = .ok ()) :
    ∀ part ∈ fields, ∃ path, part.check categories path = .ok () := by
  induction fields with
  | nil => simp
  | cons part rest ih =>
    rw [checkFields] at h
    split at h
    · cases h
    · obtain ⟨_, hpart, hrest⟩ := bind_eq_ok.1 h
      exact List.forall_mem_cons.2 ⟨⟨_, hpart⟩, ih hrest⟩

theorem checkPart_part {part : Option ColumnEntry} {inner : ColumnEntry} {path : String}
    (h : checkPart categories path part = .ok ()) (hpart : part = some inner) :
    ∃ path, inner.check categories path = .ok () := by
  rw [hpart, checkPart] at h
  split at h
  · cases h
  · exact ⟨_, h⟩

/-- An entry of a scalar type that passes the check has no parts. -/
theorem checkParts_scalar {path : String} {t : DataType} (ht : t.isComposite = false)
    {element keyType valueType fields : Bool}
    (h : checkParts path t element keyType valueType fields = .ok ()) :
    (element || keyType || valueType || fields) = false := by
  unfold checkParts at h
  split at h
  · cases ht
  · cases ht
  · cases ht
  · split at h
    · cases h
    · next hparts => exact Bool.eq_false_iff.2 hparts

/-- All parts of an entry that passes the check pass it too, and an entry with parts is of a type that has
some, if not these. -/
theorem check_part {p : Place} {inner : ColumnEntry} : ∀ {e : ColumnEntry} {path : String},
    e.check categories path = .ok () → e.part? p = some inner →
      (∃ path, inner.check categories path = .ok ()) ∧ e.type.isComposite = true
  | ⟨h, element, keyType, valueType, fields⟩, path, hcheck, hp => by
    rw [check] at hcheck
    obtain ⟨_, _, hcheck⟩ := bind_eq_ok.1 hcheck
    obtain ⟨_, hparts, hcheck⟩ := bind_eq_ok.1 hcheck
    obtain ⟨_, helement, hcheck⟩ := bind_eq_ok.1 hcheck
    obtain ⟨_, hkey, hcheck⟩ := bind_eq_ok.1 hcheck
    obtain ⟨_, hvalue, hfields⟩ := bind_eq_ok.1 hcheck
    refine ⟨?_, ?_⟩
    · cases p with
      | element => exact checkPart_part helement hp
      | keyType => exact checkPart_part hkey hp
      | valueType => exact checkPart_part hvalue hp
      | field i => exact checkFields_part hfields inner (List.mem_of_getElem? hp)
    · by_contra hscalar
      have hnone := checkParts_scalar (by simpa using hscalar) hparts
      simp only [Bool.or_eq_false_iff, Bool.not_eq_false', List.isEmpty_iff] at hnone
      obtain ⟨⟨⟨helement, hkey⟩, hvalue⟩, hfields⟩ := hnone
      cases p with
      | element => rw [show element = some inner from hp] at helement; cases helement
      | keyType => rw [show keyType = some inner from hp] at hkey; cases hkey
      | valueType => rw [show valueType = some inner from hp] at hvalue; cases hvalue
      | field i => rw [hfields] at hp; cases hp

theorem check_at? {path : List Place} {part : ColumnEntry} : ∀ {e : ColumnEntry} {label : String},
    e.check categories label = .ok () → e.at? path = some part →
      ∃ label, part.check categories label = .ok () := by
  induction path with
  | nil =>
    intro e label h hpart
    cases hpart
    exact ⟨label, h⟩
  | cons p path ih =>
    intro e label h hpart
    obtain ⟨inner, hinner, hpart⟩ := Option.bind_eq_some_iff.1 hpart
    obtain ⟨_, hcheck⟩ := (check_part h hinner).1
    exact ih hcheck hpart

end ColumnEntry

/-- What becomes of the parts of an entry in its declaration. -/
structure ColumnEntry.KeepsParts (categories : Dict Privacy) (e : ColumnEntry) (c : Column) : Prop where
  /-- At the end of each path the declaration says what the part there says, if each type on the path has the
  place that is taken, and has nothing there otherwise. -/
  places : ∀ path, Option.Rel (Declares categories) (e.usedAt? path) (c.at? path)
  /-- So nothing that was written is lost exactly when each part stands at a place that its type has. -/
  complete : (∀ path part, e.at? path = some part →
    ∃ d, c.at? path = some d ∧ part.Declares categories d) ↔ e.Fitting
  /-- Every part passes the check wherever it stands. What is lost stands in an entry of a composite type that
  has other places. -/
  lost : ∀ path part, e.at? path = some part → ∀ p inner, part.part? p = some inner →
    (∃ label, inner.check categories label = .ok ()) ∧ part.type.isComposite = true ∧
      (part.type.holds p = false → c.at? (path ++ [p]) = none)

namespace ColumnEntry

variable {categories : Dict Privacy}

/-- What is found at a path of the declaration stands at a path that the types of the entry have. -/
theorem usedAt?_of_at? {e : ColumnEntry} {c : Column} (hc : e.toColumn categories = .ok c)
    {path : List Place} {d : Column} (hd : c.at? path = some d) :
    ∃ part, e.usedAt? path = some part ∧ part.Declares categories d := by
  have hrel := toColumn_at? path hc
  rw [hd] at hrel
  generalize e.usedAt? path = part at hrel
  cases hrel with
  | some h => exact ⟨_, rfl, h⟩

theorem at?_of_usedAt?_some {e : ColumnEntry} {c : Column} (hc : e.toColumn categories = .ok c)
    {path : List Place} {part : ColumnEntry} (hpart : e.usedAt? path = some part) :
    ∃ d, c.at? path = some d ∧ part.Declares categories d := by
  have hrel := toColumn_at? path hc
  rw [hpart] at hrel
  generalize c.at? path = d at hrel
  cases hrel with
  | some h => exact ⟨_, rfl, h⟩

/-- A part that the declaration has stands at a place that the type around it has. -/
theorem holds_of_at? {e part : ColumnEntry} {c d : Column} (hc : e.toColumn categories = .ok c)
    {path : List Place} {p : Place} (hpart : e.at? path = some part)
    (hd : c.at? (path ++ [p]) = some d) : part.type.holds p = true := by
  obtain ⟨inner, hinner, _⟩ := usedAt?_of_at? hc hd
  rw [usedAt?_concat] at hinner
  obtain ⟨q, hq, hinner⟩ := Option.bind_eq_some_iff.1 hinner
  obtain rfl := Option.some.inj ((at?_of_usedAt? hq).symm.trans hpart)
  rw [usedPart?, Option.ite_none_right_eq_some] at hinner
  exact hinner.1

theorem keepsParts_of_check {e : ColumnEntry} {label : String} (hcheck : e.check categories label = .ok ())
    {c : Column} (hc : e.toColumn categories = .ok c) : e.KeepsParts categories c := by
  constructor
  case places => exact fun path => toColumn_at? path hc
  case complete =>
    constructor
    · intro hall path part hpart p inner hinner
      have hpath : e.at? (path ++ [p]) = some inner := by
        rw [at?_concat, hpart, Option.bind_some, hinner]
      obtain ⟨d, hd, _⟩ := hall _ _ hpath
      exact holds_of_at? hc hpart hd
    · intro hfitting path part hpart
      exact at?_of_usedAt?_some hc (hfitting.usedAt?_eq path ▸ hpart)
  case lost =>
    intro path part hpart p inner hinner
    obtain ⟨_, hpartCheck⟩ := check_at? hcheck hpart
    obtain ⟨hinnerCheck, hcomposite⟩ := check_part hpartCheck hinner
    refine ⟨hinnerCheck, hcomposite, fun hunused => ?_⟩
    refine Option.eq_none_iff_forall_ne_some.2 fun d hd => ?_
    rw [holds_of_at? hc hpart hd] at hunused
    cases hunused

end ColumnEntry

theorem TableEntry.check_of_checkColumns {categories : Dict Privacy} {table : String}
    {entries : List ColumnEntry} {seen : List String}
    (h : checkColumns categories table seen entries = .ok ()) :
    ∀ e ∈ entries, ∃ label, e.check categories label = .ok () := by
  induction entries generalizing seen with
  | nil => simp
  | cons e rest ih =>
    rw [checkColumns] at h
    split at h
    · cases h
    · split at h
      · cases h
      · obtain ⟨_, hcheck, hrest⟩ := bind_eq_ok.1 h
        exact List.forall_mem_cons.2 ⟨⟨_, hcheck⟩, ih hrest⟩

namespace Module

/-- Each column of a module that passes the check has a declaration, with a part at each place that the types
of the entry have; so parts are lost exactly where some stand at a place that the type around them does not
have. -/
theorem parts_in_place {m : Module} (hcheck : m.check = .ok ()) {t : TableEntry} (ht : t ∈ m.tables)
    {e : ColumnEntry} (he : e ∈ t.columns) :
    ∃ c, e.toColumn m.privacy = .ok c ∧ e.KeepsParts m.privacy c := by
  obtain ⟨label, hlabel⟩ := TableEntry.check_of_checkColumns (columns_of_check hcheck t ht) e he
  obtain ⟨c, hc⟩ := ColumnEntry.toColumn_of_check hlabel
  exact ⟨c, hc, ColumnEntry.keepsParts_of_check hlabel hc⟩

/-- A module of parcels. The route is an array of rows, with a stop of a category; the labels are an array of
texts and have a field besides, with a rule of its own. -/
def parcels : Module where
  privacy := Dict.ofList [("contact", { dropOn := some .delete })]
  tables := [
    { name := "Parcel"
      columns := [
        { name := "route", type := .array
          element := some { name := "", type := .row
                            fields := [{ name := "stop", type := .varchar
                                         privacy := some (.category "contact") }] } },
        { name := "labels", type := .array, element := some { name := "", type := .varchar }
          fields := [{ name := "owner", type := .varchar
                       privacy := some (.inline { dropOn := some .insert }) }] }] }]

/-- The stop is in its place in the declaration, its category looked up. -/
theorem route_in_place : parcels.check = .ok () ∧ ∃ t ∈ parcels.tables, ∃ e ∈ t.columns,
    e.name = "route" ∧ ∃ c, e.toColumn parcels.privacy = .ok c ∧ e.KeepsParts parcels.privacy c ∧
      ∃ stop, c.at? [.element, .field 0] = some stop ∧ stop.name = "stop" ∧
        stop.privacy = { name := some "contact", dropOn := some .delete } := by
  have hcheck : parcels.check = .ok () := rfl
  obtain ⟨c, hc, hkept⟩ := parts_in_place hcheck List.mem_cons_self List.mem_cons_self
  refine ⟨hcheck, _, List.mem_cons_self, _, List.mem_cons_self, rfl, c, hc, hkept, ?_⟩
  obtain rfl := Except.ok.inj hc
  exact ⟨_, rfl, rfl, rfl⟩

/-- The check lets the owner of the labels pass, and the declaration has nothing in its place. -/
theorem owner_is_lost : ∃ m : Module, m.check = .ok () ∧ ∃ t ∈ m.tables, ∃ e ∈ t.columns,
    ∃ part, e.at? [.field 0] = some part ∧ part.name = "owner" ∧
      ∃ c, e.toColumn m.privacy = .ok c ∧ c.at? [.field 0] = none := by
  have hcheck : parcels.check = .ok () := rfl
  refine ⟨parcels, hcheck, _, List.mem_cons_self, _, List.mem_cons_of_mem _ List.mem_cons_self, ?_⟩
  exact ⟨_, rfl, rfl, _, rfl, rfl⟩

end Module

end Warehouse
