import Mathlib
import Warehouse.Proofs.Dict.Lookup
import Warehouse.Proofs.Text.Reading
import Warehouse.Proofs.Vocabulary.PrestoType

/-!
The types that Presto writes can be read back: a keyword goes on up to a parenthesis or a comma, sizes are
digits, and what is nested is closed by its own parenthesis before that of the type. So two columns that
are written with the same type mean the same, down to the names of fields and the sizes.
-/

namespace Warehouse

open Text (StartsWith read_doubled read_items read_joined read_word)

/-- The names of the fields of a row, in order. -/
def Column.fieldNames (c : Column) : List String :=
  if c.dataType = .row then c.nested.map (·.name) else []

namespace Presto

/-- Whether the types of two columns mean the same: the same type with the same sizes and field names,
and the same types nested in it. -/
inductive SameType : Column → Column → Prop
  | intro {a b : Column} (type : a.dataType = b.dataType)
      (sizes : ∀ name ∈ sizeNames a.dataType, a.attributes.find? name = b.attributes.find? name)
      (fields : a.fieldNames = b.fieldNames)
      (nested : List.Forall₂ SameType a.nested b.nested) : SameType a b

/-! ### Sizes -/

theorem display_chars (i : Int64) :
    ∀ c ∈ (Attribute.int i).display.toList, c.isDigit = true ∨ c = '-' := by
  intro c hc
  have hnat : ∀ n : Nat, c ∈ n.repr.toList → c.isDigit = true := by
    intro n hn
    rw [Nat.repr_eq_ofList_toDigits, String.toList_ofList] at hn
    exact Nat.isDigit_of_mem_toDigits (by decide) (by decide) hn
  change c ∈ i.toInt.repr.toList at hc
  rw [Int.repr_eq_if] at hc
  split at hc
  · exact Or.inl (hnat _ hc)
  · rw [String.toList_append] at hc
    rcases List.mem_append.1 hc with hc | hc
    · exact Or.inr (by simpa using hc)
    · exact Or.inl (hnat _ hc)

theorem display_injective {i j : Int64} (h : (Attribute.int i).display = (Attribute.int j).display) :
    i = j :=
  Int64.toInt_inj.1 (Int.repr_inj.1 h)

theorem read_size {i j : Int64} {r s : List Char} (hr : StartsWith [',', ')'] r)
    (hs : StartsWith [',', ')'] s)
    (h : (Attribute.int i).display.toList ++ r = (Attribute.int j).display.toList ++ s) :
    i = j ∧ r = s := by
  have hword : ∀ k : Int64, ∀ c ∈ (Attribute.int k).display.toList, c ∉ [',', ')'] := by
    intro k c hc hmark
    have hcases : c = ',' ∨ c = ')' := by simpa using hmark
    rcases display_chars k c hc with hdigit | rfl
    · rcases hcases with rfl | rfl <;> exact absurd hdigit (by decide)
    · exact absurd hmark (by decide)
  obtain ⟨hij, hrs⟩ := read_word (hword i) (hword j) hr hs h
  exact ⟨display_injective (String.toList_inj.1 hij), hrs⟩

theorem startsWith_sizeText (sizes : List Attribute) (r : List Char) (hr : StartsWith [',', ')'] r) :
    StartsWith ['(', ',', ')'] ((sizeText sizes).toList ++ r) := by
  rw [sizeText]
  split
  · exact hr.mono (by simp)
  · rw [parenthesized, String.append_assoc, String.toList_append, List.append_assoc]
    exact Text.startsWith_cons (by decide) _

theorem toList_parenthesized (inside : String) (r : List Char) :
    (parenthesized inside).toList ++ r = '(' :: (inside.toList ++ ')' :: r) := by
  simp [parenthesized]

/-- Sizes are read up to the parenthesis behind them; without any there is none to read. -/
theorem read_sizes {l m : List Int64} {r s : List Char} (hr : StartsWith [',', ')'] r)
    (hs : StartsWith [',', ')'] s)
    (h : (sizeText (l.map .int)).toList ++ r = (sizeText (m.map .int)).toList ++ s) :
    l = m ∧ r = s := by
  have hopen : ∀ x y, StartsWith [',', ')'] x → x ≠ '(' :: y := by
    rintro x y hx rfl
    exact absurd (hx '(' rfl) (by decide)
  have htext : ∀ k : List Int64, k ≠ [] → ∀ x, (sizeText (k.map .int)).toList ++ x =
      '(' :: ([','].intercalate (k.map fun i => (Attribute.int i).display.toList) ++ ')' :: x) := by
    intro k hk x
    have hempty : (k.map Attribute.int).isEmpty = false := by simpa using hk
    rw [sizeText, hempty, if_neg (by simp), toList_parenthesized, String.toList_intercalate,
      List.map_map, List.map_map]
    rfl
  by_cases hl : l = [] <;> by_cases hm : m = []
  · subst hl hm
    exact ⟨rfl, by simpa [sizeText] using h⟩
  · rw [htext m hm, hl] at h
    exact absurd (by simpa [sizeText] using h) (hopen r _ hr)
  · rw [htext l hl, hm] at h
    exact absurd (by simpa [sizeText] using h.symm) (hopen s _ hs)
  · rw [htext l hl, htext m hm] at h
    have hread : ∀ i ∈ l, ∀ j ∈ m, ∀ r s, StartsWith [',', ')'] r → StartsWith [',', ')'] s →
        (Attribute.int i).display.toList ++ r = (Attribute.int j).display.toList ++ s →
          i = j ∧ r = s := fun _ _ _ _ _ _ hr hs h => read_size hr hs h
    obtain ⟨hlm, hrs⟩ := read_items rfl hl hm hread (List.cons.inj h).2
    exact ⟨List.forall₂_eq_eq_eq ▸ hlm, hrs⟩

/-! ### Types -/

theorem startsWith_argumentText (c : Column) {r : List Char} (hr : StartsWith [',', ')'] r) :
    StartsWith ['(', ',', ')'] ((argumentText c.attributes c.kind).toList ++ r) := by
  cases c.kind with
  | scalar t =>
    rw [argumentText]
    exact startsWith_sizeText _ r hr
  | array element =>
    rw [argumentText, toList_parenthesized]
    exact Text.startsWith_cons (by decide) _
  | map key value =>
    rw [argumentText, toList_parenthesized]
    exact Text.startsWith_cons (by decide) _
  | row fields =>
    rw [argumentText, toList_parenthesized]
    exact Text.startsWith_cons (by decide) _

/-- The keyword of a type is read up to its arguments. -/
theorem read_keyword {a b : Column} {r s : List Char} (hr : StartsWith [',', ')'] r)
    (hs : StartsWith [',', ')'] s) (h : (typeText a).toList ++ r = (typeText b).toList ++ s) :
    a.dataType = b.dataType ∧ (argumentText a.attributes a.kind).toList ++ r =
      (argumentText b.attributes b.kind).toList ++ s := by
  have hword : ∀ t, ∀ c ∈ (keyword t).toList, c ∉ ['(', ',', ')'] := by
    intro t c hc hmark
    have hcases : c = '(' ∨ c = ',' ∨ c = ')' := by simpa using hmark
    rcases hcases with rfl | rfl | rfl <;> exact absurd (keyword_upper t _ hc) (by decide)
  rw [typeText_eq a, typeText_eq b, String.toList_append, String.toList_append, List.append_assoc,
    List.append_assoc] at h
  obtain ⟨hkeyword, hrest⟩ := read_word (hword _) (hword _) (startsWith_argumentText a hr)
    (startsWith_argumentText b hs) h
  exact ⟨keyword_injective (String.toList_inj.1 hkeyword), hrest⟩

/-- The sizes of a declaration that has only whole numbers. -/
theorem sizes_whole {attributes : Attributes}
    (h : ∀ name v, attributes.find? name = some v → ∃ i, v = .int i) (t : DataType) :
    ∃ l : List Int64, sizes t attributes = l.map .int := by
  suffices hl : ∀ names : List String, ∃ l : List Int64,
      names.filterMap attributes.find? = l.map .int from hl (sizeNames t)
  intro names
  induction names with
  | nil => exact ⟨[], rfl⟩
  | cons name rest ih =>
    obtain ⟨l, hl⟩ := ih
    cases hv : attributes.find? name with
    | none => exact ⟨l, by rw [List.filterMap_cons_none hv, hl]⟩
    | some v =>
      obtain ⟨i, rfl⟩ := h name v hv
      exact ⟨i :: l, by rw [List.filterMap_cons_some hv, hl, List.map_cons]⟩

/-- Where a type has what it needs, its sizes tell each of them. -/
theorem find?_of_sizes {t : DataType} {x y : Attributes}
    (hx : ∀ name ∈ Vocabulary.presto.required (.column t), (x.find? name).isSome)
    (hy : ∀ name ∈ Vocabulary.presto.required (.column t), (y.find? name).isSome)
    (h : sizes t x = sizes t y) : ∀ name ∈ sizeNames t, x.find? name = y.find? name := by
  have hone : sizeNames t = ["length"] → ∀ name ∈ sizeNames t, x.find? name = y.find? name := by
    intro hs
    rw [sizes, sizes, hs] at h
    cases hv : x.find? "length" <;> cases hw : y.find? "length" <;> simp_all
  cases t with
  | decimal =>
    obtain ⟨p, hp⟩ := Option.isSome_iff_exists.1 (hx "precision" (by decide))
    obtain ⟨q, hq⟩ := Option.isSome_iff_exists.1 (hx "scale" (by decide))
    obtain ⟨p', hp'⟩ := Option.isSome_iff_exists.1 (hy "precision" (by decide))
    obtain ⟨q', hq'⟩ := Option.isSome_iff_exists.1 (hy "scale" (by decide))
    obtain ⟨rfl, rfl⟩ : p = p' ∧ q = q' := by simpa [sizes, sizeNames, hp, hq, hp', hq'] using h
    simp [sizeNames, hp, hq, hp', hq']
  | varchar => exact hone rfl
  | char => exact hone rfl
  | varbinary => exact hone rfl
  | _ => simp [sizeNames]

/-! ### What is nested -/

theorem typeText_cons (c : Column) : ∃ x xs, (typeText c).toList = x :: xs ∧ x ≠ ')' := by
  have hword : ∀ t, keyword t ≠ "" := by
    intro t
    cases t <;> decide
  obtain ⟨x, xs, hx⟩ := List.exists_cons_of_ne_nil (mt String.toList_eq_nil_iff.1 (hword c.dataType))
  refine ⟨x, xs ++ (argumentText c.attributes c.kind).toList, ?_, ?_⟩
  · rw [typeText_eq, String.toList_append, hx, List.cons_append]
  · rintro rfl
    exact not_mem_keyword (t := c.dataType) (c := ')') (by decide) (by rw [hx]; exact List.mem_cons_self)

theorem quote_toList (name : String) : (Vocabulary.presto.quoteColumn name).toList =
    '\x22' :: (Text.replaceChar '\x22' ['\x22', '\x22'] name.toList ++ ['\x22']) :=
  String.toList_ofList

theorem part_cons (t : DataType) (c : Column) : ∃ x xs, (part t c).toList = x :: xs ∧ x ≠ ')' := by
  rw [part]
  split
  · rw [String.toList_append, String.toList_append, quote_toList]
    exact ⟨'\x22', _, rfl, by decide⟩
  · exact typeText_cons c

/-- Where the types of two columns can be read, so can they as parts of a type, with the names of fields. -/
theorem read_part {t : DataType} {a b : Column} {R : Prop} {r s : List Char}
    (hread : (typeText a).toList ++ r = (typeText b).toList ++ s → R ∧ r = s)
    (h : (part t a).toList ++ r = (part t b).toList ++ s) :
    (R ∧ (t = .row → a.name = b.name)) ∧ r = s := by
  rw [part, part] at h
  split at h
  · simp only [String.toList_append, quote_toList, List.cons_append, List.append_assoc,
      List.nil_append] at h
    have hblank : ∀ cs : List Char, (' ' :: cs).head? ≠ some '\x22' := by simp
    obtain ⟨hname, hrest⟩ := read_doubled (hblank _) (hblank _) (List.cons.inj h).2
    obtain ⟨hR, hrs⟩ := hread (List.cons.inj hrest).2
    exact ⟨⟨hR, fun _ => String.toList_inj.1 hname⟩, hrs⟩
  · next ht =>
    obtain ⟨hR, hrs⟩ := hread h
    exact ⟨⟨hR, fun h => absurd h ht⟩, hrs⟩

/-! ### Types as wholes -/

theorem kind_of_simple {c : Column} (h : c.dataType.isComposite = false) :
    c.kind = .scalar c.dataType := by
  obtain ⟨declared, kind⟩ := c
  cases kind with
  | scalar t => rfl
  | array element => exact Bool.noConfusion h
  | map key value => exact Bool.noConfusion h
  | row fields => exact Bool.noConfusion h

theorem nested_of_simple {c : Column} (h : c.dataType.isComposite = false) : c.nested = [] := by
  rw [Column.nested, kind_of_simple h, Kind.nested]

/-- A scalar type is read up to its end with its sizes. -/
theorem read_simple {a b : Column} (hba : Binds a) (hbb : Binds b)
    (ha : ∀ name v, a.attributes.find? name = some v → ∃ i, v = .int i)
    (hb : ∀ name v, b.attributes.find? name = some v → ∃ i, v = .int i)
    (htype : a.dataType = b.dataType) (hsimple : a.dataType.isComposite = false) {r s : List Char}
    (hr : StartsWith [',', ')'] r) (hs : StartsWith [',', ')'] s)
    (h : (argumentText a.attributes a.kind).toList ++ r =
      (argumentText b.attributes b.kind).toList ++ s) : SameType a b ∧ r = s := by
  have hsimple' : b.dataType.isComposite = false := htype ▸ hsimple
  obtain ⟨l, hl⟩ := sizes_whole ha a.dataType
  obtain ⟨m, hm⟩ := sizes_whole hb a.dataType
  rw [kind_of_simple hsimple, kind_of_simple hsimple', ← htype, argumentText, argumentText, hl, hm] at h
  obtain ⟨hlm, hrs⟩ := read_sizes hr hs h
  refine ⟨.intro htype ?_ ?_ ?_, hrs⟩
  · exact find?_of_sizes hba.needs (htype ▸ hbb.needs) (by rw [hl, hm, hlm])
  · rw [Column.fieldNames, Column.fieldNames, nested_of_simple hsimple, nested_of_simple hsimple',
      htype]
  · rw [nested_of_simple hsimple, nested_of_simple hsimple']
    exact .nil

/-- A composite type is read up to its end where what is nested can be read. -/
theorem read_composite {a b : Column} (ha : ∀ t, a.kind ≠ .scalar t) (hb : ∀ t, b.kind ≠ .scalar t)
    (htype : a.dataType = b.dataType) (hcomposite : a.dataType.isComposite = true)
    (hread : ∀ x ∈ a.nested, ∀ y ∈ b.nested, ∀ r s, StartsWith [',', ')'] r →
      StartsWith [',', ')'] s → (typeText x).toList ++ r = (typeText y).toList ++ s →
        SameType x y ∧ r = s) {r s : List Char}
    (h : (argumentText a.attributes a.kind).toList ++ r =
      (argumentText b.attributes b.kind).toList ++ s) : SameType a b ∧ r = s := by
  rw [argumentText_composite ha, argumentText_composite hb, ← htype, toList_parenthesized,
    toList_parenthesized, String.toList_intercalate, String.toList_intercalate, List.map_map,
    List.map_map] at h
  have hparts : ∀ x ∈ a.nested, ∀ y ∈ b.nested, ∀ r s, StartsWith [',', ')'] r →
      StartsWith [',', ')'] s →
      (part a.dataType x).toList ++ r = (part a.dataType y).toList ++ s →
        (SameType x y ∧ (a.dataType = .row → x.name = y.name)) ∧ r = s :=
    fun x hx y hy r s hr hs => read_part (hread x hx y hy r s hr hs)
  obtain ⟨hnested, hrs⟩ := read_joined rfl (part_cons a.dataType) hparts (List.cons.inj h).2
  refine ⟨.intro htype ?_ ?_ (hnested.imp fun _ _ h => h.1), hrs⟩
  · have hsizes : sizeNames a.dataType = [] := by
      revert hcomposite
      cases a.dataType <;> decide
    simp [hsizes]
  · rw [Column.fieldNames, Column.fieldNames, ← htype]
    split
    · next hrow =>
      rw [← List.forall₂_eq_eq_eq, List.forall₂_map_left_iff, List.forall₂_map_right_iff]
      exact hnested.imp fun _ _ h => h.2 hrow
    · rfl

theorem kind_ne_scalar {c : Column} (hc : ∀ t, c.kind = .scalar t → t.isComposite = false)
    (h : c.dataType.isComposite = true) : ∀ t, c.kind ≠ .scalar t := by
  intro t ht
  rw [Column.dataType, ht, Kind.dataType, hc t ht] at h
  exact Bool.noConfusion h

/-- A type is read up to its end, and it tells all that the type of the column means. -/
theorem read_type {a : Column} (ha : Whole a) : ∀ {b : Column}, Whole b → Binds a → Binds b →
    ∀ {r s : List Char}, StartsWith [',', ')'] r → StartsWith [',', ')'] s →
      (typeText a).toList ++ r = (typeText b).toList ++ s → SameType a b ∧ r = s := by
  induction ha with
  | @intro a numbers scalar _ ih =>
    -- nothing is known of the second type before its keyword is read, which settles its kind
    rintro b ⟨numbers', scalar', whole'⟩ hba hbb r s hr hs h
    obtain ⟨htype, harguments⟩ := read_keyword hr hs h
    cases hcomposite : a.dataType.isComposite with
    | false => exact read_simple hba hbb numbers numbers' htype hcomposite hr hs harguments
    | true =>
      have hkind := kind_ne_scalar scalar hcomposite
      have hkind' := kind_ne_scalar scalar' (htype ▸ hcomposite)
      refine read_composite hkind hkind' htype hcomposite (fun x hx y hy r s hr hs h => ?_) harguments
      exact ih x hx (whole' y hy) (hba.nested x hx) (hbb.nested y hy) hr hs h

/-! ### Columns that mean the same -/

theorem part_congr {t : DataType} {x y : Column} (h : typeText x = typeText y)
    (hname : t = .row → x.name = y.name) : part t x = part t y := by
  rw [part, part, h]
  split
  · next ht => rw [hname ht]
  · rfl

/-- Types that mean the same are written the same. -/
theorem typeText_of_sameType {a : Column} (ha : Whole a) : ∀ {b : Column}, Whole b → SameType a b →
    typeText a = typeText b := by
  induction ha with
  | @intro a _ scalar _ ih =>
    rintro b ⟨_, scalar', whole'⟩ ⟨htype, hsizes, hfields, hnested⟩
    rw [typeText_eq, typeText_eq, ← htype]
    congr 1
    cases hcomposite : a.dataType.isComposite with
    | false =>
      rw [kind_of_simple hcomposite, kind_of_simple (htype ▸ hcomposite), ← htype, argumentText,
        argumentText, sizes, sizes]
      exact congrArg sizeText (List.filterMap_congr hsizes)
    | true =>
      rw [argumentText_composite (kind_ne_scalar scalar hcomposite),
        argumentText_composite (kind_ne_scalar scalar' (htype ▸ hcomposite)), ← htype]
      refine congrArg _ (congrArg _ ?_)
      obtain ⟨hlength, hsame⟩ := List.forall₂_iff_get.1 hnested
      refine List.ext_getElem (by simp [hlength]) fun i hi hj => ?_
      rw [List.length_map] at hi hj
      rw [List.getElem_map, List.getElem_map]
      have hx : a.nested[i] ∈ a.nested := List.getElem_mem hi
      have hy : b.nested[i] ∈ b.nested := List.getElem_mem hj
      refine part_congr (ih _ hx (whole' _ hy) (hsame i hi hj)) fun hrow => ?_
      have hnames : a.nested.map (·.name) = b.nested.map (·.name) := by
        rwa [Column.fieldNames, Column.fieldNames, ← htype, if_pos hrow, if_pos hrow] at hfields
      simpa [hi, hj] using congrArg (·[i]?) hnames

/-- Two columns that Presto has types for, with whole numbers as attributes, are written with the same
type exactly when their types mean the same: at every node the same type, the same names of fields in the
same order, and the same sizes. -/
theorem typeText_eq_iff_sameType {d e : String} {p q : Option String} {a b : Column}
    {x y : BoundColumn} (ha : Whole a) (hb : Whole b)
    (hx : Binding.column ⟨Vocabulary.presto, d⟩ p a = .ok x)
    (hy : Binding.column ⟨Vocabulary.presto, e⟩ q b = .ok y) :
    x.typeText = y.typeText ↔ SameType a b := by
  rw [typeText_of_column ha hx, typeText_of_column hb hy]
  constructor
  · intro h
    exact (read_type ha hb ⟨d, p, x, hx⟩ ⟨e, q, y, hy⟩ (Text.startsWith_nil _)
      (Text.startsWith_nil _) (congrArg (fun text => text.toList ++ []) h)).1
  · exact typeText_of_sameType ha hb

/-! ### A column of tags -/

theorem whole_scalar (name : String) {t : DataType} (ht : t.isComposite = false) :
    Whole (Column.scalar name t) := by
  refine .intro (fun _ _ h => nomatch h) ?_ nofun
  rintro u ⟨⟩
  exact ht

theorem whole_withAttribute {c : Column} (hc : Whole c) (name : String) (i : Int64) :
    Whole (c.withAttribute name (.int i)) := by
  obtain ⟨numbers, scalar, nested⟩ := hc
  refine .intro (fun n v h => ?_) scalar nested
  change (c.attributes.insert name (.int i)).find? n = some v at h
  rw [Dict.find?_insert] at h
  split at h
  · exact ⟨i, (Option.some.inj h).symm⟩
  · exact numbers n v h

theorem whole_row (name : String) {fields : List Column} (h : ∀ f ∈ fields, Whole f) :
    Whole (Column.row name fields) :=
  .intro (fun _ _ h => nomatch h) nofun h

/-- A row of a label, named by text that looks like the end of a row, and an amount. -/
def tags (name : String) : Column :=
  .row name [(Column.scalar "a\"), (b" .varchar).withAttribute "length" (.int 20),
    ((Column.scalar "n" .decimal).withAttribute "precision" (.int 10)).withAttribute "scale" (.int (-2))]

theorem tags_sameType : ∃ x y,
    Binding.column ⟨Vocabulary.presto, "presto"⟩ none (tags "tags") = .ok x ∧
    Binding.column ⟨Vocabulary.presto, "trino"⟩ none (tags "labels") = .ok y ∧
    x.typeText = "ROW(\"a\"\"), (b\" VARCHAR(20), \"n\" DECIMAL(10,-2))" ∧
    SameType (tags "tags") (tags "labels") := by
  have hwhole : ∀ name, Whole (tags name) := by
    intro name
    refine whole_row name (List.forall_mem_cons.2 ⟨?_, List.forall_mem_singleton.2 ?_⟩)
    · exact whole_withAttribute (whole_scalar _ (by decide)) _ _
    · exact whole_withAttribute (whole_withAttribute (whole_scalar _ (by decide)) _ _) _ _
  obtain ⟨x, y, hx, hy, htext, hsame⟩ : ∃ x y,
      Binding.column ⟨Vocabulary.presto, "presto"⟩ none (tags "tags") = .ok x ∧
      Binding.column ⟨Vocabulary.presto, "trino"⟩ none (tags "labels") = .ok y ∧
      x.typeText = "ROW(\"a\"\"), (b\" VARCHAR(20), \"n\" DECIMAL(10,-2))" ∧
      x.typeText = y.typeText :=
    ⟨_, _, rfl, rfl, by cbv, by cbv⟩
  exact ⟨x, y, hx, hy, htext, (typeText_eq_iff_sameType (hwhole _) (hwhole _) hx hy).1 hsame⟩

end Presto

end Warehouse
