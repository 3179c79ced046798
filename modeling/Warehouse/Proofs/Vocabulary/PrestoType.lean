import Mathlib.Data.List.Nodup
import Warehouse.Proofs.Binding.Steps
import Warehouse.Proofs.Template.Rendering

/-!
The type of a column as Presto writes it, said of the declaration: a keyword, and in parentheses its sizes
or what is nested in it. The templates of the vocabulary give exactly this text, since no attribute can
stand in the place of a nested type and no text that fills a slot is read again.
-/

namespace Warehouse

namespace Presto

open Template (BraceFree Separates isName slot)

/-! ### The text of a type -/

/-- The capitals that the type starts with. -/
def keyword (t : DataType) : String :=
  String.ofList (((Vocabulary.presto.typeTemplate t).getD "").toList.takeWhile Char.isUpper)

/-- The attributes that are written with the type, in order. -/
def sizeNames : DataType → List String
  | .decimal => ["precision", "scale"]
  | .varchar | .char | .varbinary => ["length"]
  | _ => []

/-- The sizes that a declaration of the type gives. -/
def sizes (t : DataType) (attributes : Attributes) : List Attribute :=
  (sizeNames t).filterMap attributes.find?

/-- A text in parentheses. -/
def parenthesized (inside : String) : String := "(" ++ inside ++ ")"

/-- How sizes are written; without any there are no parentheses. -/
def sizeText (sizes : List Attribute) : String :=
  if sizes.isEmpty then ""
  else parenthesized (String.intercalate "," (sizes.map (·.display)))

mutual

/-- The type of a column. -/
def typeText : Column → String
  | ⟨declared, kind⟩ => keyword kind.dataType ++ argumentText declared.attributes kind

/-- What follows the keyword of a type. -/
def argumentText (attributes : Attributes) : Kind Column → String
  | .scalar t => sizeText (sizes t attributes)
  | .array element => parenthesized (typeText element)
  | .map key value => parenthesized (typeText key ++ ", " ++ typeText value)
  | .row fields => parenthesized (String.intercalate ", " (fieldTexts fields))

/-- The fields of a row, each with its name and its type. -/
def fieldTexts : List Column → List String
  | [] => []
  | f :: rest => (Vocabulary.presto.quoteColumn f.name ++ " " ++ typeText f) :: fieldTexts rest

end

/-- What is nested in a column of the type, as it is written there. -/
def part (t : DataType) (c : Column) : String :=
  if t = .row then Vocabulary.presto.quoteColumn c.name ++ " " ++ typeText c else typeText c

theorem fieldTexts_eq_map (fields : List Column) : fieldTexts fields = fields.map (part .row) := by
  induction fields with
  | nil => rw [fieldTexts, List.map_nil]
  | cons f rest ih => rw [fieldTexts, ih, List.map_cons, part, if_pos rfl]

theorem typeText_eq (c : Column) :
    typeText c = keyword c.dataType ++ argumentText c.attributes c.kind := by
  obtain ⟨declared, kind⟩ := c
  rw [typeText]
  rfl

/-- A composite type is written with what is nested in it. -/
theorem argumentText_composite {c : Column} (h : ∀ t, c.kind ≠ .scalar t) :
    argumentText c.attributes c.kind =
      parenthesized (String.intercalate ", " (c.nested.map (part c.dataType))) := by
  obtain ⟨declared, kind⟩ := c
  cases kind with
  | scalar t => exact absurd rfl (h t)
  | array element =>
    simp [argumentText, Column.nested, Kind.nested, Column.dataType, Kind.dataType, part]
  | map key value =>
    simp [argumentText, Column.nested, Kind.nested, Column.dataType, Kind.dataType, part]
  | row fields => rw [argumentText, fieldTexts_eq_map]; rfl

/-! ### Keywords -/

theorem keyword_upper (t : DataType) : ∀ c ∈ (keyword t).toList, c.isUpper = true := by
  intro c hc
  rw [keyword, String.toList_ofList] at hc
  exact List.mem_takeWhile_imp hc

theorem not_mem_keyword {t : DataType} {c : Char} (hc : c.isUpper = false) :
    c ∉ (keyword t).toList := by
  intro h
  rw [keyword_upper t c h] at hc
  exact Bool.noConfusion hc

theorem keyword_injective {t u : DataType} (h : keyword t = keyword u) : t = u := by
  have hall : ∀ t, t ∈ DataType.all := by
    intro t
    cases t <;> decide
  have hnodup : (DataType.all.map keyword).Nodup := by decide +kernel
  exact List.inj_on_of_nodup_map hnodup (hall t) (hall u) h

/-! ### Rendering a type -/

section Rendering

variable {t : DataType} {context : Template.Context}

/-- A type that is written with one thing in parentheses. -/
theorem render_one {name : String} (hname : isName name.toList = true) (hb : '[' ∉ (slot name).toList)
    {v : Template.Value} (hv : context name = some v) :
    Template.render (keyword t ++ "(" ++ slot name ++ ")") context =
      keyword t ++ parenthesized (v.write .plain) := by
  have hopen : '\x7b' ∉ (keyword t ++ "(").toList := by
    rw [String.toList_append, List.mem_append, not_or]
    exact ⟨not_mem_keyword (by decide), by decide⟩
  have hplain : '[' ∉ (keyword t ++ "(" ++ slot name ++ ")").toList := by
    simp only [String.toList_append, List.mem_append, not_or]
    exact ⟨⟨⟨not_mem_keyword (by decide), by decide⟩, hb⟩, by decide⟩
  rw [Template.render_around hname hv hplain hopen (by decide), parenthesized]
  simp only [String.append_assoc]

/-- A type that is written with two things in parentheses. -/
theorem render_two {between name other : String} (hname : isName name.toList = true)
    (hother : isName other.toList = true)
    (hb : '[' ∉ (slot name ++ between ++ slot other).toList) (hs : '\x7b' ∉ between.toList)
    {v w : Template.Value} (hv : context name = some v) (hw : context other = some w) :
    Template.render (keyword t ++ "(" ++ slot name ++ between ++ slot other ++ ")") context =
      keyword t ++ parenthesized (v.write .plain ++ between ++ w.write .plain) := by
  have hopen : '\x7b' ∉ (keyword t ++ "(").toList := by
    rw [String.toList_append, List.mem_append, not_or]
    exact ⟨not_mem_keyword (by decide), by decide⟩
  have hplain : '[' ∉ (keyword t ++ "(" ++ slot name ++ between ++ slot other ++ ")").toList := by
    simp only [String.toList_append, List.mem_append, not_or] at hb ⊢
    exact ⟨⟨⟨⟨⟨not_mem_keyword (by decide), by decide⟩, hb.1.1⟩, hb.1.2⟩, hb.2⟩, by decide⟩
  rw [Template.render_plain hplain, Template.fill_between hname hv hother hw hopen hs (by decide),
    String.ofList_toList, parenthesized]
  simp only [String.append_assoc]

theorem templateValue_write (v : Attribute) : (Binding.templateValue v).write .plain = v.display := by
  cases v <;> simp [Binding.templateValue, Template.Value.write, Template.Value.list, Attribute.display]

theorem sizeText_single (v : Attribute) : sizeText [v] = parenthesized v.display := by
  simp [sizeText]

theorem sizeText_pair (p q : Attribute) :
    sizeText [p, q] = parenthesized (p.display ++ "," ++ q.display) := by
  simp [sizeText, String.append_assoc]

/-- The words of a scalar type that has no sizes. -/
theorem typeTemplate_plain (ht : t.isComposite = false) (hs : sizeNames t = []) :
    Vocabulary.presto.typeTemplate t = some (keyword t) := by
  cases t <;> first | rfl | contradiction

section Sizes

variable {attributes : Attributes}
  (hcontext : ∀ name ∈ sizeNames t, context name = (attributes.find? name).map Binding.templateValue)
include hcontext

theorem context_of_size {name : String} (hname : name ∈ sizeNames t) {v : Attribute}
    (hv : attributes.find? name = some v) : context name = some (Binding.templateValue v) := by
  rw [hcontext name hname, hv, Option.map_some]

/-- A type that needs its length. -/
theorem render_length (hs : sizeNames t = ["length"]) (hneeds : (attributes.find? "length").isSome) :
    Template.render (keyword t ++ "(" ++ slot "length" ++ ")") context =
      keyword t ++ sizeText (sizes t attributes) := by
  obtain ⟨v, hv⟩ := Option.isSome_iff_exists.1 hneeds
  have hvalue := context_of_size hcontext (by simp [hs]) hv
  have hsizes : sizes t attributes = [v] := by simp [sizes, hs, hv]
  rw [render_one (by decide) (by decide) hvalue, templateValue_write, hsizes, sizeText_single]

/-- A scalar type is written as its keyword and the sizes that are given for it. -/
theorem render_scalar (ht : t.isComposite = false)
    (hneeds : ∀ name ∈ Vocabulary.presto.required (.column t), (attributes.find? name).isSome)
    {text : String} (htext : Vocabulary.presto.typeTemplate t = some text) :
    Template.render text context = keyword t ++ sizeText (sizes t attributes) := by
  by_cases hs : sizeNames t = []
  · obtain rfl := Option.some.inj (htext.symm.trans (typeTemplate_plain ht hs))
    rw [Template.render_text (not_mem_keyword (by decide)) (not_mem_keyword (by decide)), sizes, hs]
    simp [sizeText]
  · cases t with
    | decimal =>
      obtain ⟨p, hp⟩ := Option.isSome_iff_exists.1 (hneeds "precision" (by decide))
      obtain ⟨q, hq⟩ := Option.isSome_iff_exists.1 (hneeds "scale" (by decide))
      have hsizes : sizes .decimal attributes = [p, q] := by simp [sizes, sizeNames, hp, hq]
      have hword : "DECIMAL(" = keyword .decimal ++ "(" := rfl
      obtain rfl := Option.some.inj htext
      rw [hword, render_two (by decide) (by decide) (by decide) (by decide)
        (context_of_size hcontext (by decide) hp) (context_of_size hcontext (by decide) hq),
        templateValue_write, templateValue_write, hsizes, sizeText_pair]
    | varchar =>
      have hsizes : sizes .varchar attributes = (attributes.find? "length").toList := by
        cases hv : attributes.find? "length" <;> simp [sizes, sizeNames, hv]
      have hword : "VARCHAR" = keyword .varchar := rfl
      obtain rfl := Option.some.inj htext
      rw [Template.render_optional (by decide) (by decide) (by decide) (by decide) (by decide)
        (by decide) (by decide), hcontext _ (by decide), hsizes, hword]
      cases attributes.find? "length" with
      | none => rfl
      | some v =>
        rw [Option.toList_some, sizeText_single, ← templateValue_write]
        rfl
    | char =>
      have hword : "CHAR(" = keyword .char ++ "(" := rfl
      obtain rfl := Option.some.inj htext
      rw [hword]
      exact render_length hcontext rfl (hneeds _ (by decide))
    | varbinary =>
      have hword : "VARBINARY(" = keyword .varbinary ++ "(" := rfl
      obtain rfl := Option.some.inj htext
      rw [hword]
      exact render_length hcontext rfl (hneeds _ (by decide))
    | _ => exact absurd rfl hs

end Sizes

theorem substitute_field (name type : String) :
    Template.substitutePairs Vocabulary.presto.rowField [("quoted_name", name), ("type", type)] =
      name ++ " " ++ type := by
  have hname : BraceFree "quoted_name" := by decide
  have htype : BraceFree "type" := by decide
  have hs : Separates " ".toList := ⟨' ', _, rfl, by decide, by decide⟩
  have hfield : Vocabulary.presto.rowField = slot "quoted_name" ++ " " ++ slot "type" := rfl
  rw [hfield, Template.substitutePairs, Template.substitute_separated _ hs,
    Template.substitute_slot hname, Template.substitute_slot htype]
  rfl

end Rendering

/-! ### What binding gives -/

/-- The names that a kind and a column add to a context are none of the names of sizes. -/
theorem columnContext_size {c : Column} {t : DataType} (hkind : c.kind = .scalar t)
    (nested : List BoundColumn) {name : String} (hname : name ∈ sizeNames t) :
    Binding.columnContext Vocabulary.presto c nested name =
      (c.attributes.find? name).map Binding.templateValue := by
  have hall : sizeNames t ⊆ ["precision", "scale", "length"] := by cases t <;> decide
  have hcases : name = "precision" ∨ name = "scale" ∨ name = "length" := by simpa using hall hname
  rw [Binding.columnContext, hkind]
  rcases hcases with rfl | rfl | rfl <;> rfl

/-- What stands in the template of a column are the types of what is nested in it. -/
theorem render_column {c : Column} {nested : List BoundColumn}
    (scalar : ∀ t, c.kind = .scalar t → t.isComposite = false)
    (hneeds : ∀ name ∈ Vocabulary.presto.required (.column c.dataType),
      (c.attributes.find? name).isSome)
    (hdeclared : nested.map (·.declared) = c.nested)
    (htypes : ∀ n ∈ nested, n.typeText = typeText n.declared)
    (hnames : ∀ n ∈ nested, n.quotedName = Vocabulary.presto.quoteColumn n.name)
    {text : String} (htext : Vocabulary.presto.typeTemplate c.dataType = some text) :
    Template.render text (Binding.columnContext Vocabulary.presto c nested) = typeText c := by
  obtain ⟨declared, kind⟩ := c
  cases kind with
  | scalar t =>
    rw [typeText, argumentText]
    exact render_scalar (fun name hname => columnContext_size rfl nested hname) (scalar t rfl) hneeds
      htext
  | array element =>
    obtain ⟨e, rfl, rfl⟩ := List.map_eq_singleton_iff.1 hdeclared
    have hword : "ARRAY(" = keyword .array ++ "(" := rfl
    obtain rfl := Option.some.inj htext
    rw [hword, render_one (v := .text e.typeText) (by decide) (by decide) rfl, typeText, argumentText,
      htypes e List.mem_cons_self]
    rfl
  | map key value =>
    obtain ⟨k, _, rfl, rfl, hrest⟩ := List.map_eq_cons_iff.1 hdeclared
    obtain ⟨v, rfl, rfl⟩ := List.map_eq_singleton_iff.1 hrest
    have hword : "MAP(" = keyword .map ++ "(" := rfl
    obtain rfl := Option.some.inj htext
    rw [hword, render_two (v := .text k.typeText) (w := .text v.typeText) (by decide) (by decide)
      (by decide) (by decide) rfl rfl, typeText, argumentText, ← htypes k (by simp),
      ← htypes v (by simp)]
    rfl
  | row fields =>
    have hfields : Binding.rowFields Vocabulary.presto nested =
        String.intercalate ", " (fieldTexts fields) := by
      have hnested : nested.map (·.declared) = fields := hdeclared
      rw [Binding.rowFields, fieldTexts_eq_map, ← hnested, List.map_map]
      refine congrArg _ (List.map_congr_left fun n hn => ?_)
      rw [substitute_field, hnames n hn, htypes n hn]
      rfl
    have hword : "ROW(" = keyword .row ++ "(" := rfl
    obtain rfl := Option.some.inj htext
    rw [hword, render_one (v := .text (Binding.rowFields Vocabulary.presto nested)) (by decide)
      (by decide) rfl, typeText, argumentText, ← hfields]
    rfl

/-- Whether Presto has a type for the column. -/
def Binds (c : Column) : Prop :=
  ∃ d parent b, Binding.column ⟨Vocabulary.presto, d⟩ parent c = .ok b

theorem Binds.needs {c : Column} (h : Binds c) :
    ∀ name ∈ Vocabulary.presto.required (.column c.dataType),
      (c.attributes.find? name).isSome := by
  obtain ⟨d, parent, b, h⟩ := h
  obtain ⟨_, _, _, hneeds, _⟩ := Binding.column_eq_ok h
  exact hneeds

theorem Binds.nested {c : Column} (h : Binds c) : ∀ n ∈ c.nested, Binds n := by
  obtain ⟨d, parent, b, h⟩ := h
  obtain ⟨_, nested, _, _, hdeclared, hbound, _⟩ := Binding.column_eq_ok h
  rw [← hdeclared]
  exact List.forall_mem_map.2 fun n hn => ⟨d, _, n, hbound n hn⟩

/-- The columns as declaration files give them: every attribute is a whole number, no scalar is of a
composite type, and so it is with all that is nested. -/
inductive Whole : Column → Prop
  | intro {c : Column} (numbers : ∀ name v, c.attributes.find? name = some v → ∃ i, v = .int i)
      (scalar : ∀ t, c.kind = .scalar t → t.isComposite = false)
      (nested : ∀ n ∈ c.nested, Whole n) : Whole c

/-- A bound column is written as its declaration says. -/
theorem typeText_of_column {d : String} {c : Column} (hc : Whole c) :
    ∀ {parent : Option String} {b : BoundColumn},
      Binding.column ⟨Vocabulary.presto, d⟩ parent c = .ok b → b.typeText = typeText c := by
  induction hc with
  | @intro c _ scalar _ ih =>
    intro parent b h
    obtain ⟨text, nested, htext, hneeds, hdeclared, hbound, rfl⟩ := Binding.column_eq_ok h
    have hnested : ∀ n ∈ nested, n.typeText = typeText n.declared := by
      intro n hn
      exact ih n.declared (hdeclared ▸ List.mem_map_of_mem hn) (hbound n hn)
    exact render_column scalar hneeds hdeclared hnested
      (fun n hn => Binding.quotedName_of_column (hbound n hn)) htext

end Presto

end Warehouse
