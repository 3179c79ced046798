import Warehouse.Proofs.Template.Outline
import Warehouse.Proofs.Template.Skeleton
import Warehouse.Vocabulary.Builtin

/-!
What rendering makes of the templates of a vocabulary: text around one slot or two, and a slot in a group.
A value that fills a slot is written as it is, whatever it holds, since only the template is ever read.
-/

namespace Warehouse.Template

open Vocabulary (optional)

variable {context : Context}

/-! ### Filling in -/

theorem fill_plain {a : List Char} (ha : '\x7b' ∉ a) (b : List Char) :
    fill context (a ++ b) = a ++ fill context b := by
  rw [fill, pieces_plain true ha, List.flatMap_append, flatMap_fill_char, fill]

theorem fill_text {a : List Char} (ha : '\x7b' ∉ a) : fill context a = a := by
  have hnil : fill context [] = [] := by simp [fill, pieces]
  have h : fill context (a ++ []) = a ++ fill context [] := fill_plain ha []
  rwa [hnil, List.append_nil] at h

theorem pieces_named {name : String} {quoting : Quoting} (h : isName name.toList = true) (b : List Char) :
    pieces true ((slot name quoting).toList ++ b) = .slot ⟨name.toList, quoting⟩ :: pieces true b := by
  have hreadable : Slot.Readable true ⟨name.toList, quoting⟩ := ⟨h, Or.inl rfl⟩
  rw [slot, String.toList_ofList]
  simpa [pieces] using pieces_occurrence hreadable [] b

theorem fill_slot {name : String} {quoting : Quoting} (h : isName name.toList = true) {v : Value}
    (hv : context name = some v) (b : List Char) :
    fill context ((slot name quoting).toList ++ b) = (v.write quoting).toList ++ fill context b := by
  rw [fill, pieces_named h, List.flatMap_cons, Piece.fill, Context.value?, String.ofList_toList, hv,
    fill]

/-- Text around a slot that has a value. -/
theorem fill_around {before after name : String} {quoting : Quoting} (h : isName name.toList = true) {v : Value}
    (hv : context name = some v) (hbefore : '\x7b' ∉ before.toList) (hafter : '\x7b' ∉ after.toList) :
    fill context (before ++ slot name quoting ++ after).toList =
      (before ++ v.write quoting ++ after).toList := by
  rw [String.toList_append, String.toList_append, List.append_assoc, fill_plain hbefore,
    fill_slot h hv, fill_text hafter, ← List.append_assoc, ← String.toList_append,
    ← String.toList_append]

/-- Text around two slots that have values. -/
theorem fill_between {before between after name other : String} (h : isName name.toList = true)
    {v : Value} (hv : context name = some v) (ho : isName other.toList = true) {w : Value}
    (hw : context other = some w) (hbefore : '\x7b' ∉ before.toList)
    (hbetween : '\x7b' ∉ between.toList) (hafter : '\x7b' ∉ after.toList) :
    fill context (before ++ slot name ++ between ++ slot other ++ after).toList =
      (before ++ v.write .plain ++ between ++ w.write .plain ++ after).toList := by
  have hrest : fill context (between ++ slot other ++ after).toList =
      (between ++ w.write .plain ++ after).toList := fill_around ho hw hbetween hafter
  have hsplit : (before ++ slot name ++ between ++ slot other ++ after).toList =
      before.toList ++ ((slot name).toList ++ (between ++ slot other ++ after).toList) := by
    simp only [String.toList_append, List.append_assoc]
  rw [hsplit, fill_plain hbefore, fill_slot h hv, hrest]
  simp only [String.toList_append, List.append_assoc]

/-! ### Groups -/

theorem outline_optional {text inside : String} (ht : '[' ∉ text.toList)
    (hi : ']' ∉ inside.toList) (hline : '\n' ∉ inside.toList) :
    outline (text ++ optional inside).toList = ⟨text.toList, [(inside.toList, [])]⟩ := by
  have hopened : (optional inside).toList =
      '[' :: '[' :: (inside.toList ++ ']' :: ']' :: []) := by
    simp [Vocabulary.optional]
  have hend : outline [] = ⟨[], []⟩ := outline_plain .nil
  have hgroup := group?_closed hline (.of_not_mem hi) []
  rw [String.toList_append, outline_append (.of_not_mem ht), hopened, outline_group hgroup, hend,
    List.append_nil]

/-! ### Rendering -/

/-- A template without groups is filled in. -/
theorem render_plain {template : String} (h : '[' ∉ template.toList) :
    render template context = String.ofList (fill context template.toList) := by
  rw [render, renderChars, outline_plain (.of_not_mem h), List.flatMap_nil, List.append_nil]

/-- A template around one slot has the value in the quoting that the slot asks for. -/
theorem render_around {before after name : String} {quoting : Quoting} (h : isName name.toList = true)
    {v : Value} (hv : context name = some v) (hgroup : '[' ∉ (before ++ slot name quoting ++ after).toList)
    (hbefore : '\x7b' ∉ before.toList) (hafter : '\x7b' ∉ after.toList) :
    render (before ++ slot name quoting ++ after) context = before ++ v.write quoting ++ after := by
  rw [render_plain hgroup, fill_around h hv hbefore hafter, String.ofList_toList]

/-- A text that is no template stands for itself. -/
theorem render_text {text : String} (hb : '[' ∉ text.toList) (hs : '\x7b' ∉ text.toList) :
    render text context = text := by
  rw [render_plain hb, fill_text hs, String.ofList_toList]

/-- The group of a slot that has a value is kept, that of one without is left out. -/
theorem render_optional {text before after name : String} (ht : '[' ∉ text.toList)
    (hs : '\x7b' ∉ text.toList) (h : isName name.toList = true) (hbefore : '\x7b' ∉ before.toList)
    (hafter : '\x7b' ∉ after.toList) (hi : ']' ∉ (before ++ slot name ++ after).toList)
    (hline : '\n' ∉ (before ++ slot name ++ after).toList) :
    render (text ++ optional (before ++ slot name ++ after)) context = text ++
      match context name with
      | some v => before ++ v.write .plain ++ after
      | none => "" := by
  have hnil : fill context [] = [] := fill_text (by simp)
  have hbound : (pieces true (before ++ slot name ++ after).toList).all (Piece.isBound context) =
      (context name).isSome := by
    have hchars : ∀ l : List Char, (l.map Piece.char).all (Piece.isBound context) = true := by
      simp [Piece.isBound]
    have hafter' : pieces true after.toList = after.toList.map .char := by
      simpa [pieces] using pieces_plain true hafter []
    rw [String.toList_append, String.toList_append, List.append_assoc, pieces_plain true hbefore,
      pieces_named h, hafter', List.all_append, List.all_cons, hchars, hchars, Piece.isBound,
      Context.value?, String.ofList_toList, Bool.true_and, Bool.and_true]
  rw [render, renderChars, outline_optional ht hi hline, List.flatMap_singleton]
  show String.ofList (fill context text.toList ++
    (fillGroup context (before ++ slot name ++ after).toList ++ fill context [])) = _
  rw [fillGroup, hbound, hnil, List.append_nil, fill_text hs]
  cases hv : context name with
  | none => simp
  | some v =>
    rw [Option.isSome_some, if_pos rfl, fill_around h hv hbefore hafter, ← String.toList_append,
      String.ofList_toList]

end Warehouse.Template
