import Mathlib.Algebra.Order.BigOperators.Group.List
import Mathlib.Algebra.Order.Group.Nat
import Warehouse.Proofs.Dict.Lookup
import Warehouse.Proofs.Template.Skeleton

/-!
Texts that parameters leave alone. A text is changed only where a slot is written whose name has a parameter, and a
text that holds a slot is changed by some parameters, since a slot that is filled with nothing makes it shorter. Main
statements: the texts that no parameters change are those without slots, and no text is lost but by empty parameters.
-/

namespace Warehouse.Template

/-! ### Lengths -/

section Length

variable {α β : Type} {l : List α} {f g : α → List β}

/-- Where one part of a text is shorter and none is longer, the text is shorter. -/
theorem length_flatMap_lt (h : ∀ x ∈ l, (f x).length ≤ (g x).length)
    (hlt : ∃ x ∈ l, (f x).length < (g x).length) : (l.flatMap f).length < (l.flatMap g).length := by
  rw [List.length_flatMap, List.length_flatMap]
  exact List.sum_lt_sum _ _ h hlt

end Length

/-! ### Slots in a text -/

/-- The slots among the pieces of a text are those that are written in it. -/
theorem slot_mem_pieces {quotings : Bool} {cs : List Char} {s : Slot} :
    .slot s ∈ pieces quotings cs ↔ s.Readable quotings ∧ s.chars <:+: cs := by
  constructor
  · intro h
    obtain ⟨a, b, rfl⟩ := written_of_mem_pieces h
    exact ⟨readable_of_mem_pieces h, a, b, List.append_assoc a s.chars b⟩
  · rintro ⟨hs, a, b, rfl⟩
    rw [List.append_assoc, pieces_occurrence hs]
    exact List.mem_append_right _ List.mem_cons_self

/-- Whether no slot is written in the text. -/
def SlotFree (text : String) : Prop := ∀ s : Slot, s.Readable false → ¬ s.chars <:+: text.toList

theorem slotFree_iff {text : String} : SlotFree text ↔ ∀ s : Slot, .slot s ∉ pieces false text.toList := by
  refine forall_congr' fun s => ?_
  rw [slot_mem_pieces, not_and]

/-- A text without opening braces has no slots in front of another one. -/
theorem slotFree_append {a : String} (ha : '\x7b' ∉ a.toList) (b : String) : SlotFree (a ++ b) ↔ SlotFree b := by
  rw [slotFree_iff, slotFree_iff, String.toList_append, pieces_plain false ha]
  simp

theorem slotFree_of_not_mem {text : String} (h : '\x7b' ∉ text.toList) : SlotFree text := by
  intro s _ hin
  rw [s.chars_eq] at hin
  exact h (hin.subset List.mem_cons_self)

/-- No slot reaches over a separator. -/
theorem slotFree_separated {sep : String} (hs : Separates sep.toList) (a b : String) :
    SlotFree (a ++ sep ++ b) ↔ SlotFree a ∧ SlotFree b := by
  obtain ⟨c, rest, hsep, hc, hplain⟩ := hs
  have hchars : (a ++ sep ++ b).toList = a.toList ++ c :: (rest ++ b.toList) := by
    rw [String.toList_append, String.toList_append, hsep, List.append_assoc, List.cons_append]
  have hbehind : pieces false (c :: (rest ++ b.toList)) =
      sep.toList.map .char ++ pieces false b.toList := by
    rw [← pieces_plain false hplain, hsep, List.cons_append]
  rw [slotFree_iff, slotFree_iff, slotFree_iff, hchars, pieces_cut hc, hbehind, ← forall_and]
  simp

theorem slotFree_intercalate {sep : String} (hs : Separates sep.toList) : ∀ {parts : List String},
    SlotFree (String.intercalate sep parts) ↔ ∀ part ∈ parts, SlotFree part
  | [] => by simp [slotFree_iff, pieces]
  | [a] => by simp
  | a :: b :: rest => by
    rw [String.intercalate_cons_cons, slotFree_separated hs, slotFree_intercalate hs, List.forall_mem_cons,
      List.forall_mem_cons, List.forall_mem_cons]

/-- Whether no parameter says anything else than a slot of its name in the text. -/
def LeavesAlone (params : String → Option String) (text : String) : Prop :=
  ∀ s : Slot, s.Readable false → s.chars <:+: text.toList →
    ∀ v ∈ params (String.ofList s.name), v.toList = s.chars

/-- A plain slot is filled with its parameter as it is. -/
theorem Slot.Readable.fill_params {s : Slot} (hs : s.Readable false) (params : String → Option String) :
    Piece.fill (fun name => (params name).map .text) (.slot s) =
      ((params (String.ofList s.name)).map String.toList).getD s.chars := by
  have hplain : s.quoting = .plain := hs.2.resolve_left Bool.false_ne_true
  rw [Piece.fill, Context.value?, hplain]
  cases params (String.ofList s.name) with
  | none => rfl
  | some v => simp [Value.write, Value.list]

theorem substitute_of_leavesAlone {params : String → Option String} {text : String}
    (h : LeavesAlone params text) : substitute text params = text := by
  have hwritten : ∀ p ∈ pieces false text.toList,
      Piece.fill (fun name => (params name).map .text) p = p.written := by
    intro p hp
    cases p with
    | char c => rfl
    | slot s =>
      obtain ⟨hs, hin⟩ := slot_mem_pieces.1 hp
      rw [hs.fill_params, Piece.written]
      cases hv : params (String.ofList s.name) with
      | none => rfl
      | some v => exact h s hs hin v hv
  rw [substitute, substituteChars, List.flatMap_def, List.map_congr_left hwritten, ← List.flatMap_def,
    pieces_written, String.ofList_toList]

/-- The parameters that have nothing to say for one name, and are silent on all others. -/
def blank (name : String) : String → Option String := fun other => if other = name then some "" else none

theorem Slot.chars_length_pos (s : Slot) : 0 < s.chars.length := by
  rw [Slot.chars_eq]
  exact Nat.succ_pos _

theorem fill_blank_le (name : String) {p : Piece} {cs : List Char} (hp : p ∈ pieces false cs) :
    (p.fill fun other => (blank name other).map .text).length ≤ p.written.length := by
  cases p with
  | char c => exact Nat.le_refl _
  | slot s =>
    rw [(slot_mem_pieces.1 hp).1.fill_params, blank, Piece.written]
    split
    · exact Nat.zero_le _
    · exact Nat.le_refl _

/-- With nothing for a slot that it holds, a text gets shorter. -/
theorem length_substitute_blank_lt {text : String} {s : Slot} (hs : s.Readable false)
    (hin : s.chars <:+: text.toList) :
    (substitute text (blank (String.ofList s.name))).toList.length < text.toList.length := by
  have hshorter : (Piece.fill (fun other => (blank (String.ofList s.name) other).map .text) (.slot s)).length <
      (Piece.slot s).written.length := by
    rw [hs.fill_params, blank, if_pos rfl]
    exact s.chars_length_pos
  rw [substitute, String.toList_ofList, substituteChars]
  calc _ < ((pieces false text.toList).flatMap Piece.written).length :=
        length_flatMap_lt (fun p hp => fill_blank_le _ hp) ⟨_, slot_mem_pieces.2 ⟨hs, hin⟩, hshorter⟩
    _ = text.toList.length := by rw [pieces_written]

/-- The texts that no parameters change are those without slots. -/
theorem substitute_eq_self_iff {text : String} :
    (∀ params : Dict String, substitute text params.find? = text) ↔ SlotFree text := by
  constructor
  · intro h s hs hin
    have hlt := length_substitute_blank_lt hs hin
    have hblank : (Dict.empty.insert (String.ofList s.name) "").find? = blank (String.ofList s.name) := by
      funext other
      rw [Dict.find?_insert]
      rfl
    rw [← hblank, h] at hlt
    exact Nat.lt_irrefl _ hlt
  · intro h params
    exact substitute_of_leavesAlone fun s hs hin => absurd hin (h s hs)

/-! ### What is not empty -/

theorem slot_ne_empty (name : String) : slot name ≠ "" := by
  intro h
  have hchars := congrArg String.toList h
  rw [toList_slot] at hchars
  cases hchars

/-- A piece is filled with nothing only where a parameter is empty. -/
theorem fill_params_ne_nil {params : String → Option String} (h : ∀ name, params name ≠ some "") {p : Piece}
    {cs : List Char} (hp : p ∈ pieces false cs) : p.fill (fun name => (params name).map .text) ≠ [] := by
  cases p with
  | char c => exact List.cons_ne_nil c []
  | slot s =>
    rw [(slot_mem_pieces.1 hp).1.fill_params]
    cases hv : params (String.ofList s.name) with
    | none => exact List.ne_nil_of_length_pos s.chars_length_pos
    | some v =>
      intro hnil
      exact h _ (hv.trans (congrArg some (String.toList_inj.1 hnil)))

/-- Where no parameter is empty, no text comes out empty. -/
theorem substitute_ne_empty {params : String → Option String} (h : ∀ name, params name ≠ some "")
    {text : String} (hne : text ≠ "") : substitute text params ≠ "" := by
  intro hempty
  have hchars := congrArg String.toList hempty
  rw [substitute, String.toList_ofList, substituteChars] at hchars
  have hnone : pieces false text.toList = [] := List.eq_nil_iff_forall_not_mem.2 fun p hp =>
    fill_params_ne_nil h hp (List.flatMap_eq_nil_iff.1 hchars p hp)
  have hwritten := pieces_written false text.toList
  rw [hnone] at hwritten
  exact hne (String.toList_inj.1 hwritten.symm)

end Warehouse.Template
