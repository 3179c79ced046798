import Warehouse.Proofs.Template.Groups
import Warehouse.Proofs.Template.Untouched

/-!
Three ways to fill in a text: as a template, with a map of parameters, and with a list of pairs. The last two read a
text alike. A template has groups besides, and slots with quoting marks; a text with neither is read as the same
pieces by all, wherever braces stand in it. Main statement: the texts that all three fill in alike, whatever the
pairs are, are these and no others.
-/

namespace Warehouse

/-- The map of a list of pairs; of several pairs with one name the first counts. -/
def Dict.ofPairs {α : Type} (pairs : List (String × α)) : Dict α := ofList pairs.reverse

/-- The texts of a map as the values of a template. -/
def Dict.context (d : Dict String) : Template.Context := fun name => (d.find? name).map .text

theorem Dict.find?_foldl_insert_reverse {α : Type} (k : String) : ∀ (l : List (String × α)) (d : Dict α),
    (l.foldl (fun d e => d.insert e.1 e.2) d).find? k = (l.reverse.lookup k).or (d.find? k)
  | [], d => rfl
  | e :: rest, d => by
    have hlast : ([e].lookup k).or (d.find? k) = (d.insert e.1 e.2).find? k := by
      rw [find?_insert, List.lookup_cons]
      by_cases hk : k = e.1
      · rw [if_pos hk, beq_iff_eq.2 hk]
        rfl
      · rw [if_neg hk, beq_eq_false_iff_ne.2 hk]
        rfl
    rw [List.foldl_cons, find?_foldl_insert_reverse k rest, List.reverse_cons, List.lookup_append,
      Option.or_assoc, hlast]

theorem Dict.find?_ofPairs {α : Type} (pairs : List (String × α)) (k : String) :
    (ofPairs pairs).find? k = pairs.lookup k := by
  rw [ofPairs, ofList, find?_foldl_insert_reverse, List.reverse_reverse]
  exact Option.or_none

theorem Dict.context_ofPairs (pairs : List (String × String)) :
    (ofPairs pairs).context = Template.pairContext pairs := by
  funext name
  rw [context, find?_ofPairs, Template.pairContext]

namespace Template

/-! ### Reading with quoting marks and without -/

/-- A piece as it is read where quoting marks mean nothing: a slot with one is text. -/
def Piece.unmarked : Piece → List Piece
  | .char c => [.char c]
  | .slot s => if s.quoting = .plain then [.slot s] else s.chars.map .char

theorem slot?_unmarked {rest after : List Char} {s : Slot} (h : slot? true rest = some (s, after)) :
    slot? false rest = if s.quoting = .plain then some (s, after) else none := by
  obtain ⟨⟨hname, _⟩, hwritten⟩ := slot?_eq_some.1 h
  split
  · next hplain => exact slot?_eq_some.2 ⟨⟨hname, .inr hplain⟩, hwritten⟩
  · next hmarked =>
    refine Option.eq_none_iff_forall_ne_some.2 ?_
    rintro ⟨s', after'⟩ h'
    obtain ⟨⟨hname', hplain⟩, hwritten'⟩ := slot?_eq_some.1 h'
    -- there is one way to read a slot with marks, and this slot has none
    have hsame : slot? true rest = some (s', after') :=
      slot?_eq_some.2 ⟨⟨hname', .inl rfl⟩, hwritten'⟩
    rw [h] at hsame
    obtain ⟨rfl, _⟩ := Prod.mk.inj (Option.some.inj hsame)
    exact hmarked (hplain.resolve_left Bool.false_ne_true)

theorem slot?_unmarked_none {rest : List Char} (h : slot? true rest = none) : slot? false rest = none := by
  refine Option.eq_none_iff_forall_ne_some.2 ?_
  rintro ⟨s, after⟩ h'
  obtain ⟨⟨hname, _⟩, hwritten⟩ := slot?_eq_some.1 h'
  rw [slot?_eq_some.2 ⟨⟨hname, .inl rfl⟩, hwritten⟩] at h
  cases h

/-- Inside a slot no other one begins. -/
theorem Slot.Readable.brace_not_mem {quotings : Bool} {s : Slot} (hs : s.Readable quotings) :
    '\x7b' ∉ s.name ++ (s.quoting.mark ++ ['\x7d']) := by
  have hname : '\x7b' ∉ s.name := by
    intro hmem
    exact absurd (List.all_eq_true.1 (Bool.and_eq_true_iff.1 hs.1).2 _ hmem) (by decide)
  have hmark : '\x7b' ∉ s.quoting.mark := by
    cases s.quoting <;> decide
  simp [hname, hmark]

theorem pieces_false (cs : List Char) : pieces false cs = (pieces true cs).flatMap Piece.unmarked := by
  fun_induction pieces true cs with
  | case1 => rw [pieces]; rfl
  | case2 rest s after h ih =>
    have hslot := slot?_unmarked h
    obtain ⟨hs, hwritten⟩ := slot?_eq_some.1 h
    rw [List.flatMap_cons, ← ih, Piece.unmarked]
    split at hslot
    · next hplain => rw [pieces_slot hslot, if_pos hplain]; rfl
    · next hmarked =>
      have hrest : rest = s.name ++ (s.quoting.mark ++ ['\x7d']) ++ after := by
        rw [Slot.chars_eq] at hwritten
        exact (List.cons.inj hwritten).2
      rw [pieces_brace hslot, if_neg hmarked, Slot.chars_eq, hrest, pieces_plain false hs.brace_not_mem]
      rfl
  | case3 rest h ih => rw [pieces_brace (slot?_unmarked_none h), ih]; rfl
  | case4 x rest hx ih => rw [pieces_char rest hx, ih]; rfl

/-- Whether no slot of the text has a quoting mark. -/
def Unquoted (cs : List Char) : Prop :=
  ∀ s : Slot, s.Readable true → s.chars <:+: cs → s.quoting = .plain

theorem Unquoted.pieces_eq {cs : List Char} (h : Unquoted cs) : pieces false cs = pieces true cs := by
  have hsame : ∀ p ∈ pieces true cs, p.unmarked = [p] := by
    intro p hp
    cases p with
    | char c => rfl
    | slot s =>
      obtain ⟨hs, hin⟩ := slot_mem_pieces.1 hp
      rw [Piece.unmarked, if_pos (h s hs hin)]
  rw [pieces_false, List.flatMap_def, List.map_congr_left hsame, ← List.flatMap_def, List.flatMap_singleton']

/-! ### Texts without groups -/

/-- Whether no group begins anywhere in the text. -/
def Ungrouped (cs : List Char) : Prop := ∀ front, ¬ GroupBehind cs front

theorem Ungrouped.renderChars_eq {cs : List Char} (h : Ungrouped cs) (context : Context) :
    renderChars context cs = fill context cs := by
  have houtline : outline cs = ⟨cs, []⟩ := CutInto.unique (.plain h) (outline_cut cs)
  rw [renderChars, houtline, List.flatMap_nil, List.append_nil]

/-- Without values slots stay. -/
theorem fill_none (cs : List Char) : fill (fun _ => none) cs = cs := by
  have hwritten : ∀ p : Piece, p.fill (fun _ => none) = p.written := by
    rintro (c | s) <;> rfl
  rw [fill, List.flatMap_def, List.map_congr_left fun p _ => hwritten p, ← List.flatMap_def, pieces_written]

/-- Without values a group loses its brackets at least. -/
theorem length_renderChars_none {cs : List Char} (h : (outline cs).groups ≠ []) :
    (renderChars (fun _ => none) cs).length < cs.length := by
  have hinside : ∀ inside, (fillGroup (fun _ => none) inside).length ≤ inside.length := by
    intro inside
    rw [fillGroup, fill_none]
    split
    · exact Nat.le_refl _
    · exact Nat.zero_le _
  have hgroup : ∀ g : List Char × List Char,
      (fillGroup (fun _ => none) g.1 ++ fill (fun _ => none) g.2).length <
        ('[' :: '[' :: (g.1 ++ ']' :: ']' :: g.2)).length := by
    intro g
    have hle := hinside g.1
    simp only [fill_none, List.length_append, List.length_cons]
    omega
  obtain ⟨g, rest, hgroups⟩ := List.exists_cons_of_ne_nil h
  have hlt : ((outline cs).groups.flatMap fun g =>
      fillGroup (fun _ => none) g.1 ++ fill (fun _ => none) g.2).length <
        ((outline cs).groups.flatMap fun g => '[' :: '[' :: (g.1 ++ ']' :: ']' :: g.2)).length :=
    length_flatMap_lt (fun g _ => (hgroup g).le) ⟨g, hgroups ▸ List.mem_cons_self, hgroup g⟩
  calc (renderChars (fun _ => none) cs).length < (outline cs).written.length := by
        rw [renderChars, fill_none, Outline.written, List.length_append, List.length_append]
        exact Nat.add_lt_add_left hlt _
    _ = cs.length := by rw [outline_written]

theorem ungrouped_iff {cs : List Char} : Ungrouped cs ↔ (outline cs).groups = [] := by
  constructor
  · intro h
    rw [CutInto.unique (.plain h) (outline_cut cs)]
  · intro h
    have hcut := outline_cut cs
    generalize outline cs = o at h hcut
    cases hcut with
    | plain hnone => exact hnone
    | group => cases h

/-! ### Slots with quoting marks -/

/-- A value of one name, which is nothing but a text. -/
theorem pairContext_single (name : String) :
    pairContext [(name, "")] = fun other => (blank name other).map .text := by
  funext other
  rw [pairContext, List.lookup_cons, blank]
  by_cases h : other = name
  · rw [if_pos h, beq_iff_eq.2 h]
  · rw [if_neg h, beq_eq_false_iff_ne.2 h]
    rfl

/-- Where a mark is read, less is written of a slot that is filled with nothing: the marks of one item. -/
theorem length_fill_blank_marked {s : Slot} (hs : s.Readable true) (hmarked : s.quoting ≠ .plain) :
    (Piece.fill (pairContext [(String.ofList s.name, "")]) (.slot s)).length < s.chars.length := by
  have hname : 0 < s.name.length := by
    refine List.length_pos_of_ne_nil fun hnil => ?_
    have hstart := (Bool.and_eq_true_iff.1 hs.1).1
    rw [hnil] at hstart
    cases hstart
  obtain ⟨name, quoting⟩ := s
  cases quoting with
  | plain => exact absurd rfl hmarked
  | single => simp [Piece.fill, Context.value?, pairContext, Value.write, Value.list, Slot.chars]
  | double => simp [Piece.fill, Context.value?, pairContext, Value.write, Value.list, Slot.chars]

theorem length_fill_unmarked (name : String) {p : Piece} {cs : List Char} (hp : p ∈ pieces true cs) :
    (p.fill (pairContext [(name, "")])).length ≤
      (p.unmarked.flatMap (Piece.fill (pairContext [(name, "")]))).length := by
  cases p with
  | char c => exact Nat.le_refl _
  | slot s =>
    rw [Piece.unmarked]
    split
    · rw [List.flatMap_singleton]
    · next hmarked =>
      rw [flatMap_fill_char]
      by_cases hname : String.ofList s.name = name
      · rw [← hname]
        exact (length_fill_blank_marked (slot_mem_pieces.1 hp).1 hmarked).le
      · have hnone : (pairContext [(name, "")]).value? s = none := by
          rw [pairContext_single, Context.value?, blank, if_neg hname]
          rfl
        rw [Piece.fill, hnone]

/-- A slot with a mark that is filled with nothing is shorter than the slot. -/
theorem length_fill_lt_substitute {cs : List Char} {s : Slot} (hs : s.Readable true)
    (hin : s.chars <:+: cs) (hmarked : s.quoting ≠ .plain) :
    (fill (pairContext [(String.ofList s.name, "")]) cs).length <
      ((pieces false cs).flatMap (Piece.fill (pairContext [(String.ofList s.name, "")]))).length := by
  rw [pieces_false, List.flatMap_assoc]
  refine length_flatMap_lt (fun p hp => length_fill_unmarked _ hp) ⟨.slot s, slot_mem_pieces.2 ⟨hs, hin⟩, ?_⟩
  rw [Piece.unmarked, if_neg hmarked, flatMap_fill_char]
  exact length_fill_blank_marked hs hmarked

/-! ### Filling in alike -/

theorem toList_substitutePairs (text : String) (pairs : List (String × String)) :
    (substitutePairs text pairs).toList =
      (pieces false text.toList).flatMap (Piece.fill (pairContext pairs)) := by
  rw [substitutePairs, substitute, String.toList_ofList, substituteChars]
  rfl

/-- Pairs fill in a text as the map in which each name has the value of its first pair. As the context of a template
this map fills the text in alike, whatever the pairs are, exactly when no group is in the text and no slot that has
a quoting mark. -/
theorem fillings_agree_iff (text : String) :
    (∀ pairs : List (String × String),
      substitute text (Dict.ofPairs pairs).find? = substitutePairs text pairs) ∧
    ((∀ pairs : List (String × String),
      render text (Dict.ofPairs pairs).context = substitutePairs text pairs) ↔
        Ungrouped text.toList ∧ Unquoted text.toList) := by
  have hfilled : ∀ pairs : List (String × String), Ungrouped text.toList →
      (render text (Dict.ofPairs pairs).context).toList = fill (pairContext pairs) text.toList := by
    intro pairs h
    rw [render, String.toList_ofList, Dict.context_ofPairs, h.renderChars_eq]
  constructor
  · intro pairs
    rw [substitutePairs]
    exact congrArg _ (funext (Dict.find?_ofPairs pairs))
  constructor
  case right.mp =>
    intro h
    have hungrouped : Ungrouped text.toList := by
      by_contra hgrouped
      -- without pairs nothing is filled in, but brackets are lost
      have hlt := length_renderChars_none (mt ungrouped_iff.2 hgrouped)
      have hnone : (substitutePairs text []).toList = text.toList := by
        rw [substitutePairs, substitute_of_leavesAlone (by rintro s _ _ v ⟨⟩)]
      have hcontext : (Dict.ofPairs []).context = fun _ => none := rfl
      have hrender := congrArg String.toList (h [])
      rw [render, String.toList_ofList, hcontext, hnone] at hrender
      rw [hrender] at hlt
      exact Nat.lt_irrefl _ hlt
    refine ⟨hungrouped, fun s hs hin => ?_⟩
    by_contra hmarked
    have hlt := length_fill_lt_substitute hs hin hmarked
    rw [← hfilled _ hungrouped, ← toList_substitutePairs, h] at hlt
    exact Nat.lt_irrefl _ hlt
  case right.mpr =>
    rintro ⟨hungrouped, hunquoted⟩ pairs
    rw [← String.toList_inj, hfilled pairs hungrouped, toList_substitutePairs, hunquoted.pieces_eq, fill]

end Template

end Warehouse
