import Mathlib.Data.List.TakeWhile
import Warehouse.Template

/-!
Reading a text in parts. A slot holds nothing but its braces, its name and its quoting mark, so a
character that none of these can hold cuts a text in two: the pieces of the whole are the pieces of what
stands before it and of the rest. Texts that are joined by such a separator are filled in one by one.
-/

namespace Warehouse.Template

/-- Whether no slot can go on past the character. -/
def cuts (c : Char) : Bool := !isNamePart c && c != ':' && c != '\x7d'

theorem cuts_iff {c : Char} : cuts c = true ↔ isNamePart c = false ∧ c ≠ ':' ∧ c ≠ '\x7d' := by
  simp [cuts, and_assoc]

theorem isNamePart_of_isNameStart {c : Char} (h : isNameStart c = true) : isNamePart c = true := by
  simp only [isNameStart, isNamePart, Bool.or_eq_true, Char.isAlphanum] at h ⊢
  rcases h with h | h
  · exact Or.inl (Or.inl h)
  · exact Or.inr h

/-- A phrase at the front of a text ends before a character that it does not hold. -/
theorem phrase_before_cut {p a b rest : List Char} {c : Char} (hc : c ∉ p)
    (h : a ++ c :: b = p ++ rest) : ∃ r, a = p ++ r := by
  rcases List.append_eq_append_iff.1 h with ⟨a', hp, hr⟩ | ⟨r, ha, _⟩
  · cases a' with
    | nil => exact ⟨[], by rw [hp, List.append_nil, List.append_nil]⟩
    | cons x xs =>
      obtain ⟨rfl, _⟩ := List.cons.inj hr
      exact absurd (hp ▸ List.mem_append_right a List.mem_cons_self) hc
  · exact ⟨r, ha⟩

/-! ### One step of reading -/

theorem pieces_slot {quotings : Bool} {rest after : List Char} {s : Slot}
    (h : slot? quotings rest = some (s, after)) :
    pieces quotings ('\x7b' :: rest) = .slot s :: pieces quotings after := by
  rw [pieces, if_pos rfl]
  split
  · next s' after' h' =>
    obtain ⟨rfl, rfl⟩ := Prod.mk.inj (Option.some.inj (h.symm.trans h'))
    rfl
  · next h' => rw [h] at h'; cases h'

theorem pieces_brace {quotings : Bool} {rest : List Char} (h : slot? quotings rest = none) :
    pieces quotings ('\x7b' :: rest) = .char '\x7b' :: pieces quotings rest := by
  rw [pieces, if_pos rfl]
  split
  · next h' => rw [h] at h'; cases h'
  · rfl

theorem pieces_char {quotings : Bool} {x : Char} (rest : List Char) (hx : x ≠ '\x7b') :
    pieces quotings (x :: rest) = .char x :: pieces quotings rest := by
  rw [pieces, if_neg hx]

/-! ### Cutting a text -/

section Cut

variable {c : Char} (hc : cuts c = true) (quotings : Bool) (b : List Char)
include hc

theorem slotEnd?_cut (a : List Char) : slotEnd? quotings (a ++ c :: b) =
    (slotEnd? quotings a).map fun (q, rest) => (q, rest ++ c :: b) := by
  obtain ⟨hpart, hcolon, hbrace⟩ := cuts_iff.1 hc
  have hne : ∀ x : Char, isNamePart x = true → c ≠ x := by
    rintro x hx rfl
    exact absurd hx (by simp [hpart])
  have hs : c ≠ 's' := hne 's' (by decide)
  have hq : c ≠ 'q' := hne 'q' (by decide)
  have hd : c ≠ 'd' := hne 'd' (by decide)
  fun_cases slotEnd? quotings a with
  | case1 rest => rfl
  | case2 rest h => simp [slotEnd?, h]
  | case3 rest h => simp [slotEnd?, h]
  | case4 rest h => simp [slotEnd?, h]
  | case5 rest h => simp [slotEnd?, h]
  | case6 a h1 h2 h3 =>
    refine slotEnd?.eq_4 quotings _ (fun rest h => ?_) (fun rest h => ?_) fun rest h => ?_
    · obtain ⟨r, hr⟩ := phrase_before_cut (p := ['\x7d']) (by simp [hbrace]) h
      exact h1 r hr
    · obtain ⟨r, hr⟩ := phrase_before_cut (p := [':', 's', 'q', '\x7d'])
        (by simp [hcolon, hs, hq, hbrace]) h
      exact h2 r hr
    · obtain ⟨r, hr⟩ := phrase_before_cut (p := [':', 'd', 'q', '\x7d'])
        (by simp [hcolon, hd, hq, hbrace]) h
      exact h3 r hr

theorem takeWhile_cut (a : List Char) :
    (a ++ c :: b).takeWhile isNamePart = a.takeWhile isNamePart := by
  induction a with
  | nil => rw [List.nil_append, List.takeWhile_cons, (cuts_iff.1 hc).1]; rfl
  | cons x a ih => rw [List.cons_append, List.takeWhile_cons, List.takeWhile_cons, ih]

theorem dropWhile_cut (a : List Char) :
    (a ++ c :: b).dropWhile isNamePart = a.dropWhile isNamePart ++ c :: b := by
  induction a with
  | nil => rw [List.nil_append, List.dropWhile_cons, (cuts_iff.1 hc).1]; rfl
  | cons x a ih =>
    rw [List.cons_append, List.dropWhile_cons, List.dropWhile_cons, ih]
    split <;> rfl

theorem slot?_cut (a : List Char) : slot? quotings (a ++ c :: b) =
    (slot? quotings a).map fun (s, rest) => (s, rest ++ c :: b) := by
  have hpart : isNamePart c ≠ true := by simp [(cuts_iff.1 hc).1]
  have hstart : ((a ++ c :: b).head?.map isNameStart).getD false =
      (a.head?.map isNameStart).getD false := by
    cases a with
    | cons x a => rfl
    | nil =>
      have hnot : isNameStart c ≠ true := fun h => hpart (isNamePart_of_isNameStart h)
      simpa using hnot
  rw [slot?, slot?, hstart, takeWhile_cut hc, dropWhile_cut hc, slotEnd?_cut hc]
  split
  · rw [Option.map_map, Option.map_map]; rfl
  · rfl

/-- The pieces of a text are those of the part before a cut and those of the part from the cut on. -/
theorem pieces_cut (a : List Char) :
    pieces quotings (a ++ c :: b) = pieces quotings a ++ pieces quotings (c :: b) := by
  fun_induction pieces quotings a with
  | case1 => rfl
  | case2 rest s after h ih =>
    have hslot := slot?_cut hc quotings b rest
    rw [h, Option.map_some] at hslot
    rw [List.cons_append, pieces_slot hslot, ih, List.cons_append]
  | case3 rest h ih =>
    have hslot := slot?_cut hc quotings b rest
    rw [h, Option.map_none] at hslot
    rw [List.cons_append, pieces_brace hslot, ih, List.cons_append]
  | case4 x rest hx ih => rw [List.cons_append, pieces_char _ hx, ih, List.cons_append]

end Cut

/-- A text without opening braces stands for itself. -/
theorem pieces_plain (quotings : Bool) {a : List Char} (ha : '\x7b' ∉ a) (b : List Char) :
    pieces quotings (a ++ b) = a.map .char ++ pieces quotings b := by
  induction a with
  | nil => rfl
  | cons x a ih =>
    have hx : x ≠ '\x7b' := (List.ne_of_not_mem_cons ha).symm
    rw [List.cons_append, pieces_char _ hx, ih (List.not_mem_of_not_mem_cons ha), List.map_cons,
      List.cons_append]

theorem flatMap_fill_char (context : Context) (a : List Char) :
    (a.map .char).flatMap (Piece.fill context) = a := by
  induction a with
  | nil => rfl
  | cons x a ih => rw [List.map_cons, List.flatMap_cons, ih]; rfl

/-! ### Filling in a text in parts -/

section Substitute

variable (params : String → Option String)

theorem substituteChars_plain {a : List Char} (ha : '\x7b' ∉ a) (b : List Char) :
    substituteChars params (a ++ b) = a ++ substituteChars params b := by
  rw [substituteChars, pieces_plain false ha, List.flatMap_append, flatMap_fill_char, substituteChars]

theorem substituteChars_cut {c : Char} (hc : cuts c = true) (a b : List Char) :
    substituteChars params (a ++ c :: b) =
      substituteChars params a ++ substituteChars params (c :: b) := by
  rw [substituteChars, pieces_cut hc, List.flatMap_append, substituteChars, substituteChars]

/-- A separator is plain text that starts with a cut. -/
def Separates (sep : List Char) : Prop :=
  ∃ c rest, sep = c :: rest ∧ cuts c = true ∧ '\x7b' ∉ sep

theorem substituteChars_separated {sep : List Char} (hs : Separates sep) (a b : List Char) :
    substituteChars params (a ++ (sep ++ b)) =
      substituteChars params a ++ (sep ++ substituteChars params b) := by
  obtain ⟨c, rest, rfl, hc, hplain⟩ := hs
  rw [List.cons_append, substituteChars_cut params hc, ← List.cons_append,
    substituteChars_plain params hplain]

/-- Texts on both sides of a separator are filled in one by one. -/
theorem substitute_separated {sep : String} (hs : Separates sep.toList) (a b : String) :
    substitute (a ++ sep ++ b) params = substitute a params ++ sep ++ substitute b params := by
  rw [← String.toList_inj, substitute, String.toList_ofList, String.toList_append,
    String.toList_append, List.append_assoc, substituteChars_separated params hs, substitute,
    substitute, String.toList_append, String.toList_append, String.toList_ofList,
    String.toList_ofList, List.append_assoc]

theorem substituteChars_intercalate {sep : List Char} (hs : Separates sep) :
    ∀ parts : List (List Char), substituteChars params (sep.intercalate parts) =
      sep.intercalate (parts.map (substituteChars params))
  | [] => by simp [substituteChars, pieces]
  | [a] => by simp
  | a :: b :: rest => by
    rw [List.map_cons, List.map_cons, List.intercalate_cons_cons, List.intercalate_cons_cons,
      ← List.map_cons, ← substituteChars_intercalate hs (b :: rest), List.append_assoc,
      List.append_assoc]
    exact substituteChars_separated params hs a _

/-- Texts joined by a separator are filled in one by one. -/
theorem substitute_intercalate {sep : String} (hs : Separates sep.toList) (parts : List String) :
    substitute (String.intercalate sep parts) params =
      String.intercalate sep (parts.map (substitute · params)) := by
  rw [← String.toList_inj, substitute, String.toList_ofList, String.toList_intercalate,
    substituteChars_intercalate params hs, String.toList_intercalate, List.map_map, List.map_map]
  simp only [Function.comp_def, substitute, String.toList_ofList]

end Substitute

/-! ### The slot of a name -/

/-- Whether the text can be the name of a slot. -/
def isName (name : List Char) : Bool :=
  (name.head?.map isNameStart).getD false && name.all isNamePart

theorem slot?_name {name : List Char} (h : isName name = true) (quotings : Bool) (rest : List Char) :
    slot? quotings (name ++ '\x7d' :: rest) = some (⟨name, .plain⟩, rest) := by
  obtain ⟨hstart, hall⟩ := Bool.and_eq_true_iff.1 h
  have hpart : ∀ x ∈ name, isNamePart x = true := List.all_eq_true.1 hall
  have hhead : ((name ++ '\x7d' :: rest).head?.map isNameStart).getD false = true := by
    cases name with
    | nil => simp at hstart
    | cons x name => exact hstart
  have hbrace : isNamePart '\x7d' = false := by decide
  rw [slot?, if_pos hhead, List.dropWhile_append_of_pos hpart, List.takeWhile_append_of_pos hpart,
    List.dropWhile_cons, List.takeWhile_cons, hbrace]
  simp [slotEnd?]

/-- A slot ends at its closing brace, or at a colon where quoting marks are read, and nowhere else. -/
theorem slotEnd?_plain {x : Char} (hx : x ≠ '\x7d') (rest : List Char) :
    slotEnd? false (x :: rest) = none := by
  unfold slotEnd?
  split
  · next h => exact absurd (List.cons.inj h).1 hx
  · rfl
  · rfl
  · rfl

theorem slot?_not_name {name : List Char} (h : isName name = false) (hb : '\x7d' ∉ name) :
    slot? false (name ++ ['\x7d']) = none := by
  rw [slot?]
  split
  · next hstart =>
    have hnonempty : name ≠ [] := by
      rintro rfl
      exact absurd hstart (by decide)
    have hhead : (name.head?.map isNameStart).getD false = true := by
      cases name with
      | nil => exact absurd rfl hnonempty
      | cons x name => exact hstart
    have hparts : ¬ ∀ x ∈ name, isNamePart x = true := by
      rw [isName, hhead, Bool.true_and] at h
      rw [← List.all_eq_true, h]
      exact Bool.false_ne_true
    -- the name goes on past the part that a slot can hold, so no slot ends there
    have hrest : name.dropWhile isNamePart ≠ [] := mt List.dropWhile_eq_nil_iff.1 hparts
    obtain ⟨x, rest, hx⟩ := List.exists_cons_of_ne_nil hrest
    have hmem : x ∈ name := by
      refine (List.dropWhile_suffix isNamePart).subset ?_
      rw [hx]
      exact List.mem_cons_self
    have hdrop : (name ++ ['\x7d']).dropWhile isNamePart = x :: (rest ++ ['\x7d']) := by
      rw [List.dropWhile_append, hx]
      rfl
    rw [hdrop, slotEnd?_plain (fun hbrace => hb (hbrace ▸ hmem)), Option.map_none]
  · rfl

/-- Whether the text holds no braces. -/
def BraceFree (name : String) : Prop := '\x7b' ∉ name.toList ∧ '\x7d' ∉ name.toList

instance (name : String) : Decidable (BraceFree name) :=
  inferInstanceAs (Decidable (_ ∧ _))

/-- What stands for the slot of a name that has this value, if any: a text that cannot be the name of a
slot is left as it is written. -/
def filledSlot (name : String) (value : Option String) : String :=
  if isName name.toList then value.getD (slot name) else slot name

theorem filledSlot_some {name value : String} :
    filledSlot name (some value) = value ↔ isName name.toList = true ∨ value = slot name := by
  rw [filledSlot]
  split
  · next h => simp [h]
  · next h => simp [h, eq_comm]

theorem toList_slot (name : String) : (slot name).toList = '\x7b' :: (name.toList ++ ['\x7d']) := by
  simp [slot, Slot.chars]

theorem substitute_slot {name : String} (h : BraceFree name) (params : String → Option String) :
    substitute (slot name) params = filledSlot name (params name) := by
  have hslot := toList_slot name
  rw [← String.toList_inj, substitute, String.toList_ofList, substituteChars, hslot, filledSlot]
  split
  · next hname =>
    rw [pieces_slot (slot?_name hname false []), pieces, List.flatMap_singleton, Piece.fill,
      Context.value?, String.ofList_toList]
    cases params name with
    | none => rw [Option.getD_none, hslot]; simp [Slot.chars]
    | some v => simp [Value.write, Value.list]
  · next hname =>
    have hplain : '\x7b' ∉ name.toList ++ ['\x7d'] := by simp [h.1]
    rw [pieces_brace (slot?_not_name (by simpa using hname) h.2), List.flatMap_cons, hslot]
    have := substituteChars_plain params hplain []
    simpa [substituteChars, pieces, Piece.fill] using this

/-- Nothing is filled in before the first brace of a text. -/
theorem substitute_append {text : String} (h : '\x7b' ∉ text.toList) (rest : String)
    (params : String → Option String) :
    substitute (text ++ rest) params = text ++ substitute rest params := by
  rw [← String.toList_inj, substitute, String.toList_ofList, String.toList_append,
    substituteChars_plain params h, String.toList_append, substitute, String.toList_ofList]

end Warehouse.Template
