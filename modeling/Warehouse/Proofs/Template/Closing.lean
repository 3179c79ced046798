import Warehouse.Proofs.Template.Cuts

/-!
Where a slot ends and what it can name. A slot ends at the first closing brace behind the opening one, so
a text that ends in a closing brace is read without regard to what follows it. Its name is an identifier,
so parameters of other names are never asked for.
-/

namespace Warehouse.Template

/-- A phrase that stands at the front of a text, and whose last character comes early enough, stands in
the part of the text that holds this character. -/
theorem phrase_within {p a b rest : List Char} {c : Char} (hp : c ∉ p) (ha : c ∈ a)
    (h : a ++ b = p ++ c :: rest) : ∃ r, a = p ++ c :: r := by
  induction p generalizing a with
  | nil =>
    cases a with
    | nil => simp at ha
    | cons x a =>
      obtain ⟨rfl, _⟩ := List.cons.inj h
      exact ⟨a, rfl⟩
  | cons y p ih =>
    cases a with
    | nil => simp at ha
    | cons x a =>
      obtain ⟨rfl, htail⟩ := List.cons.inj h
      have hne : c ≠ x := List.ne_of_not_mem_cons hp
      have hmem : c ∈ a := (List.mem_cons.1 ha).resolve_left hne
      obtain ⟨r, rfl⟩ := ih (List.not_mem_of_not_mem_cons hp) hmem htail
      exact ⟨r, rfl⟩

/-! ### Reading no further than a closing brace -/

section Behind

variable (quotings : Bool) {a : List Char} (ha : '\x7d' ∈ a) (b : List Char)
include ha

theorem slotEnd?_append : slotEnd? quotings (a ++ b) =
    (slotEnd? quotings a).map fun (q, rest) => (q, rest ++ b) := by
  fun_cases slotEnd? quotings a with
  | case1 rest => rfl
  | case2 rest h => simp [slotEnd?, h]
  | case3 rest h => simp [slotEnd?, h]
  | case4 rest h => simp [slotEnd?, h]
  | case5 rest h => simp [slotEnd?, h]
  | case6 a h1 h2 h3 =>
    refine slotEnd?.eq_4 quotings _ (fun rest h => ?_) (fun rest h => ?_) fun rest h => ?_
    · obtain ⟨r, hr⟩ := phrase_within (p := []) (by simp) ha h
      exact h1 r hr
    · obtain ⟨r, hr⟩ := phrase_within (p := [':', 's', 'q']) (by decide) ha h
      exact h2 r hr
    · obtain ⟨r, hr⟩ := phrase_within (p := [':', 'd', 'q']) (by decide) ha h
      exact h3 r hr

/-- The name of a slot does not go past a closing brace. -/
theorem mem_dropWhile_isNamePart : '\x7d' ∈ a.dropWhile isNamePart := by
  have hmem : '\x7d' ∈ a.takeWhile isNamePart ++ a.dropWhile isNamePart := by
    rw [List.takeWhile_append_dropWhile]
    exact ha
  rcases List.mem_append.1 hmem with h | h
  · exact absurd (List.mem_takeWhile_imp h) (by decide)
  · exact h

theorem slot?_append : slot? quotings (a ++ b) =
    (slot? quotings a).map fun (s, rest) => (s, rest ++ b) := by
  have hdrop := mem_dropWhile_isNamePart ha
  have hlength : (a.takeWhile isNamePart).length ≠ a.length := by
    intro h
    have hwhole : a.takeWhile isNamePart = a := (List.takeWhile_prefix isNamePart).eq_of_length h
    rw [List.takeWhile_eq_self_iff] at hwhole
    exact absurd (hwhole _ ha) (by decide)
  have htake : (a ++ b).takeWhile isNamePart = a.takeWhile isNamePart := by
    rw [List.takeWhile_append, if_neg hlength]
  have hrest : (a ++ b).dropWhile isNamePart = a.dropWhile isNamePart ++ b := by
    rw [List.dropWhile_append, if_neg]
    simpa using List.ne_nil_of_mem hdrop
  have hhead : (a ++ b).head? = a.head? := by
    cases a with
    | nil => simp at ha
    | cons x a => rfl
  rw [slot?, slot?, hhead, htake, hrest, slotEnd?_append quotings hdrop]
  split
  · rw [Option.map_map, Option.map_map]; rfl
  · rfl

end Behind

/-- What follows the end of a slot is the end of the text that was read. -/
theorem suffix_of_slotEnd? {quotings : Bool} {cs rest : List Char} {q : Quoting}
    (h : slotEnd? quotings cs = some (q, rest)) : rest <:+ cs := by
  unfold slotEnd? at h
  split at h
  · cases h
    exact List.suffix_cons _ _
  · split at h <;> cases h
    exact ⟨[':', 's', 'q', '\x7d'], rfl⟩
  · split at h <;> cases h
    exact ⟨[':', 'd', 'q', '\x7d'], rfl⟩
  · cases h

theorem suffix_of_slot? {quotings : Bool} {cs rest : List Char} {s : Slot}
    (h : slot? quotings cs = some (s, rest)) : rest <:+ cs := by
  unfold slot? at h
  split at h
  · obtain ⟨⟨q, r⟩, hr, he⟩ := Option.map_eq_some_iff.1 h
    obtain ⟨_, rfl⟩ := Prod.mk.inj he
    exact (suffix_of_slotEnd? hr).trans (List.dropWhile_suffix isNamePart)
  · cases h

/-- Whether the text, unless it is empty, ends in a closing brace. -/
def Closed (cs : List Char) : Prop := ∀ c ∈ cs.getLast?, c = '\x7d'

theorem Closed.suffix {cs rest : List Char} (h : Closed cs) (hs : rest <:+ cs) : Closed rest := by
  obtain ⟨front, rfl⟩ := hs
  intro c hc
  refine h c ?_
  rw [Option.mem_def] at hc
  rw [List.getLast?_append, hc]
  rfl

theorem Closed.brace_mem {x : Char} {cs : List Char} (h : Closed (x :: cs)) (hx : x ≠ '\x7d') :
    '\x7d' ∈ cs := by
  have hlast := h _ (List.getLast?_eq_some_getLast (List.cons_ne_nil x cs))
  have hmem := List.getLast_mem (List.cons_ne_nil x cs)
  rw [hlast] at hmem
  exact (List.mem_cons.1 hmem).resolve_left (Ne.symm hx)

/-- A text that ends in a closing brace is read apart from what follows it. -/
theorem pieces_append_of_closed (quotings : Bool) {a : List Char} (ha : Closed a) (b : List Char) :
    pieces quotings (a ++ b) = pieces quotings a ++ pieces quotings b := by
  fun_induction pieces quotings a with
  | case1 => rfl
  | case2 rest s after h ih =>
    have hslot := slot?_append quotings (ha.brace_mem (by decide)) b
    rw [h, Option.map_some] at hslot
    have hafter : Closed after := ha.suffix ((suffix_of_slot? h).trans (List.suffix_cons _ _))
    rw [List.cons_append, pieces_slot hslot, ih hafter, List.cons_append]
  | case3 rest h ih =>
    have hslot := slot?_append quotings (ha.brace_mem (by decide)) b
    rw [h, Option.map_none] at hslot
    rw [List.cons_append, pieces_brace hslot, ih (ha.suffix (List.suffix_cons _ _)),
      List.cons_append]
  | case4 x rest hx ih =>
    rw [List.cons_append, pieces_char _ hx, ih (ha.suffix (List.suffix_cons _ _)), List.cons_append]

/-! ### Joining texts that are read apart -/

/-- Whether no slot goes on past the first character of the text, nor past its last one. -/
structure Enclosed (cs : List Char) : Prop where
  start : ∃ c rest, cs = c :: rest ∧ cuts c = true
  closed : Closed cs

section Substitute

variable (params : String → Option String)

theorem substituteChars_append_of_closed {a : List Char} (ha : Closed a) (b : List Char) :
    substituteChars params (a ++ b) = substituteChars params a ++ substituteChars params b := by
  rw [substituteChars, pieces_append_of_closed false ha, List.flatMap_append, substituteChars,
    substituteChars]

theorem substituteChars_intercalate_enclosed (sep : List Char) : ∀ {parts : List (List Char)},
    (∀ part ∈ parts, Enclosed part) → substituteChars params (sep.intercalate parts) =
      (substituteChars params sep).intercalate (parts.map (substituteChars params))
  | [], _ => by simp [substituteChars, pieces]
  | [a], _ => by simp
  | a :: b :: rest, h => by
    obtain ⟨ha, h⟩ := List.forall_mem_cons.1 h
    obtain ⟨⟨c, tail, rfl, hc⟩, _⟩ := h b List.mem_cons_self
    have hjoined : ∃ cs, sep.intercalate ((c :: tail) :: rest) = c :: cs := by
      cases rest with
      | nil => exact ⟨tail, by simp⟩
      | cons d rest => exact ⟨_, by rw [List.intercalate_cons_cons, List.append_assoc]; rfl⟩
    obtain ⟨cs, hcs⟩ := hjoined
    rw [List.map_cons, List.map_cons, List.intercalate_cons_cons, List.intercalate_cons_cons,
      ← List.map_cons, ← substituteChars_intercalate_enclosed sep h, hcs, List.append_assoc,
      List.append_assoc, substituteChars_append_of_closed params ha.closed,
      substituteChars_cut params hc]

/-- Texts that no slot goes past are filled in one by one, whatever they are joined by; what joins them is
filled in as well. -/
theorem substitute_intercalate_enclosed (sep : String) {parts : List String}
    (h : ∀ part ∈ parts, Enclosed part.toList) :
    substitute (String.intercalate sep parts) params =
      String.intercalate (substitute sep params) (parts.map (substitute · params)) := by
  have hchars : ∀ part ∈ parts.map String.toList, Enclosed part := by
    intro part hpart
    obtain ⟨s, hs, rfl⟩ := List.mem_map.1 hpart
    exact h s hs
  rw [← String.toList_inj, substitute, String.toList_ofList, String.toList_intercalate,
    substituteChars_intercalate_enclosed params _ hchars, String.toList_intercalate, List.map_map,
    List.map_map]
  simp only [Function.comp_def, substitute, String.toList_ofList]

end Substitute

/-! ### The names of slots -/

theorem isName_of_slot? {quotings : Bool} {cs rest : List Char} {s : Slot}
    (h : slot? quotings cs = some (s, rest)) : isName s.name = true := by
  unfold slot? at h
  split at h
  · next hstart =>
    obtain ⟨⟨q, r⟩, _, he⟩ := Option.map_eq_some_iff.1 h
    obtain ⟨rfl, _⟩ := Prod.mk.inj he
    cases cs with
    | nil => simp at hstart
    | cons x cs =>
      have hx : isNameStart x = true := by simpa using hstart
      rw [isName, List.takeWhile_cons, isNamePart_of_isNameStart hx, if_pos rfl]
      simp only [List.head?_cons, Option.map_some, Option.getD_some, hx, List.all_cons,
        isNamePart_of_isNameStart hx, Bool.true_and]
      exact List.all_eq_true.2 fun y hy => List.mem_takeWhile_imp hy
  · cases h

theorem isName_of_mem_pieces {quotings : Bool} {s : Slot} {cs : List Char}
    (h : .slot s ∈ pieces quotings cs) : isName s.name = true := by
  fun_induction pieces quotings cs with
  | case1 => simp at h
  | case2 rest s' after hslot ih =>
    rcases List.mem_cons.1 h with h | h
    · cases h
      exact isName_of_slot? hslot
    · exact ih h
  | case3 rest _ ih => exact ih (by simpa using h)
  | case4 x rest _ ih => exact ih (by simpa using h)

/-- Filling in a text asks for parameters that are named by identifiers and for no others. -/
theorem substitute_congr {params params' : String → Option String}
    (h : ∀ name, isName name.toList = true → params name = params' name) (text : String) :
    substitute text params = substitute text params' := by
  rw [substitute, substitute, substituteChars, substituteChars, List.flatMap_def, List.flatMap_def]
  congr 2
  refine List.map_congr_left fun piece hpiece => ?_
  cases piece with
  | char c => rfl
  | slot s =>
    have hname : isName (String.ofList s.name).toList = true := by
      rw [String.toList_ofList]
      exact isName_of_mem_pieces hpiece
    simp only [Piece.fill, Context.value?, h _ hname]

end Warehouse.Template
