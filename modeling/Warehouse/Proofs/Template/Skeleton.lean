import Warehouse.Proofs.Template.Closing

/-!
What a template is read as. For each choice of the names that are bound there is one skeleton: the literal
characters of the template and the slots of bound names, wherever these stand in it. It is found from the
template alone, so that a value is only ever written in the place of a slot and never read.
-/

namespace Warehouse.Template

/-! ### What can be read as a slot -/

/-- The mark of a quoting behind the name of a slot. -/
def Quoting.mark : Quoting → List Char
  | .plain => []
  | .single => [':', 's', 'q']
  | .double => [':', 'd', 'q']

/-- Whether the slot is written as one: its name is an identifier, and it has no mark where marks are not
read. -/
def Slot.Readable (quotings : Bool) (s : Slot) : Prop :=
  isName s.name = true ∧ (quotings = true ∨ s.quoting = .plain)

theorem Slot.chars_eq (s : Slot) :
    s.chars = '\x7b' :: (s.name ++ (s.quoting.mark ++ ['\x7d'])) := by
  obtain ⟨name, quoting⟩ := s
  cases quoting <;> simp [Slot.chars, Quoting.mark]

theorem slotEnd?_eq_some {quotings : Bool} {cs rest : List Char} {q : Quoting} :
    slotEnd? quotings cs = some (q, rest) ↔
      (quotings = true ∨ q = .plain) ∧ cs = q.mark ++ '\x7d' :: rest := by
  constructor
  · intro h
    fun_cases slotEnd? quotings cs <;> simp_all [slotEnd?]
    all_goals
      obtain ⟨rfl, rfl⟩ := h
      simp [Quoting.mark]
  · rintro ⟨hq, rfl⟩
    cases q <;> simp_all [slotEnd?, Quoting.mark]

/-- A slot is read where one is written, and only there. -/
theorem slot?_eq_some {quotings : Bool} {cs rest : List Char} {s : Slot} :
    slot? quotings cs = some (s, rest) ↔
      s.Readable quotings ∧ '\x7b' :: cs = s.chars ++ rest := by
  constructor
  · intro h
    have hname := isName_of_slot? h
    rw [slot?] at h
    split at h
    · obtain ⟨⟨q, r⟩, hend, he⟩ := Option.map_eq_some_iff.1 h
      obtain ⟨rfl, rfl⟩ := Prod.mk.inj he
      obtain ⟨hq, hrest⟩ := slotEnd?_eq_some.1 hend
      refine ⟨⟨hname, hq⟩, ?_⟩
      have hcs := List.takeWhile_append_dropWhile (p := isNamePart) (l := cs)
      rw [hrest] at hcs
      rw [Slot.chars_eq]
      simpa using hcs.symm
    · cases h
  · rintro ⟨⟨hname, hq⟩, hcs⟩
    obtain ⟨name, q⟩ := s
    obtain rfl : cs = name ++ (q.mark ++ '\x7d' :: rest) := by
      rw [Slot.chars_eq] at hcs
      simpa using hcs
    obtain ⟨hstart, hall⟩ := Bool.and_eq_true_iff.1 hname
    have hpart : ∀ x ∈ name, isNamePart x = true := List.all_eq_true.1 hall
    have hhead : ((name ++ (q.mark ++ '\x7d' :: rest)).head?.map isNameStart).getD false = true := by
      cases name with
      | nil => simp at hstart
      | cons x name => exact hstart
    -- neither a mark nor the closing brace goes on with the name
    have htake : (q.mark ++ '\x7d' :: rest).takeWhile isNamePart = [] := by
      cases q <;> rfl
    have hdrop : (q.mark ++ '\x7d' :: rest).dropWhile isNamePart = q.mark ++ '\x7d' :: rest := by
      cases q <;> rfl
    rw [slot?, if_pos hhead, List.dropWhile_append_of_pos hpart, List.takeWhile_append_of_pos hpart,
      htake, hdrop, slotEnd?_eq_some.2 ⟨hq, rfl⟩, List.append_nil]
    rfl

/-! ### Pieces and the text they are read from -/

/-- A piece as it is written in a template. -/
def Piece.written : Piece → List Char
  | .char c => [c]
  | .slot s => s.chars

theorem Piece.written_ne_nil (p : Piece) : p.written ≠ [] := by
  cases p with
  | char c => simp [written]
  | slot s => simp [written, Slot.chars]

theorem eq_nil_of_written {skeleton : List Piece} (h : skeleton.flatMap Piece.written = []) :
    skeleton = [] := by
  cases skeleton with
  | nil => rfl
  | cons p rest =>
    rw [List.flatMap_cons, List.append_eq_nil_iff] at h
    exact absurd h.1 p.written_ne_nil

theorem written_map_char (cs : List Char) : (cs.map Piece.char).flatMap Piece.written = cs := by
  induction cs with
  | nil => rfl
  | cons c cs ih => rw [List.map_cons, List.flatMap_cons, ih]; rfl

/-- The pieces of a text make up the text. -/
theorem pieces_written (quotings : Bool) (cs : List Char) :
    (pieces quotings cs).flatMap Piece.written = cs := by
  fun_induction pieces quotings cs with
  | case1 => rfl
  | case2 rest s after h ih =>
    rw [List.flatMap_cons, ih]
    exact (slot?_eq_some.1 h).2.symm
  | case3 rest h ih => rw [List.flatMap_cons, ih]; rfl
  | case4 x rest hx ih => rw [List.flatMap_cons, ih]; rfl

/-- The slots among the pieces can be read as slots. -/
theorem readable_of_mem_pieces {quotings : Bool} {cs : List Char} {s : Slot}
    (h : .slot s ∈ pieces quotings cs) : s.Readable quotings := by
  fun_induction pieces quotings cs with
  | case1 => simp at h
  | case2 rest s' after hslot ih =>
    rcases List.mem_cons.1 h with h | h
    · cases h
      exact (slot?_eq_some.1 hslot).1
    · exact ih h
  | case3 rest _ ih => exact ih (by simpa using h)
  | case4 x rest _ ih => exact ih (by simpa using h)

/-- The slots among the pieces are written in the text. -/
theorem written_of_mem_pieces {quotings : Bool} {cs : List Char} {s : Slot}
    (h : .slot s ∈ pieces quotings cs) : ∃ a b, cs = a ++ (s.chars ++ b) := by
  obtain ⟨front, back, hpieces⟩ := List.append_of_mem h
  refine ⟨front.flatMap Piece.written, back.flatMap Piece.written, ?_⟩
  rw [← pieces_written quotings cs, hpieces, List.flatMap_append, List.flatMap_cons]
  rfl

/-- Wherever a slot is written it is a piece of its own. -/
theorem pieces_occurrence {quotings : Bool} {s : Slot} (hs : s.Readable quotings) (a b : List Char) :
    pieces quotings (a ++ (s.chars ++ b)) =
      pieces quotings a ++ .slot s :: pieces quotings b := by
  obtain ⟨cs, hcs⟩ : ∃ cs, s.chars ++ b = '\x7b' :: cs := ⟨_, rfl⟩
  rw [hcs, pieces_cut (by decide), pieces_slot (slot?_eq_some.2 ⟨hs, hcs.symm⟩)]

/-! ### The skeleton of a text -/

/-- Whether the pieces are what a text says when some names are bound: they make up the text, and they have
a slot in each place where a slot of a bound name is written, and in no other. -/
structure Reads (quotings : Bool) (bound : String → Bool) (cs : List Char) (skeleton : List Piece) :
    Prop where
  written : skeleton.flatMap Piece.written = cs
  slots : ∀ s, .slot s ∈ skeleton → s.Readable quotings ∧ bound (String.ofList s.name) = true
  complete : ∀ a s b, s.Readable quotings → bound (String.ofList s.name) = true →
    cs = a ++ (s.chars ++ b) → ∃ front back, skeleton = front ++ .slot s :: back ∧
      front.flatMap Piece.written = a ∧ back.flatMap Piece.written = b

section

variable {quotings : Bool} {bound : String → Bool}

theorem Reads.tail {p : Piece} {b : List Char} {rest : List Piece}
    (h : Reads quotings bound (p.written ++ b) (p :: rest)) : Reads quotings bound b rest := by
  refine ⟨?_, fun s hs => h.slots s (List.mem_cons_of_mem p hs), ?_⟩
  · have hwritten := h.written
    rw [List.flatMap_cons] at hwritten
    exact List.append_cancel_left hwritten
  · rintro a s b' hs hbound rfl
    obtain ⟨front, back, hskeleton, hfront, hback⟩ :=
      h.complete (p.written ++ a) s b' hs hbound (by rw [List.append_assoc])
    cases front with
    | nil => exact absurd (List.append_eq_nil_iff.1 hfront.symm).1 p.written_ne_nil
    | cons x front =>
      obtain ⟨rfl, rfl⟩ := List.cons.inj hskeleton
      exact ⟨front, back, rfl, List.append_cancel_left hfront, hback⟩

/-- A text that begins with the slot of a bound name is read as this slot and the rest. -/
theorem Reads.head_slot {s : Slot} {b : List Char} {skeleton : List Piece}
    (hs : s.Readable quotings) (hbound : bound (String.ofList s.name) = true)
    (h : Reads quotings bound (s.chars ++ b) skeleton) : ∃ rest, skeleton = .slot s :: rest := by
  obtain ⟨front, back, rfl, hfront, _⟩ := h.complete [] s b hs hbound rfl
  obtain rfl := eq_nil_of_written hfront
  exact ⟨back, rfl⟩

/-- There is no second way to read a text. -/
theorem Reads.unique {cs : List Char} {skeleton other : List Piece}
    (h : Reads quotings bound cs skeleton) (ho : Reads quotings bound cs other) :
    other = skeleton := by
  induction skeleton generalizing cs other with
  | nil => exact eq_nil_of_written (ho.written.trans h.written.symm)
  | cons p rest ih =>
    obtain rfl := h.written
    cases p with
    | slot s =>
      obtain ⟨hs, hbound⟩ := h.slots s List.mem_cons_self
      obtain ⟨rest', rfl⟩ := Reads.head_slot hs hbound ho
      rw [ih (Reads.tail h) (Reads.tail ho)]
    | char c =>
      cases other with
      | nil => cases ho.written
      | cons p' rest' =>
        cases p' with
        | slot s =>
          obtain ⟨hs, hbound⟩ := ho.slots s List.mem_cons_self
          rw [← ho.written] at h
          obtain ⟨_, hhead⟩ := Reads.head_slot hs hbound h
          cases hhead
        | char c' =>
          obtain ⟨rfl, _⟩ := List.cons.inj ho.written
          rw [ih (Reads.tail h) (Reads.tail ho)]

end

/-- A piece of the template once it is known which names are bound. The slot of a name that is not is text
like any other. -/
def Piece.settle (bound : String → Bool) : Piece → List Piece
  | .char c => [.char c]
  | .slot s => if bound (String.ofList s.name) then [.slot s] else s.chars.map .char

/-- The skeleton of a text. -/
def skeleton (quotings : Bool) (bound : String → Bool) (cs : List Char) : List Piece :=
  (pieces quotings cs).flatMap (Piece.settle bound)

theorem written_settle (bound : String → Bool) (ps : List Piece) :
    (ps.flatMap (Piece.settle bound)).flatMap Piece.written = ps.flatMap Piece.written := by
  induction ps with
  | nil => rfl
  | cons p rest ih =>
    rw [List.flatMap_cons, List.flatMap_append, ih, List.flatMap_cons]
    cases p with
    | char c => rfl
    | slot s =>
      rw [Piece.settle]
      split
      · rw [List.flatMap_singleton]
      · rw [written_map_char]; rfl

theorem reads_skeleton (quotings : Bool) (bound : String → Bool) (cs : List Char) :
    Reads quotings bound cs (skeleton quotings bound cs) := by
  refine ⟨?_, ?_, ?_⟩
  · rw [skeleton, written_settle, pieces_written]
  · intro s hs
    obtain ⟨p, hp, hs⟩ := List.mem_flatMap.1 hs
    cases p with
    | char c => simp [Piece.settle] at hs
    | slot s' =>
      rw [Piece.settle] at hs
      split at hs
      · next hbound =>
        obtain rfl : s = s' := by simpa using hs
        exact ⟨readable_of_mem_pieces hp, hbound⟩
      · simp at hs
  · rintro a s b hs hbound rfl
    refine ⟨skeleton quotings bound a, skeleton quotings bound b, ?_, ?_, ?_⟩
    · rw [skeleton, pieces_occurrence hs, List.flatMap_append, List.flatMap_cons, Piece.settle,
        if_pos hbound]
      rfl
    · rw [skeleton, written_settle, pieces_written]
    · rw [skeleton, written_settle, pieces_written]

/-! ### Filling in a skeleton -/

/-- Whether the context has values for these names and for no others. -/
def Context.Binds (context : Context) (bound : String → Bool) : Prop :=
  ∀ name, (context name).isSome = bound name

theorem flatMap_fill_settle {context : Context} {bound : String → Bool} (h : context.Binds bound)
    (ps : List Piece) :
    (ps.flatMap (Piece.settle bound)).flatMap (Piece.fill context) =
      ps.flatMap (Piece.fill context) := by
  induction ps with
  | nil => rfl
  | cons p rest ih =>
    rw [List.flatMap_cons, List.flatMap_append, ih, List.flatMap_cons]
    cases p with
    | char c => rfl
    | slot s =>
      rw [Piece.settle]
      split
      · rw [List.flatMap_singleton]
      · next hbound =>
        have hnone : context.value? s = none := by
          rw [Context.value?, ← Option.not_isSome_iff_eq_none, h]
          exact hbound
        rw [flatMap_fill_char, Piece.fill, hnone]

/-- A text is filled in by writing the values in the places of its skeleton. -/
theorem fill_skeleton {context : Context} {bound : String → Bool} (h : context.Binds bound)
    (cs : List Char) :
    fill context cs = (skeleton true bound cs).flatMap (Piece.fill context) := by
  rw [skeleton, flatMap_fill_settle h, fill]

end Warehouse.Template
