import Mathlib.Data.List.Infix
import Warehouse.Template

/-!
Where the groups of a template are. A group begins at the first two opening brackets that are closed on
their line, and ends at the first two closing brackets behind them; what follows it is read on its own. So
there is one way to cut a template, and text that holds no such brackets is cut nowhere.
-/

namespace Warehouse.Template

/-! ### Doubled brackets -/

/-- Whether no doubled bracket begins in the text, whatever follows it: none stands inside, and the text
does not end in the first half of one. -/
structure NoPair (bracket : Char) (cs : List Char) : Prop where
  inside : ¬ [bracket, bracket] <:+: cs
  atEnd : cs.getLast? ≠ some bracket

instance (bracket : Char) (cs : List Char) : Decidable (NoPair bracket cs) :=
  decidable_of_iff (¬ [bracket, bracket] <:+: cs ∧ cs.getLast? ≠ some bracket)
    ⟨fun h => ⟨h.1, h.2⟩, fun h => ⟨h.1, h.2⟩⟩

namespace NoPair

variable {bracket c : Char} {cs : List Char}

theorem of_not_mem (h : bracket ∉ cs) : NoPair bracket cs := by
  refine ⟨fun hpair => h (hpair.subset List.mem_cons_self), fun hlast => h ?_⟩
  exact List.mem_of_getLast? hlast

theorem nil : NoPair bracket [] := of_not_mem List.not_mem_nil

theorem tail (h : NoPair bracket (c :: cs)) : NoPair bracket cs := by
  refine ⟨fun hpair => h.inside (hpair.trans (List.suffix_cons c cs).isInfix), fun hlast => ?_⟩
  exact h.atEnd (by rw [List.getLast?_cons, hlast]; rfl)

/-- What stands behind the bracket is another character. -/
theorem next (h : NoPair bracket (bracket :: cs)) : ∃ x rest, cs = x :: rest ∧ x ≠ bracket := by
  cases cs with
  | nil => exact absurd rfl h.atEnd
  | cons x rest =>
    refine ⟨x, rest, rfl, ?_⟩
    rintro rfl
    exact h.inside ⟨[], rest, rfl⟩

/-- A text begins no doubled bracket if its first character does not and the others do not. -/
theorem cons (h : NoPair bracket cs) (hc : c = bracket → ∃ x rest, cs = x :: rest ∧ x ≠ bracket) :
    NoPair bracket (c :: cs) := by
  constructor
  · intro hpair
    rcases List.infix_cons_iff.1 hpair with hprefix | hpair
    · obtain ⟨rfl, hrest⟩ := List.cons_prefix_cons.1 hprefix
      obtain ⟨x, rest, rfl, hx⟩ := hc rfl
      exact hx (List.cons_prefix_cons.1 hrest).1.symm
    · exact h.inside hpair
  · intro hlast
    cases cs with
    | nil =>
      obtain ⟨x, rest, hx, _⟩ := hc (by simpa using hlast)
      cases hx
    | cons x rest => exact h.atEnd (by rwa [List.getLast?_cons_cons] at hlast)

end NoPair

/-! ### The end of a group -/

theorem group?_skip {c : Char} {rest : List Char} (hpair : c = ']' → rest.head? ≠ some ']')
    (hline : c ≠ '\n') :
    group? (c :: rest) = (group? rest).map fun (inside, after) => (c :: inside, after) := by
  rw [group?.eq_3 c rest fun r hc hr => hpair hc (by rw [hr]; rfl), if_neg hline]

/-- A group ends at the first doubled closing bracket, on the line where it was opened. -/
theorem group?_eq_some {cs inside after : List Char} : group? cs = some (inside, after) ↔
    cs = inside ++ ']' :: ']' :: after ∧ '\n' ∉ inside ∧ NoPair ']' inside := by
  constructor
  · intro h
    fun_induction group? cs generalizing inside after with
    | case1 => cases h
    | case2 rest =>
      cases h
      exact ⟨rfl, List.not_mem_nil, .nil⟩
    | case3 => cases h
    | case4 c rest hpair hline ih =>
      obtain ⟨⟨i, a⟩, ha, he⟩ := Option.map_eq_some_iff.1 h
      obtain ⟨rfl, rfl⟩ := Prod.mk.inj he
      obtain ⟨rfl, hi, hnone⟩ := ih ha
      refine ⟨rfl, List.not_mem_cons_of_ne_of_not_mem (Ne.symm hline) hi, hnone.cons fun hc => ?_⟩
      cases i with
      | nil => exact absurd rfl (hpair _ hc)
      | cons x i =>
        refine ⟨x, i, rfl, ?_⟩
        rintro rfl
        exact hpair _ hc rfl
  · rintro ⟨rfl, hline, hnone⟩
    induction inside with
    | nil => rfl
    | cons c inside ih =>
      obtain ⟨hc, hline⟩ : '\n' ≠ c ∧ '\n' ∉ inside := by simpa using hline
      rw [List.cons_append, group?_skip _ (Ne.symm hc), ih hline hnone.tail]
      · rfl
      · rintro rfl
        obtain ⟨x, rest, rfl, hx⟩ := hnone.next
        simpa using hx

theorem group?_closed {inside : List Char} (hline : '\n' ∉ inside) (hnone : NoPair ']' inside)
    (after : List Char) : group? (inside ++ ']' :: ']' :: after) = some (inside, after) :=
  group?_eq_some.2 ⟨rfl, hline, hnone⟩

/-- Brackets that are closed on their line are a group. -/
theorem group?_ne_none {inside after : List Char} (hline : '\n' ∉ inside) :
    group? (inside ++ ']' :: ']' :: after) ≠ none := by
  induction inside with
  | nil => simp [group?]
  | cons c inside ih =>
    obtain ⟨hc, hline⟩ : '\n' ≠ c ∧ '\n' ∉ inside := by simpa using hline
    rw [List.cons_append]
    by_cases hpair : c = ']' ∧ (inside ++ ']' :: ']' :: after).head? = some ']'
    · obtain ⟨rfl, hhead⟩ := hpair
      obtain ⟨rest, hrest⟩ := List.head?_eq_some_iff.1 hhead
      rw [hrest]
      simp [group?]
    · rw [group?_skip (by simpa using hpair) (Ne.symm hc)]
      simpa using ih hline

/-! ### One step of cutting -/

theorem outline_group {rest inside after : List Char} (h : group? rest = some (inside, after)) :
    outline ('[' :: '[' :: rest) =
      ⟨[], (inside, (outline after).lead) :: (outline after).groups⟩ := by
  rw [outline]
  split
  · next h' =>
    obtain ⟨rfl, rfl⟩ := Prod.mk.inj (Option.some.inj (h.symm.trans h'))
    rfl
  · next h' => rw [h] at h'; cases h'

/-- Text that begins no doubled opening bracket stands in front of the first group. -/
theorem outline_append {a : List Char} (ha : NoPair '[' a) (b : List Char) :
    outline (a ++ b) = ⟨a ++ (outline b).lead, (outline b).groups⟩ := by
  induction a with
  | nil => rfl
  | cons x a ih =>
    have hnext : ∀ rest, x = '[' → a ++ b = '[' :: rest → False := by
      rintro rest rfl hrest
      obtain ⟨y, a, rfl, hy⟩ := ha.next
      exact hy (List.cons.inj hrest).1
    rw [List.cons_append, outline.eq_3 x _ hnext, ih ha.tail]
    rfl

theorem outline_plain {a : List Char} (ha : NoPair '[' a) : outline a = ⟨a, []⟩ := by
  have h := outline_append ha []
  rwa [List.append_nil, outline, List.append_nil] at h

/-! ### The outline as a whole -/

/-- The template of an outline. -/
def Outline.written (o : Outline) : List Char :=
  o.lead ++ o.groups.flatMap fun (inside, after) => '[' :: '[' :: (inside ++ (']' :: ']' :: after))

/-- An outline leaves nothing out. -/
theorem outline_written (cs : List Char) : (outline cs).written = cs := by
  fun_induction outline cs with
  | case1 => rfl
  | case2 rest inside after h o ih =>
    rw [Outline.written, List.nil_append, List.flatMap_cons, (group?_eq_some.1 h).1]
    simpa [Outline.written] using ih
  | case3 rest h o ih => exact congrArg ('[' :: ·) ih
  | case4 c rest _ o ih => exact congrArg (c :: ·) ih

/-- Whether a group begins in the text right behind this part of it: two opening brackets that are closed
on their line. -/
def GroupBehind (cs front : List Char) : Prop :=
  ∃ inside after, cs = front ++ '[' :: '[' :: (inside ++ ']' :: ']' :: after) ∧ '\n' ∉ inside

/-- Whether this is how a text is cut: the first place where a group begins is behind the lead, the group
ends where it first can, and what follows it is cut in the same way, down to a text where no group begins. -/
inductive CutInto : List Char → Outline → Prop
  | plain {cs : List Char} (h : ∀ front, ¬ GroupBehind cs front) : CutInto cs ⟨cs, []⟩
  | group (lead : List Char) {inside after : List Char} {o : Outline} (hline : '\n' ∉ inside)
      (shortest : NoPair ']' inside)
      (first : ∀ front, GroupBehind (lead ++ '[' :: '[' :: (inside ++ ']' :: ']' :: after)) front →
        lead.length ≤ front.length) (h : CutInto after o) :
      CutInto (lead ++ '[' :: '[' :: (inside ++ ']' :: ']' :: after))
        ⟨lead, (inside, o.lead) :: o.groups⟩

/-- A group that does not begin with the first character begins behind it. -/
theorem GroupBehind.tail {c : Char} {cs front : List Char} (h : GroupBehind (c :: cs) front)
    (hc : ¬ GroupBehind (c :: cs) []) : ∃ rest, front = c :: rest ∧ GroupBehind cs rest := by
  cases front with
  | nil => exact absurd h hc
  | cons x rest =>
    obtain ⟨inside, after, hcs, hline⟩ := h
    obtain ⟨rfl, hbehind⟩ := List.cons.inj hcs
    exact ⟨rest, rfl, inside, after, hbehind, hline⟩

/-- One more character in front of a text where no group begins with it. -/
theorem CutInto.cons {c : Char} {cs : List Char} {o : Outline} (hc : ¬ GroupBehind (c :: cs) [])
    (h : CutInto cs o) : CutInto (c :: cs) ⟨c :: o.lead, o.groups⟩ := by
  cases h with
  | plain h =>
    refine .plain fun front hfront => ?_
    obtain ⟨rest, _, hrest⟩ := hfront.tail hc
    exact h rest hrest
  | @group lead inside after o hline shortest first h =>
    refine .group (c :: lead) hline shortest (fun front hfront => ?_) h
    obtain ⟨rest, rfl, hrest⟩ := hfront.tail hc
    exact Nat.succ_le_succ (first rest hrest)

/-- The outline of a template is the way to cut it. -/
theorem outline_cut (cs : List Char) : CutInto cs (outline cs) := by
  fun_induction outline cs with
  | case1 =>
    refine .plain fun front ⟨inside, after, h, _⟩ => ?_
    simp at h
  | case2 rest inside after h o ih =>
    obtain ⟨rfl, hline, shortest⟩ := group?_eq_some.1 h
    exact .group [] hline shortest (fun front _ => Nat.zero_le _) ih
  | case3 rest h o ih =>
    refine ih.cons ?_
    rintro ⟨inside, after, hrest, hline⟩
    obtain rfl : rest = inside ++ ']' :: ']' :: after := by simpa using hrest
    exact group?_ne_none hline h
  | case4 c rest hpair o ih =>
    refine ih.cons ?_
    rintro ⟨inside, after, hcs, _⟩
    obtain ⟨rfl, hrest⟩ := List.cons.inj hcs
    exact hpair _ rfl hrest

theorem GroupBehind.of_cut {lead inside after : List Char} (hline : '\n' ∉ inside) :
    GroupBehind (lead ++ '[' :: '[' :: (inside ++ ']' :: ']' :: after)) lead :=
  ⟨inside, after, rfl, hline⟩

/-- There is no second way to cut a text. -/
theorem CutInto.unique {cs : List Char} {o other : Outline} (h : CutInto cs o)
    (ho : CutInto cs other) : other = o := by
  induction h generalizing other with
  | plain h =>
    cases ho with
    | plain _ => rfl
    | group _ hline _ _ _ => exact absurd (.of_cut hline) (h _)
  | @group lead inside after o hline shortest first _ ih =>
    generalize hcs : lead ++ '[' :: '[' :: (inside ++ ']' :: ']' :: after) = cs at first ho
    cases ho with
    | plain h => exact absurd (hcs ▸ .of_cut hline) (h lead)
    | @group lead' inside' after' o' hline' shortest' first' h' =>
      -- either lead comes first, so they are the same, and so is what follows them
      have hle : lead.length ≤ lead'.length := first lead' (.of_cut hline')
      have hge : lead'.length ≤ lead.length := first' lead (hcs ▸ .of_cut hline)
      obtain ⟨rfl, hbehind⟩ := List.append_inj hcs (Nat.le_antisymm hle hge)
      have hsame : inside ++ ']' :: ']' :: after = inside' ++ ']' :: ']' :: after' := by
        simpa using hbehind
      have hgroup := group?_eq_some.2 ⟨hsame, hline', shortest'⟩
      rw [group?_closed hline shortest] at hgroup
      obtain ⟨rfl, rfl⟩ := Prod.mk.inj (Option.some.inj hgroup)
      rw [ih h']

end Warehouse.Template
