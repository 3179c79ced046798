import Warehouse.Proofs.Template.Outline
import Warehouse.Proofs.Template.Skeleton

/-!
Templates that are filled in completely. In such a text every slot of the template is replaced by a value of
its name, and a group is either filled in as well or left out because one of its slots has no value. Main
statement: rendering fills a template in completely when the slots outside its groups are bound.
-/

namespace Warehouse.Template

section

variable (quotings : Bool) (value : String → Value → Prop)

/-- Whether the second text is the first with each slot in it replaced by a value of its name. -/
inductive Filled : List Char → List Char → Prop
  | nil : Filled [] []
  | char {c : Char} {cs text : List Char}
      (hslot : ∀ (s : Slot) after, s.Readable quotings → c :: cs ≠ s.chars ++ after)
      (h : Filled cs text) :
      Filled (c :: cs) (c :: text)
  | slot {s : Slot} {v : Value} {after text : List Char} (hs : s.Readable quotings)
      (hv : value (String.ofList s.name) v) (h : Filled after text) :
      Filled (s.chars ++ after) ((v.write s.quoting).toList ++ text)

/-- Whether the text is what becomes of a group: what is inside it filled in, or nothing when one of its slots
has no value. -/
inductive GroupFilled (inside : List Char) : List Char → Prop
  | kept {text : List Char} (h : Filled true value inside text) : GroupFilled inside text
  | dropped {a b : List Char} {s : Slot} (hs : s.Readable true) (h : inside = a ++ (s.chars ++ b))
      (hnone : ∀ v, ¬ value (String.ofList s.name) v) : GroupFilled inside []

/-- Whether the text is what becomes of groups, each with the text behind it. -/
inductive GroupsFilled : List (List Char × List Char) → List Char → Prop
  | nil : GroupsFilled [] []
  | cons {inside after group text later : List Char} {groups : List (List Char × List Char)}
      (hgroup : GroupFilled value inside group) (htext : Filled true value after text)
      (hlater : GroupsFilled groups later) :
      GroupsFilled ((inside, after) :: groups) (group ++ (text ++ later))

/-- Whether the text is the template filled in completely: cut at its groups, each part of it is filled in,
and the groups that lack a value are left out. -/
def Completes (template text : String) : Prop :=
  ∃ o lead later, CutInto template.toList o ∧ Filled true value o.lead lead ∧
    GroupsFilled value o.groups later ∧ text = String.ofList (lead ++ later)

end

/-! ### The names in a template -/

/-- The names of the slots of a text. -/
def slotNames (quotings : Bool) (cs : List Char) : List String :=
  (pieces quotings cs).filterMap fun
    | .char _ => none
    | .slot s => some (String.ofList s.name)

namespace Outline

/-- The names of the slots outside the groups. -/
def freeNames (o : Outline) : List String :=
  slotNames true o.lead ++ o.groups.flatMap fun g => slotNames true g.2

/-- The names of all slots. -/
def names (o : Outline) : List String :=
  o.freeNames ++ o.groups.flatMap fun g => slotNames true g.1

end Outline

theorem mem_slotNames {quotings : Bool} {cs : List Char} {s : Slot} (h : .slot s ∈ pieces quotings cs) :
    String.ofList s.name ∈ slotNames quotings cs :=
  List.mem_filterMap.2 ⟨_, h, rfl⟩

/-! ### Filling in -/

variable {quotings : Bool} {value : String → Value → Prop} {context : Context}

/-- Whether the context has a right value for a name, or there is none to have. -/
def Context.Gives (context : Context) (value : String → Value → Prop) (name : String) : Prop :=
  match context name with
  | some v => value name v
  | none => ∀ v, ¬ value name v

theorem Context.Gives.of_some {name : String} (h : context.Gives value name) {v : Value}
    (hv : context name = some v) : value name v := by
  rwa [Gives, hv] at h

theorem Context.Gives.of_none {name : String} (h : context.Gives value name)
    (hnone : context name = none) : ∀ v, ¬ value name v := by
  rwa [Gives, hnone] at h

/-- A text whose slots are all bound is filled in. -/
theorem filled_pieces {cs : List Char}
    (hbound : ∀ name ∈ slotNames quotings cs, ∃ v, context name = some v ∧ value name v) :
    Filled quotings value cs ((pieces quotings cs).flatMap (Piece.fill context)) := by
  replace hbound : ∀ s, .slot s ∈ pieces quotings cs →
      ∃ v, context.value? s = some v ∧ value (String.ofList s.name) v :=
    fun s hs => hbound _ (mem_slotNames hs)
  fun_induction pieces quotings cs with
  | case1 => exact .nil
  | case2 rest s after hslot ih =>
    obtain ⟨hs, hwritten⟩ := slot?_eq_some.1 hslot
    obtain ⟨v, hv, hvalue⟩ := hbound s List.mem_cons_self
    rw [hwritten, List.flatMap_cons, Piece.fill, hv]
    exact .slot hs hvalue (ih fun s hs => hbound s (List.mem_cons_of_mem _ hs))
  | case3 rest hnone ih =>
    -- the brace stands for itself, since no slot begins with it
    refine .char (fun s after hs hwritten => ?_) (ih fun s hs => hbound s (List.mem_cons_of_mem _ hs))
    rw [slot?_eq_some.2 ⟨hs, hwritten⟩] at hnone
    cases hnone
  | case4 c rest hc ih =>
    refine .char (fun s after hs hwritten => hc ?_)
      (ih fun s hs => hbound s (List.mem_cons_of_mem _ hs))
    rw [Slot.chars_eq] at hwritten
    exact (List.cons.inj hwritten).1

theorem filled_fill {cs : List Char} (hbound : ∀ name ∈ slotNames true cs, (context name).isSome)
    (hgives : ∀ name ∈ slotNames true cs, context.Gives value name) :
    Filled true value cs (fill context cs) := by
  refine filled_pieces fun name hname => ?_
  obtain ⟨v, hv⟩ := Option.isSome_iff_exists.1 (hbound name hname)
  exact ⟨v, hv, (hgives name hname).of_some hv⟩

theorem groupFilled_fillGroup {inside : List Char}
    (hgives : ∀ name ∈ slotNames true inside, context.Gives value name) :
    GroupFilled value inside (fillGroup context inside) := by
  rw [fillGroup]
  split
  · next hall =>
    refine .kept (filled_fill (fun name hname => ?_) hgives)
    obtain ⟨p, hp, hname⟩ := List.mem_filterMap.1 hname
    cases p with
    | char c => cases hname
    | slot s =>
      cases hname
      exact List.all_eq_true.1 hall _ hp
  · next hall =>
    simp only [List.all_eq_true, not_forall] at hall
    obtain ⟨p, hp, hnone⟩ := hall
    cases p with
    | char c => exact absurd rfl hnone
    | slot s =>
      obtain ⟨a, b, hinside⟩ := written_of_mem_pieces hp
      refine .dropped (readable_of_mem_pieces hp) hinside ((hgives _ (mem_slotNames hp)).of_none ?_)
      exact Option.not_isSome_iff_eq_none.1 hnone

theorem groupsFilled_flatMap {groups : List (List Char × List Char)}
    (hbound : ∀ name ∈ groups.flatMap fun g => slotNames true g.2, (context name).isSome)
    (hgives : ∀ g ∈ groups, ∀ name ∈ slotNames true g.1 ++ slotNames true g.2, context.Gives value name) :
    GroupsFilled value groups
      (groups.flatMap fun (inside, after) => fillGroup context inside ++ fill context after) := by
  induction groups with
  | nil => exact .nil
  | cons g groups ih =>
    obtain ⟨inside, after⟩ := g
    rw [List.flatMap_cons, List.forall_mem_append] at hbound
    obtain ⟨hgroup, hlater⟩ := List.forall_mem_cons.1 hgives
    obtain ⟨hinside, hafter⟩ := List.forall_mem_append.1 hgroup
    rw [List.flatMap_cons, List.append_assoc]
    exact .cons (groupFilled_fillGroup hinside) (filled_fill hbound.1 hafter) (ih hbound.2 hlater)

/-- A template is filled in completely when the slots outside its groups are bound. -/
theorem completes_render {template : String}
    (hbound : ∀ name ∈ (outline template.toList).freeNames, (context name).isSome)
    (hgives : ∀ name ∈ (outline template.toList).names, context.Gives value name) :
    Completes value template (render template context) := by
  obtain ⟨hlead, hgroups⟩ := List.forall_mem_append.1 hbound
  obtain ⟨hfree, hinside⟩ := List.forall_mem_append.1 hgives
  obtain ⟨hfront, hbehind⟩ := List.forall_mem_append.1 hfree
  refine ⟨_, _, _, outline_cut _, filled_fill hlead hfront, groupsFilled_flatMap hgroups ?_, rfl⟩
  intro g hg
  refine List.forall_mem_append.2 ⟨fun name hname => hinside name ?_, fun name hname => hbehind name ?_⟩
  · exact List.mem_flatMap.2 ⟨g, hg, hname⟩
  · exact List.mem_flatMap.2 ⟨g, hg, hname⟩

end Warehouse.Template
