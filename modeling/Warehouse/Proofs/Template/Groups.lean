import Mathlib
import Warehouse.Proofs.Dict.Lookup
import Warehouse.Proofs.Template.Outline
import Warehouse.Proofs.Template.Skeleton

/-!
Groups, and templates as a whole. A group says what is inside it when all of its slots are bound, and nothing
otherwise; which groups there are is seen in the template alone. Main statement: a template, and likewise a
text with parameters, has one skeleton for each choice of bound names, and whatever the values say they are
written in its places.
-/

namespace Warehouse.Template

/-! ### Groups -/

/-- Whether the pieces are what a group says: what is inside it when all of its slots are bound, and nothing
when one is not. -/
inductive GroupReads (bound : String → Bool) (inside : List Char) : List Piece → Prop
  | kept {skeleton : List Piece} (h : Reads true bound inside skeleton)
      (all : ∀ (a : List Char) (s : Slot) (b : List Char), s.Readable true →
        inside = a ++ (s.chars ++ b) → bound (String.ofList s.name) = true) : GroupReads bound inside skeleton
  | dropped {a b : List Char} {s : Slot} (hs : s.Readable true) (h : inside = a ++ (s.chars ++ b))
      (unbound : bound (String.ofList s.name) = false) : GroupReads bound inside []

/-- Whether the pieces are what groups say, each with the text behind it. -/
inductive GroupsRead (bound : String → Bool) : List (List Char × List Char) → List Piece → Prop
  | nil : GroupsRead bound [] []
  | cons {inside after : List Char} {groups : List (List Char × List Char)}
      {group rest later : List Piece} (hgroup : GroupReads bound inside group)
      (hrest : Reads true bound after rest) (hlater : GroupsRead bound groups later) :
      GroupsRead bound ((inside, after) :: groups) (group ++ (rest ++ later))

/-- Whether the pieces are what a template of this outline says. -/
def Outline.Reads (o : Outline) (bound : String → Bool) (skeleton : List Piece) : Prop :=
  ∃ lead later, skeleton = lead ++ later ∧ Template.Reads true bound o.lead lead ∧
    GroupsRead bound o.groups later

theorem GroupReads.unique {bound : String → Bool} {inside : List Char} {ps other : List Piece}
    (h : GroupReads bound inside ps) (ho : GroupReads bound inside other) : other = ps := by
  cases h with
  | kept h all =>
    cases ho with
    | kept ho _ => exact h.unique ho
    | dropped hs hinside hunbound => exact absurd (all _ _ _ hs hinside) (by simp [hunbound])
  | dropped hs hinside hunbound =>
    cases ho with
    | kept ho all => exact absurd (all _ _ _ hs hinside) (by simp [hunbound])
    | dropped _ _ _ => rfl

theorem GroupsRead.unique {bound : String → Bool} {groups : List (List Char × List Char)}
    {ps other : List Piece} (h : GroupsRead bound groups ps) (ho : GroupsRead bound groups other) :
    other = ps := by
  induction h generalizing other with
  | nil => cases ho; rfl
  | cons hgroup hrest _ ih =>
    cases ho with
    | cons hgroup' hrest' hlater' =>
      rw [hgroup.unique hgroup', hrest.unique hrest', ih hlater']

theorem Outline.Reads.unique {o : Outline} {bound : String → Bool} {ps other : List Piece}
    (h : o.Reads bound ps) (ho : o.Reads bound other) : other = ps := by
  obtain ⟨lead, later, rfl, hlead, hlater⟩ := h
  obtain ⟨lead', later', rfl, hlead', hlater'⟩ := ho
  rw [Template.Reads.unique hlead hlead', hlater.unique hlater']

/-- The skeleton of a group. -/
theorem groupReads_skeleton (bound : String → Bool) (inside : List Char) :
    ∃ group, GroupReads bound inside group ∧ ∀ context : Context, context.Binds bound →
      fillGroup context inside = group.flatMap (Piece.fill context) := by
  have hbound : ∀ {context : Context}, context.Binds bound →
      ∀ s, Piece.isBound context (.slot s) = bound (String.ofList s.name) :=
    fun h s => h (String.ofList s.name)
  by_cases hall : ∀ s, .slot s ∈ pieces true inside → bound (String.ofList s.name) = true
  · refine ⟨skeleton true bound inside, .kept (reads_skeleton true bound inside) ?_, ?_⟩
    · rintro a s b hs rfl
      refine hall s ?_
      rw [pieces_occurrence hs]
      exact List.mem_append_right _ List.mem_cons_self
    · intro context hcontext
      rw [fillGroup, if_pos, fill_skeleton hcontext]
      refine List.all_eq_true.2 fun p hp => ?_
      cases p with
      | char c => rfl
      | slot s => rw [hbound hcontext, hall s hp]
  · simp only [not_forall] at hall
    obtain ⟨s, hs, hunbound⟩ := hall
    obtain ⟨a, b, hinside⟩ := written_of_mem_pieces hs
    refine ⟨[], .dropped (readable_of_mem_pieces hs) hinside (by simpa using hunbound), ?_⟩
    intro context hcontext
    rw [fillGroup, if_neg]
    · rfl
    · intro h
      have hslot := List.all_eq_true.1 h _ hs
      rw [hbound hcontext] at hslot
      exact hunbound hslot

theorem groupsRead_skeleton (bound : String → Bool) : ∀ groups : List (List Char × List Char),
    ∃ later, GroupsRead bound groups later ∧ ∀ context : Context, context.Binds bound →
      (groups.flatMap fun (inside, after) => fillGroup context inside ++ fill context after) =
        later.flatMap (Piece.fill context)
  | [] => ⟨[], .nil, fun _ _ => rfl⟩
  | (inside, after) :: groups => by
    obtain ⟨group, hgroup, hfill⟩ := groupReads_skeleton bound inside
    obtain ⟨later, hlater, hrest⟩ := groupsRead_skeleton bound groups
    refine ⟨_, .cons hgroup (reads_skeleton true bound after) hlater, fun context hcontext => ?_⟩
    rw [List.flatMap_cons, hrest context hcontext, List.flatMap_append, List.flatMap_append,
      ← hfill context hcontext, ← fill_skeleton hcontext, ← List.append_assoc]

theorem outlineReads_skeleton (bound : String → Bool) (cs : List Char) :
    ∃ ps, (outline cs).Reads bound ps ∧ ∀ context : Context, context.Binds bound →
      renderChars context cs = ps.flatMap (Piece.fill context) := by
  obtain ⟨later, hlater, hfill⟩ := groupsRead_skeleton bound (outline cs).groups
  refine ⟨_, ⟨_, later, rfl, reads_skeleton true bound (outline cs).lead, hlater⟩, ?_⟩
  intro context hcontext
  rw [renderChars, List.flatMap_append, ← fill_skeleton hcontext, ← hfill context hcontext]

/-! ### Values are never read -/

/-- Pairs as the context that they give to a text with parameters. -/
def pairContext (pairs : List (String × String)) : Context := fun name =>
  (pairs.lookup name).map .text

theorem pairContext_binds {pairs : List (String × String)} {bound : String → Bool}
    (h : ∀ name, name ∈ pairs.map (·.1) ↔ bound name = true) : (pairContext pairs).Binds bound := by
  intro name
  rw [pairContext, Option.isSome_map, Bool.eq_iff_iff, ← h name, ← not_iff_not,
    Option.not_isSome_iff_eq_none]
  exact lookup_eq_none

/-- For each choice of bound names there is one skeleton of a template, and one of a text with parameters.
What a template says in a context that binds these names are the literal pieces of its skeleton and the
values in its slots, in order, so that two such contexts differ in the slots only. -/
theorem values_written (template : String) (bound : String → Bool) :
    (outline template.toList).written = template.toList ∧
    (∃ skeleton, (outline template.toList).Reads bound skeleton ∧
      (∀ other, (outline template.toList).Reads bound other → other = skeleton) ∧
      ∀ context : Context, context.Binds bound →
        render template context = String.ofList (skeleton.flatMap (Piece.fill context))) ∧
    ∃ skeleton, Reads false bound template.toList skeleton ∧
      (∀ other, Reads false bound template.toList other → other = skeleton) ∧
      (∀ params : String → Option String, (∀ name, (params name).isSome = bound name) →
        substitute template params =
          String.ofList (skeleton.flatMap (Piece.fill fun name => (params name).map .text))) ∧
      ∀ pairs : List (String × String), (∀ name, name ∈ pairs.map (·.1) ↔ bound name = true) →
        substitutePairs template pairs =
          String.ofList (skeleton.flatMap (Piece.fill (pairContext pairs))) := by
  refine ⟨outline_written _, ?rendered, skeleton false bound template.toList,
    reads_skeleton false bound _, fun other ho => (reads_skeleton false bound _).unique ho,
    ?substituted, ?paired⟩
  case rendered =>
    obtain ⟨ps, hreads, hfill⟩ := outlineReads_skeleton bound template.toList
    refine ⟨ps, hreads, fun other ho => hreads.unique ho, fun context hcontext => ?_⟩
    rw [render, hfill context hcontext]
  case substituted =>
    intro params hparams
    have hbinds : Context.Binds (fun name => (params name).map .text) bound := by
      intro name
      rw [Option.isSome_map, hparams]
    rw [substitute, substituteChars, skeleton, flatMap_fill_settle hbinds]
  case paired =>
    intro pairs hpairs
    rw [substitutePairs, substitute, substituteChars, skeleton,
      flatMap_fill_settle (pairContext_binds hpairs)]
    rfl

/-- A letter with a group. -/
def letter : String := "Dear \x7bwho\x7d[[, on \x7bwhat:sq\x7d]], \x7bsign\x7d"

/-- The names that are bound when the letter is written: all but the last. -/
def letterNames (name : String) : Bool := name == "who" || name == "what"

/-- Values for the letter that look like parts of a template. -/
def letterValues : Context := fun name =>
  if name = "who" then some (.text "\x7bwhat\x7d[[")
  else if name = "what" then some (.items ["\x7bsign\x7d]]", "a"])
  else none

/-- Values that look like slots, and like the ends of a group, are written as they are. -/
theorem letter_written : letterValues.Binds letterNames ∧
    (∃ skeleton, (outline letter.toList).Reads letterNames skeleton ∧
      render letter letterValues = String.ofList (skeleton.flatMap (Piece.fill letterValues))) ∧
    render letter letterValues =
      "Dear \x7bwhat\x7d[[, on '\x7bsign\x7d]]', 'a', \x7bsign\x7d" ∧
    ∃ skeleton, Reads false letterNames letter.toList skeleton ∧
      substitutePairs letter [("who", "\x7bwhat\x7d"), ("what", "")] =
        String.ofList (skeleton.flatMap
          (Piece.fill (pairContext [("who", "\x7bwhat\x7d"), ("what", "")]))) := by
  have hbinds : letterValues.Binds letterNames := by
    intro name
    rw [letterValues, letterNames]
    split
    · next h => simp [h]
    · next h => split <;> simp_all
  obtain ⟨_, ⟨skeleton, hreads, _, hrender⟩, other, hother, _, _, hpairs⟩ :=
    values_written letter letterNames
  refine ⟨hbinds, ⟨skeleton, hreads, hrender _ hbinds⟩, by cbv, other, hother, hpairs _ ?_⟩
  intro name
  simp [letterNames]

end Warehouse.Template
