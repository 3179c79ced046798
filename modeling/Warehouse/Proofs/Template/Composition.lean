import Warehouse.Proofs.Template.Groups

/-!
Rendering a template in parts. A group that is written between two texts is rendered apart from both, as long
as no bracket of theirs can be taken for one of its own. Main statement: the law for one group, whatever
stands behind it, and with it what a template with any number of groups says.
-/

namespace Warehouse.Template

/-- The names that the context has values for. -/
def Context.names (context : Context) (name : String) : Bool := (context name).isSome

theorem Context.binds_names (context : Context) : context.Binds context.names := fun _ => rfl

/-- A template is rendered in three parts: what stands in front of a group, the group, and what follows it. -/
theorem renderChars_group (context : Context) {pre inner : List Char} (hpre : NoPair '[' pre)
    (hinner : NoPair ']' inner) (hline : '\n' ∉ inner) (post : List Char) :
    renderChars context (pre ++ '[' :: '[' :: (inner ++ ']' :: ']' :: post)) =
      renderChars context pre ++ (fillGroup context inner ++ renderChars context post) := by
  rw [renderChars, outline_append hpre, outline_group (group?_closed hline hinner post), renderChars,
    outline_plain hpre, renderChars]
  simp only [List.append_nil, List.flatMap_cons, List.flatMap_nil, List.append_assoc]

/-- What a group says, and only this, is written in its place: what is inside it with its slots filled in
when all of them are bound, and nothing otherwise. In front of it and behind it the template is rendered on
its own. So every template is cut at its groups, in the one way there is, and says what stands between
them with the slots of bound names filled in, and all else there as it is written. -/
theorem groups_compose (context : Context) :
    (∀ pre inner post : String, NoPair '[' pre.toList → NoPair ']' inner.toList →
      '\n' ∉ inner.toList → ∃ group, GroupReads context.names inner.toList group ∧
        (∀ other, GroupReads context.names inner.toList other → other = group) ∧
        render (pre ++ "[[" ++ inner ++ "]]" ++ post) context =
          render pre context ++ String.ofList (group.flatMap (Piece.fill context)) ++
            render post context) ∧
    ∀ template : String, ∃ o skeleton, CutInto template.toList o ∧
      (∀ other, CutInto template.toList other → other = o) ∧ o.Reads context.names skeleton ∧
      render template context = String.ofList (skeleton.flatMap (Piece.fill context)) := by
  constructor
  · intro pre inner post hpre hinner hline
    obtain ⟨group, hgroup, hfill⟩ := groupReads_skeleton context.names inner.toList
    refine ⟨group, hgroup, fun other ho => hgroup.unique ho, ?_⟩
    have htemplate : (pre ++ "[[" ++ inner ++ "]]" ++ post).toList =
        pre.toList ++ '[' :: '[' :: (inner.toList ++ ']' :: ']' :: post.toList) := by
      simp
    rw [render, htemplate, renderChars_group context hpre hinner hline,
      hfill context context.binds_names, String.ofList_append, String.ofList_append, ← String.append_assoc]
    rfl
  · intro template
    obtain ⟨skeleton, hreads, hfill⟩ := outlineReads_skeleton context.names template.toList
    refine ⟨outline template.toList, skeleton, outline_cut _, fun other ho => ?_, hreads, ?_⟩
    · exact (outline_cut _).unique ho
    · rw [render, hfill context context.binds_names]

/-- Values for a template that is full of brackets. -/
def bracketValues : Context := fun name =>
  if name = "x" then some (.items ["1", "2"]) else if name = "y" then some (.text "]]") else none

/-- A group that is kept, and one behind it that is not, among brackets that belong to neither. -/
theorem brackets_compose : NoPair '[' "[ \x7bx\x7d \x7bz\x7d".toList ∧
    NoPair ']' "[\x7by\x7d] \x7bx:sq\x7d".toList ∧ '\n' ∉ "[\x7by\x7d] \x7bx:sq\x7d".toList ∧
    (∃ group, GroupReads bracketValues.names "[\x7by\x7d] \x7bx:sq\x7d".toList group ∧
      render ("[ \x7bx\x7d \x7bz\x7d" ++ "[[" ++ "[\x7by\x7d] \x7bx:sq\x7d" ++ "]]" ++ "][[\x7bz\x7d]]")
          bracketValues =
        render "[ \x7bx\x7d \x7bz\x7d" bracketValues ++
          String.ofList (group.flatMap (Piece.fill bracketValues)) ++
            render "][[\x7bz\x7d]]" bracketValues) ∧
    render "[ \x7bx\x7d \x7bz\x7d[[[\x7by\x7d] \x7bx:sq\x7d]]][[\x7bz\x7d]]" bracketValues =
      "[ 1, 2 \x7bz\x7d[]]] '1', '2']" := by
  have hpre : NoPair '[' "[ \x7bx\x7d \x7bz\x7d".toList := by decide
  have hinner : NoPair ']' "[\x7by\x7d] \x7bx:sq\x7d".toList := by decide
  have hline : '\n' ∉ "[\x7by\x7d] \x7bx:sq\x7d".toList := by decide
  obtain ⟨group, hgroup, _, hrender⟩ := (groups_compose bracketValues).1 _ _ _ hpre hinner hline
  exact ⟨hpre, hinner, hline, ⟨group, hgroup, hrender⟩, by cbv⟩

end Warehouse.Template
