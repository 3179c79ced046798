import Mathlib.Data.List.Forall2
import Warehouse.Proofs.Policy.Kinds
import Warehouse.Shape

/-!
Declaring a table call by call. A call either says something of the table itself or takes over what another
shape declares, and each part of a draft hears of few of the calls: the columns of a draft are those it has
declared, each with its ordering key, and of a thing that is declared once the last word counts, or else what
was taken over first.
-/

namespace Warehouse

/-- What can be said of a table that is being declared. -/
inductive DraftCall where
  | description (text : String)
  | namePrefix (text : String)
  | markAbstract
  | extend (base : Shape)
  | column (c : Column)
  | partition (c : Column)
  | property (p : Property)
  | policy (p : Policy)

namespace DraftCall

/-- The column that a call declares. -/
def column? : DraftCall → Option Column
  | column c => some c
  | partition c => some c.asPartition
  | _ => none

/-- The shape that a call takes over. -/
def base? : DraftCall → Option Shape
  | extend base => some base
  | _ => none

/-- The prefix that a call declares. -/
def prefix? : DraftCall → Option String
  | namePrefix text => some text
  | _ => none

/-- The prefix that a call takes over: an empty one is none. -/
def basePrefix? : DraftCall → Option String
  | extend base => if base.namePrefix = "" then none else some base.namePrefix
  | _ => none

/-- The policy of a kind that a call declares. -/
def policy? (kind : PolicyKind) : DraftCall → Option Policy
  | policy p => if p.kind = kind then some p else none
  | _ => none

/-- The policy of a kind that a call takes over. -/
def basePolicy? (kind : PolicyKind) : DraftCall → Option Policy
  | extend base => base.policies.find? kind
  | _ => none

end DraftCall

/-- Whether the second column is the first with an ordering key, its own if it has one. -/
def Column.StampedAs (c stamped : Column) : Prop :=
  ∃ key, stamped = { c with orderingKey := some (c.orderingKey.getD key) }

namespace Column.StampedAs

theorem name {c stamped : Column} (h : c.StampedAs stamped) : stamped.name = c.name := by
  obtain ⟨key, rfl⟩ := h
  rfl

section Lists

variable {declared own : List Column} (h : List.Forall₂ StampedAs declared own)
include h

/-- Stamping changes no names. -/
theorem names : own.map (·.name) = declared.map (·.name) := by
  induction h with
  | nil => rfl
  | cons h _ ih => rw [List.map_cons, List.map_cons, h.name, ih]

theorem exists_right {c : Column} (hc : c ∈ declared) : ∃ e ∈ own, c.StampedAs e := by
  induction h with
  | nil => cases hc
  | cons h _ ih =>
    rcases List.mem_cons.1 hc with rfl | hc
    · exact ⟨_, List.mem_cons_self, h⟩
    · obtain ⟨e, he, hce⟩ := ih hc
      exact ⟨e, List.mem_cons_of_mem _ he, hce⟩

theorem exists_left {e : Column} (he : e ∈ own) : ∃ c ∈ declared, c.StampedAs e := by
  induction h with
  | nil => cases he
  | cons h _ ih =>
    rcases List.mem_cons.1 he with rfl | he
    · exact ⟨_, List.mem_cons_self, h⟩
    · obtain ⟨c, hc, hce⟩ := ih he
      exact ⟨c, List.mem_cons_of_mem _ hc, hce⟩

end Lists

end Column.StampedAs

theorem Sequence.stamp_stampedAs (s : Sequence) (c : Column) : c.StampedAs (s.stamp c).1 := by
  refine ⟨s.next, ?_⟩
  rw [Sequence.stamp]
  obtain ⟨⟨_, _, _, _, _, _, _, _, key⟩, kind⟩ := c
  cases key <;> rfl

namespace Draft

/-- The draft after a call, and the sequence that its columns take their keys from. -/
def perform (d : Draft) (s : Sequence) : DraftCall → Draft × Sequence
  | .description text => ({ d with description := some text }, s)
  | .namePrefix text => ({ d with namePrefix := some text }, s)
  | .markAbstract => ({ d with isAbstract := true }, s)
  | .extend base => (d.extend base, s)
  | .column c => d.column s c
  | .partition c => d.partition s c
  | .property p => (d.property p, s)
  | .policy p => (d.policy p, s)

/-- The draft after several calls, one after the other. -/
def run (d : Draft) (s : Sequence) (calls : List DraftCall) : Draft × Sequence :=
  calls.foldl (fun at_ call => at_.1.perform at_.2 call) (d, s)

/-! ### One call -/

/-- A call adds the column that it declares, stamped, and no other. -/
theorem perform_columns (d : Draft) (s : Sequence) (call : DraftCall) :
    (d.perform s call).1.columns =
      d.columns ++ (call.column?.map fun c => (s.stamp c).1).toList := by
  cases call with
  | column c => rfl
  | partition c => rfl
  | _ => exact (List.append_nil _).symm

theorem perform_sequence (d : Draft) (s : Sequence) (call : DraftCall) :
    (d.perform s call).2 = (call.column?.map fun c => (s.stamp c).2).getD s := by
  cases call <;> rfl

/-- A call takes over the columns of the shape that it extends, and no other. -/
theorem perform_inherited (d : Draft) (s : Sequence) (call : DraftCall) :
    (d.perform s call).1.inherited =
      d.inherited ++ (call.base?.map (·.columns)).getD [] := by
  cases call with
  | extend base => rfl
  | _ => exact (List.append_nil _).symm

/-- A prefix that is declared replaces any other, one that is taken over replaces none. -/
theorem perform_namePrefix (d : Draft) (s : Sequence) (call : DraftCall) :
    (d.perform s call).1.namePrefix = call.prefix?.or (d.namePrefix.or call.basePrefix?) := by
  cases call with
  | extend base => rfl
  | namePrefix text => rfl
  | _ => exact (Option.or_none).symm

/-- A policy that is declared replaces the one of its kind, one that is taken over replaces none. -/
theorem perform_policies (kind : PolicyKind) (d : Draft) (s : Sequence) (call : DraftCall) :
    (d.perform s call).1.policies.find? kind =
      (call.policy? kind).or ((d.policies.find? kind).or (call.basePolicy? kind)) := by
  cases call with
  | extend base => exact Policies.find?_orElse _ _ _
  | policy p =>
    have hbase : (DraftCall.policy p).basePolicy? kind = none := rfl
    have hpolicies : (d.perform s (.policy p)).1.policies = d.policies.insert p := rfl
    rw [hbase, hpolicies, Policies.find?_insert, DraftCall.policy?, Option.or_none]
    split <;> rfl
  | _ => exact (Option.or_none).symm

/-! ### Runs of calls -/

@[simp] theorem run_nil (d : Draft) (s : Sequence) : d.run s [] = (d, s) := rfl

@[simp] theorem run_cons (d : Draft) (s : Sequence) (call : DraftCall) (calls : List DraftCall) :
    d.run s (call :: calls) = (d.perform s call).1.run (d.perform s call).2 calls := rfl

theorem run_append (d : Draft) (s : Sequence) (calls later : List DraftCall) :
    d.run s (calls ++ later) = (d.run s calls).1.run (d.run s calls).2 later := by
  rw [run, List.foldl_append]
  rfl

/-- The columns of a draft are those that were declared, in order, each with its key. -/
theorem run_columns (calls : List DraftCall) (d : Draft) (s : Sequence) :
    ∃ own, (d.run s calls).1.columns = d.columns ++ own ∧
      List.Forall₂ Column.StampedAs (calls.filterMap (·.column?)) own := by
  induction calls generalizing d s with
  | nil => exact ⟨[], by simp, .nil⟩
  | cons call calls ih =>
    obtain ⟨own, hcolumns, hown⟩ := ih (d.perform s call).1 (d.perform s call).2
    rw [perform_columns] at hcolumns
    cases hc : call.column? with
    | none => exact ⟨own, by simpa [hc] using hcolumns, by simpa [hc] using hown⟩
    | some c =>
      refine ⟨(s.stamp c).1 :: own, by simpa [hc] using hcolumns, ?_⟩
      rw [List.filterMap_cons_some hc]
      exact .cons (s.stamp_stampedAs c) hown

theorem run_inherited (calls : List DraftCall) (d : Draft) (s : Sequence) :
    (d.run s calls).1.inherited =
      d.inherited ++ (calls.filterMap (·.base?)).flatMap (·.columns) := by
  induction calls generalizing d s with
  | nil => simp
  | cons call calls ih =>
    rw [run_cons, ih, perform_inherited, List.append_assoc]
    cases hb : call.base? with
    | none => rw [List.filterMap_cons_none hb]; rfl
    | some base => rw [List.filterMap_cons_some hb, List.flatMap_cons]; rfl

/-- Of a thing that calls declare or take over, the last word counts, then what was there, then what was
taken over first. -/
theorem run_last {α : Type} (get : Draft → Option α) {own inherited : DraftCall → Option α}
    (hstep : ∀ d s call, get (d.perform s call).1 = (own call).or ((get d).or (inherited call)))
    (calls : List DraftCall) (d : Draft) (s : Sequence) :
    get (d.run s calls).1 =
      (calls.filterMap own).getLast?.or ((get d).or (calls.findSome? inherited)) := by
  induction calls generalizing d s with
  | nil => simp
  | cons call calls ih =>
    rw [run_cons, ih, hstep, List.findSome?_cons]
    cases ho : own call with
    | none =>
      rw [List.filterMap_cons_none ho, Option.none_or, Option.or_assoc]
      cases inherited call <;> rfl
    | some a =>
      rw [List.filterMap_cons_some ho, List.getLast?_cons]
      cases (calls.filterMap own).getLast? <;> rfl

end Draft

end Warehouse
