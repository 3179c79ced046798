import Mathlib.Data.List.Permutation
import Warehouse.Proofs.Shape.Calls
import Warehouse.Proofs.Shape.Rank
import Warehouse.Proofs.Prototype.Names

/-!
Several drafts that take their keys from one sequence. Whoever makes a call, the sequence is read and moved on
in one atomic step of it, so what can happen is a list of calls in the order of these steps, and the calls on
one draft are those in the list that name it. The invariant is that of a counter: all keys so far lie below
the next one, hence the columns of each draft stand in the order of their keys.
-/

namespace Warehouse

/-- A call on one of several drafts, or on the sequence that they share. -/
inductive SharedCall where
  | onDraft (i : Nat) (call : DraftCall)
  | nextKey
  | stamp (c : Column)

/-- What a call gives back. -/
inductive Reply where
  | draft (d : Draft)
  | key (k : UInt64)
  | column (c : Column)

namespace SharedCall

/-- The column that a call declares on a draft. -/
def declares? (i : Nat) : SharedCall → Option Column
  | onDraft j call => if j = i then call.column? else none
  | _ => none

/-- Whether a call needs a key: a column that has one already takes none. -/
def takesKey : SharedCall → Bool
  | onDraft _ call => call.column?.any (·.orderingKey.isNone)
  | nextKey => true
  | stamp c => c.orderingKey.isNone

/-- Whether a call takes over no shape, and declares no column that has a key already. -/
def isFresh : SharedCall → Bool
  | onDraft _ call => call.base?.isNone && call.column?.all (·.orderingKey.isNone)
  | _ => true

end SharedCall

/-- The key that a reply carries: that of the last column, if it is a draft. -/
def Reply.key? : Reply → Option UInt64
  | draft d => d.columns.getLast?.bind (·.orderingKey)
  | key k => some k
  | column c => c.orderingKey

/-- The keys that are handed out to calls, in the order of the calls. -/
def handedOut (trace : List (SharedCall × Reply)) : List UInt64 :=
  trace.filterMap fun event => if event.1.takesKey then event.2.key? else none

/-- Whether a draft takes over nothing, and its columns are those that were declared on it, with growing keys
below a number. -/
structure Draft.KeyedBelow (d : Draft) (n : Nat) (declared : List Column) : Prop where
  inherited : d.inherited = []
  ranked : Ranked 0 n d.columns
  stamped : List.Forall₂ Column.StampedAs declared d.columns

namespace Draft.KeyedBelow

variable {d : Draft} {n : Nat} {declared : List Column} (h : d.KeyedBelow n declared)
include h

theorem mono {m : Nat} (hm : n ≤ m) : d.KeyedBelow m declared :=
  ⟨h.inherited, h.ranked.mono le_rfl hm, h.stamped⟩

/-- A call that declares no column takes no key. -/
theorem perform_none (s : Sequence) {call : DraftCall} (hbase : call.base? = none)
    (hcolumn : call.column? = none) :
    (d.perform s call).1.KeyedBelow n declared ∧ (d.perform s call).2 = s := by
  have hinherited := d.perform_inherited s call
  have hcolumns := d.perform_columns s call
  have hsequence := d.perform_sequence s call
  simp only [hbase, hcolumn, h.inherited, Option.map_none, Option.getD_none, Option.toList_none,
    List.append_nil] at hinherited hcolumns hsequence
  exact ⟨⟨hinherited, hcolumns ▸ h.ranked, hcolumns ▸ h.stamped⟩, hsequence⟩

/-- A column that is declared gets the next key, and stands behind all that have one. -/
theorem perform_some {s : Sequence} (hs : s.At n) (hn : n < UInt64.size) {call : DraftCall}
    {c : Column} (hbase : call.base? = none) (hcolumn : call.column? = some c)
    (hc : c.orderingKey = none) :
    (d.perform s call).1.KeyedBelow (n + 1) (declared ++ [c]) ∧ (d.perform s call).2.At (n + 1) ∧
      (Reply.draft (d.perform s call).1).key?.map UInt64.toNat = some n := by
  obtain ⟨key, hstamp, hnext, hkey⟩ := hs.stamp hn hc
  have hinherited := d.perform_inherited s call
  have hcolumns := d.perform_columns s call
  have hsequence := d.perform_sequence s call
  simp only [hbase, hcolumn, hstamp, h.inherited, Option.map_none, Option.map_some, Option.getD_none,
    Option.getD_some, Option.toList_some, List.append_nil] at hinherited hcolumns hsequence
  have hstamped : c.StampedAs { c with orderingKey := some key } := ⟨key, by rw [hc]; rfl⟩
  refine ⟨⟨hinherited, ?_, ?_⟩, hsequence ▸ hnext, ?_⟩
  · rw [hcolumns]
    exact h.ranked.append (.singleton hkey) (Nat.zero_le n) (Nat.le_succ n)
  · rw [hcolumns]
    exact List.rel_append h.stamped (.cons hstamped .nil)
  · simp [Reply.key?, hcolumns, hkey]

/-- Nothing moves when the shape is built: its columns are in the order of the keys already. -/
theorem build {shape : Shape} (hshape : d.build = .ok shape) :
    List.Forall₂ Column.StampedAs declared shape.columns := by
  have hall : d.allColumns = d.columns := by
    rw [Draft.allColumns_eq, h.inherited, List.filter_nil, List.nil_append]
    exact byRank_of_pairwise h.ranked.grows
  rw [Draft.build_ok hshape]
  exact hall ▸ h.stamped

end Draft.KeyedBelow

/-- Drafts that share a sequence. -/
structure Workshop where
  sequence : Sequence := {}
  drafts : Nat → Draft

namespace Workshop

/-- What a call changes, and what it gives back. -/
def step (w : Workshop) : SharedCall → Workshop × Reply
  | .onDraft i call =>
    let next := (w.drafts i).perform w.sequence call
    ({ sequence := next.2, drafts := Function.update w.drafts i next.1 }, .draft next.1)
  | .nextKey =>
    let next := w.sequence.nextKey
    ({ w with sequence := next.2 }, .key next.1)
  | .stamp c =>
    let next := w.sequence.stamp c
    ({ w with sequence := next.2 }, .column next.1)

/-- The drafts after calls, and each call with its reply. -/
def run (w : Workshop) : List SharedCall → Workshop × List (SharedCall × Reply)
  | [] => (w, [])
  | call :: calls =>
    let next := w.step call
    let rest := next.1.run calls
    (rest.1, (call, next.2) :: rest.2)

/-- New drafts with the names, and a new sequence. -/
def start (names : Nat → String) : Workshop := { drafts := fun i => { name := names i } }

theorem run_calls (calls : List SharedCall) (w : Workshop) : (w.run calls).2.map (·.1) = calls := by
  induction calls generalizing w with
  | nil => rfl
  | cons call calls ih => exact congrArg _ (ih (w.step call).1)

/-- Every reply in a trace is that of a step. -/
theorem mem_run {event : SharedCall × Reply} {calls : List SharedCall} {w : Workshop}
    (h : event ∈ (w.run calls).2) : ∃ w' : Workshop, event.2 = (w'.step event.1).2 := by
  induction calls generalizing w with
  | nil => cases h
  | cons call calls ih =>
    rcases List.mem_cons.1 h with rfl | h
    · exact ⟨w, rfl⟩
    · exact ih h

/-- Whether so many keys have been handed out, all that the drafts have among them, and each draft has the
columns that were declared on it. -/
structure Counted (w : Workshop) (n : Nat) (declared : Nat → List Column) : Prop where
  sequence : w.sequence.At n
  drafts : ∀ i, (w.drafts i).KeyedBelow n (declared i)

theorem start_counted (names : Nat → String) : (start names).Counted 0 fun _ => [] :=
  ⟨rfl, fun _ => ⟨rfl, .nil, .nil⟩⟩

section Step

variable {w : Workshop} {n : Nat} {declared : Nat → List Column} (h : w.Counted n declared)
include h

theorem Counted.advance {s : Sequence} {m : Nat} (hs : s.At m) (hm : n ≤ m) :
    Counted { w with sequence := s } m declared :=
  ⟨hs, fun i => (h.drafts i).mono hm⟩

/-- A call on one of the drafts changes no other. -/
theorem Counted.update {i : Nat} {d : Draft} {s : Sequence} {m : Nat} {c : Option Column}
    (hs : s.At m) (hm : n ≤ m) (hd : d.KeyedBelow m (declared i ++ c.toList)) :
    Counted { sequence := s, drafts := Function.update w.drafts i d } m
      fun j => declared j ++ (if i = j then c else none).toList := by
  refine ⟨hs, fun j => ?_⟩
  by_cases hj : j = i
  · subst hj
    simpa using hd
  · simpa [hj, Ne.symm hj] using (h.drafts j).mono hm

/-- A call that needs a key gets the next one, and no other call moves the sequence on. -/
theorem Counted.step {call : SharedCall} (hfresh : call.isFresh = true)
    (hn : call.takesKey = true → n < UInt64.size) :
    (w.step call).1.Counted (n + call.takesKey.toNat)
        (fun i => declared i ++ (call.declares? i).toList) ∧
      (call.takesKey = true → (w.step call).2.key?.map UInt64.toNat = some n) := by
  cases call with
  | onDraft i call =>
    obtain ⟨hbase, hunstamped⟩ : call.base? = none ∧
        ∀ c, call.column? = some c → c.orderingKey = none := by
      simpa [SharedCall.isFresh, Option.all_eq_true] using hfresh
    cases hcolumn : call.column? with
    | none =>
      have htakes : (SharedCall.onDraft i call).takesKey = false := by
        rw [SharedCall.takesKey, hcolumn]
        rfl
      obtain ⟨hd, hs⟩ := (h.drafts i).perform_none w.sequence hbase hcolumn
      have hnext : ((w.drafts i).perform w.sequence call).2.At n := by
        rw [hs]
        exact h.sequence
      rw [htakes]
      refine ⟨?_, nofun⟩
      simp only [SharedCall.declares?, hcolumn]
      exact h.update hnext le_rfl (by simpa using hd)
    | some c =>
      have hc := hunstamped c hcolumn
      have htakes : (SharedCall.onDraft i call).takesKey = true := by
        rw [SharedCall.takesKey, hcolumn, Option.any_some, hc]
        rfl
      obtain ⟨hd, hs, hkey⟩ := (h.drafts i).perform_some h.sequence (hn htakes) hbase hcolumn hc
      rw [htakes]
      refine ⟨?_, fun _ => hkey⟩
      simp only [SharedCall.declares?, hcolumn]
      exact h.update hs (Nat.le_succ n) hd
  | nextKey =>
    refine ⟨?_, fun _ => congrArg some (h.sequence.toNat (hn rfl))⟩
    simp only [SharedCall.declares?, Option.toList_none, List.append_nil]
    exact h.advance h.sequence.next (Nat.le_succ n)
  | stamp c =>
    by_cases hc : c.orderingKey = none
    · have htakes : (SharedCall.stamp c).takesKey = true := by simp [SharedCall.takesKey, hc]
      obtain ⟨key, hstamp, hs, hkey⟩ := h.sequence.stamp (hn htakes) hc
      rw [htakes, Workshop.step, hstamp]
      refine ⟨?_, fun _ => congrArg some hkey⟩
      simp only [SharedCall.declares?, Option.toList_none, List.append_nil]
      exact h.advance hs (Nat.le_succ n)
    · have htakes : (SharedCall.stamp c).takesKey = false := by
        rw [SharedCall.takesKey, Option.isNone_eq_false_iff, Option.isSome_iff_ne_none]
        exact hc
      rw [htakes, Workshop.step, Sequence.stamp_some hc]
      refine ⟨?_, nofun⟩
      simp only [SharedCall.declares?, Option.toList_none, List.append_nil]
      exact h

end Step

theorem declares_cons (call : SharedCall) (calls : List SharedCall) (i : Nat) :
    (call :: calls).filterMap (·.declares? i) =
      (call.declares? i).toList ++ calls.filterMap (·.declares? i) := by
  rw [List.filterMap_cons]
  cases call.declares? i <;> rfl

/-- However many calls there are, the keys go on from where they were, one for each call that needs one. -/
theorem Counted.run {calls : List SharedCall} (hfresh : ∀ call ∈ calls, call.isFresh = true)
    {w : Workshop} {n : Nat} {declared : Nat → List Column} (h : w.Counted n declared)
    (hn : n + calls.countP SharedCall.takesKey ≤ UInt64.size) :
    (w.run calls).1.Counted (n + calls.countP SharedCall.takesKey)
        (fun i => declared i ++ calls.filterMap (·.declares? i)) ∧
      (handedOut (w.run calls).2).map UInt64.toNat =
        List.range' n (calls.countP SharedCall.takesKey) := by
  -- the counter and what has been declared so far move along with the calls
  induction calls generalizing w n declared with
  | nil => simpa [Workshop.run, handedOut] using h
  | cons call calls ih =>
    obtain ⟨hcall, hcalls⟩ := List.forall_mem_cons.1 hfresh
    have hlt : call.takesKey = true → n < UInt64.size := fun htakes => by
      rw [List.countP_cons_of_pos htakes] at hn
      omega
    obtain ⟨hstep, hkey⟩ := h.step hcall hlt
    simp only [declares_cons, ← List.append_assoc]
    cases htakes : call.takesKey with
    | false =>
      have hcount : (call :: calls).countP SharedCall.takesKey = calls.countP SharedCall.takesKey :=
        List.countP_cons_of_neg (by simp [htakes])
      rw [hcount] at hn ⊢
      rw [htakes] at hstep
      obtain ⟨hrun, hkeys⟩ := ih hcalls hstep hn
      refine ⟨hrun, ?_⟩
      rw [Workshop.run, handedOut, List.filterMap_cons_none (by simp [htakes])]
      exact hkeys
    | true =>
      obtain ⟨key, hreply, rfl⟩ := Option.map_eq_some_iff.1 (hkey htakes)
      rw [List.countP_cons_of_pos htakes, Nat.add_comm _ 1, ← Nat.add_assoc] at hn ⊢
      rw [htakes] at hstep
      obtain ⟨hrun, hkeys⟩ := ih hcalls hstep hn
      refine ⟨hrun, ?_⟩
      rw [Workshop.run, handedOut, List.filterMap_cons_some (b := key) (by simp [htakes, hreply]),
        List.map_cons, Nat.add_comm 1, List.range'_succ]
      exact congrArg _ hkeys

/-- What comes of calls in the order in which they read the sequence. The keys are 0, 1, 2 and so on, one for
each call that needs one; a column that has a key keeps it; and what is built of a draft has the columns that
were declared on it, in that order. -/
structure Shares (names : Nat → String) (calls : List SharedCall) : Prop where
  order : ((start names).run calls).2.map (·.1) = calls
  keys : (handedOut ((start names).run calls).2).map UInt64.toNat =
    List.range (calls.countP SharedCall.takesKey)
  next : ((start names).run calls).1.sequence.At (calls.countP SharedCall.takesKey)
  kept : ∀ c reply, c.orderingKey ≠ none →
    (SharedCall.stamp c, reply) ∈ ((start names).run calls).2 → reply = .column c
  columns : ∀ i shape, (((start names).run calls).1.drafts i).build = .ok shape →
    List.Forall₂ Column.StampedAs (calls.filterMap (·.declares? i)) shape.columns ∧
      ∀ p, shape.prototype = some p → p.columns = shape.columns

/-- Any number of drafts can be declared at the same time with keys from one sequence, as long as it does not
run out of numbers: in whatever order their calls come, each key is handed out once, and no draft has its
columns moved by what is declared on the others. -/
theorem drafts_share_sequence (names : Nat → String) {calls : List SharedCall}
    (hfresh : ∀ call ∈ calls, call.isFresh = true)
    (hcount : calls.countP SharedCall.takesKey ≤ UInt64.size) : Shares names calls := by
  obtain ⟨hcounted, hkeys⟩ := (start_counted names).run hfresh (by rwa [Nat.zero_add])
  simp only [Nat.zero_add, List.nil_append] at hcounted
  constructor
  case order => exact run_calls calls (start names)
  case keys => rw [hkeys, List.range_eq_range']
  case next => exact hcounted.sequence
  case kept =>
    intro c reply hc hmem
    obtain ⟨w, hreply⟩ := mem_run hmem
    have hstep : w.step (.stamp c) = (w, .column c) := by rw [step, Sequence.stamp_some hc]
    rw [hstep] at hreply
    exact hreply
  case columns =>
    intro i shape hshape
    refine ⟨(hcounted.drafts i).build hshape, fun p hp => ?_⟩
    rw [Draft.build_prototype hshape hp]

/-- Calls on two drafts, and some on the sequence itself. -/
def mixedCalls : List SharedCall :=
  [.onDraft 0 (.column (Column.scalar "id" .integer)),
    .onDraft 1 (.partition (Column.scalar "day" .date)), .nextKey,
    .stamp { Column.scalar "email" .varchar with orderingKey := some 42 },
    .onDraft 0 (.column (Column.scalar "email" .varchar)), .onDraft 1 (.namePrefix "web_"),
    .onDraft 1 (.column (Column.scalar "page" .varchar))]

/-- Each draft has its own columns in order, with keys that others have taken in between. -/
theorem mixedCalls_share : Shares (fun i => ["Users", "Visits"].getD i "") mixedCalls ∧
    handedOut ((start fun i => ["Users", "Visits"].getD i "").run mixedCalls).2 = [0, 1, 2, 3, 4] ∧
    [0, 1].map (fun i =>
      (((start fun i => ["Users", "Visits"].getD i "").run mixedCalls).1.drafts i).build.toOption.map
        fun shape => shape.columns.map fun c => (c.name, c.orderingKey)) =
      [some [("id", some 0), ("email", some 3)], some [("day", some 1), ("page", some 4)]] :=
  ⟨drafts_share_sequence _ (by decide) (by decide), by decide, by cbv⟩

end Workshop

end Warehouse
