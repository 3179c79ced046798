import Warehouse.Problem

/-!
Outcomes of steps that may fail. A chain of steps succeeds when all of them do, and otherwise it fails
the way its first failing step does, so the problem of a chain is found from the problems of its steps.
Where one state is exchanged for another, a failure leaves the state.
-/

namespace Warehouse.Outcome

variable {ε α β : Type}

/-- What a step fails with, if it fails. -/
def error? : Except ε α → Option ε
  | .ok _ => none
  | .error e => some e

theorem bind_eq_ok {x : Except ε α} {f : α → Except ε β} {b : β} :
    (x >>= f) = .ok b ↔ ∃ a, x = .ok a ∧ f a = .ok b := by
  constructor
  · intro h
    cases x with
    | ok a => exact ⟨a, rfl, h⟩
    | error e => cases h
  · rintro ⟨a, rfl, h⟩
    exact h

theorem map_eq_ok {x : Except ε α} {f : α → β} {b : β} :
    x.map f = .ok b ↔ ∃ a, x = .ok a ∧ f a = b := by
  cases x <;> simp [Except.map]

/-- Problems can be renamed step by step. -/
theorem mapError_bind {ε' : Type} (g : ε → ε') (x : Except ε α) (f : α → Except ε β) :
    (x >>= f).mapError g = x.mapError g >>= fun a => (f a).mapError g := by
  cases x <;> rfl

/-- When the problem of the second step does not hang on the result of the first, the chain has the
problem of the first step or else that of the second. -/
theorem error?_bind {x : Except ε α} {f : α → Except ε β} {r : Option ε}
    (h : ∀ a, error? (f a) = r) : error? (x >>= f) = (error? x).or r := by
  cases x with
  | ok a => exact h a
  | error e => rfl

/-- A last step that only puts the result together has no problem of its own. -/
theorem error?_bind_ok (x : Except ε α) (g : α → β) :
    error? (x >>= fun a => .ok (g a)) = error? x := by
  cases x <;> rfl

theorem error?_eq_some {x : Except ε α} {e : ε} : error? x = some e ↔ x = .error e := by
  cases x <;> simp [error?]

theorem error?_eq_none {x : Except ε α} : error? x = none ↔ ∃ a, x = .ok a := by
  cases x <;> simp [error?]

/-! ### Steps over a list -/

theorem mapM_cons (f : α → Except ε β) (a : α) (l : List α) :
    (a :: l).mapM f = f a >>= fun b => l.mapM f >>= fun bs => .ok (b :: bs) :=
  List.mapM_cons

/-- Steps over a list have the problem of the first step that has one. -/
theorem error?_mapM (f : α → Except ε β) : ∀ l : List α,
    error? (l.mapM f) = l.findSome? fun a => error? (f a)
  | [] => rfl
  | a :: l => by
    rw [mapM_cons, List.findSome?_cons, error?_bind fun b => error?_bind_ok (l.mapM f) (b :: ·),
      error?_mapM f l]
    cases error? (f a) <;> rfl

/-- Where each result tells what it was made from, the results of steps over a list are those that tell
the elements of the list and are what the step makes of these. -/
theorem mapM_eq_ok {f : α → Except ε β} {source : β → α}
    (hs : ∀ a b, f a = .ok b → source b = a) : ∀ {l : List α} {bs : List β},
      l.mapM f = .ok bs ↔ bs.map source = l ∧ ∀ b ∈ bs, f (source b) = .ok b
  | [], bs => by
    constructor
    · intro h
      cases h
      simp
    · rintro ⟨h, -⟩
      rw [List.map_eq_nil_iff.1 h]
      rfl
  | a :: l, bs => by
    rw [mapM_cons]
    constructor
    · intro h
      obtain ⟨b, hb, h⟩ := bind_eq_ok.1 h
      obtain ⟨bs', hbs, h⟩ := bind_eq_ok.1 h
      cases h
      obtain ⟨hmap, hall⟩ := (mapM_eq_ok hs).1 hbs
      have hsource := hs a b hb
      refine ⟨by rw [List.map_cons, hmap, hsource], List.forall_mem_cons.2 ⟨?_, hall⟩⟩
      rw [hsource]
      exact hb
    · rintro ⟨h, hall⟩
      obtain ⟨b, bs', rfl, rfl, hmap⟩ := List.map_eq_cons_iff.1 h
      obtain ⟨hb, hall⟩ := List.forall_mem_cons.1 hall
      exact bind_eq_ok.2 ⟨b, hb, bind_eq_ok.2 ⟨bs', (mapM_eq_ok hs).2 ⟨hmap, hall⟩, rfl⟩⟩

end Warehouse.Outcome

namespace Warehouse.Change

variable {σ : Type} {s s' : σ} {x : Except Problem σ}

theorem replace_eq_ok : replace s x = .ok () s' ↔ x = .ok s' := by
  cases x <;> simp [replace]

theorem replace_eq_error {p : Problem} : replace s x = .error p s' ↔ x = .error p ∧ s' = s := by
  cases x <;> simp [replace, eq_comm]

end Warehouse.Change
