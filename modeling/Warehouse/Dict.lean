/-!
Finite maps with text keys. The entries are kept in strictly increasing key order, so a map is
determined by what it finds, equal maps are equal values, and printing one needs no sorting.
-/

namespace Warehouse

/-- A finite map from text to `α`, its entries in key order. -/
structure Dict (α : Type) where
  entries : List (String × α)
  sorted : entries.Pairwise (fun a b => a.1 < b.1)

namespace Dict

variable {α : Type}

/-- The map without entries. -/
def empty : Dict α := ⟨[], .nil⟩

instance : Inhabited (Dict α) := ⟨empty⟩

instance : EmptyCollection (Dict α) := ⟨empty⟩

/-- Puts an entry at its place in an ordered list, replacing the one of the same key. -/
def insertEntry (key : String) (value : α) : List (String × α) → List (String × α)
  | [] => [(key, value)]
  | e :: rest =>
    if key < e.1 then (key, value) :: e :: rest
    else if e.1 < key then e :: insertEntry key value rest
    else (key, value) :: rest

/-- Every key after an insertion is the new one or an old one. -/
theorem mem_insertEntry {key : String} {value : α} {l : List (String × α)} {e : String × α}
    (h : e ∈ insertEntry key value l) : e = (key, value) ∨ e ∈ l := by
  induction l with
  | nil => simpa [insertEntry] using h
  | cons x rest ih =>
    unfold insertEntry at h
    split at h
    · simpa using h
    · split at h
      · rcases List.mem_cons.1 h with h | h
        · exact Or.inr (h ▸ List.mem_cons_self)
        · exact (ih h).imp id (List.mem_cons_of_mem x)
      · rcases List.mem_cons.1 h with h | h
        · exact Or.inl h
        · exact Or.inr (List.mem_cons_of_mem x h)

/-- Inserting keeps the key order. -/
theorem pairwise_insertEntry {key : String} {value : α} {l : List (String × α)}
    (h : l.Pairwise (fun a b => a.1 < b.1)) :
    (insertEntry key value l).Pairwise (fun a b => a.1 < b.1) := by
  induction l with
  | nil => simp [insertEntry]
  | cons x rest ih =>
    obtain ⟨hx, hr⟩ := List.pairwise_cons.1 h
    unfold insertEntry
    split
    · rename_i hlt
      refine List.pairwise_cons.2 ⟨fun e he => ?_, h⟩
      rcases List.mem_cons.1 he with he | he
      · exact he ▸ hlt
      · exact String.lt_trans hlt (hx e he)
    · split
      · rename_i hgt
        refine List.pairwise_cons.2 ⟨fun e he => ?_, ih hr⟩
        rcases mem_insertEntry he with he | he
        · exact he ▸ hgt
        · exact hx e he
      · rename_i hnlt hngt
        have heq : x.1 = key := String.le_antisymm (String.not_lt.1 hnlt) (String.not_lt.1 hngt)
        exact List.pairwise_cons.2 ⟨fun e he => heq ▸ hx e he, hr⟩

/-- The map with the key bound to the value, whatever it was bound to before. -/
def insert (d : Dict α) (key : String) (value : α) : Dict α :=
  ⟨insertEntry key value d.entries, pairwise_insertEntry d.sorted⟩

/-- The map of a list of entries; of several entries with one key the last counts. -/
def ofList (entries : List (String × α)) : Dict α :=
  entries.foldl (fun d e => d.insert e.1 e.2) empty

/-- What the key is bound to. -/
def find? (d : Dict α) (key : String) : Option α := d.entries.lookup key

/-- Whether the key is bound. -/
def contains (d : Dict α) (key : String) : Bool := (d.find? key).isSome

/-- The keys in order. -/
def keys (d : Dict α) : List String := d.entries.map Prod.fst

/-- Whether no key is bound. -/
def isEmpty (d : Dict α) : Bool := d.entries.isEmpty

/-- Both maps in one; where both bind a key, the second counts. -/
def union (d other : Dict α) : Dict α :=
  other.entries.foldl (fun d e => d.insert e.1 e.2) d

/-- Maps with the same entries are the same map. -/
@[ext] theorem ext {d e : Dict α} (h : d.entries = e.entries) : d = e := by
  cases d
  cases e
  cases h
  rfl

instance [DecidableEq α] : DecidableEq (Dict α) := fun d e =>
  if h : d.entries = e.entries then isTrue (ext h) else isFalse fun g => h (g ▸ rfl)

end Dict

end Warehouse
