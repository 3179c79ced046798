import Mathlib
import Warehouse.Document.Resolve
import Warehouse.Module.Writer
import Warehouse.Proofs.Dict.Lookup

/-!
What the places of a document read from JSON. An object whose keys are the names of a record's fields gives
each field its value; null is an empty place and nothing else is; and a place that reads back each value of
a list or a map reads back the whole.
-/

namespace Warehouse

/-! ### Maps -/

namespace Dict

variable {α : Type}

/-- An entry whose key is the last one is put at the end. -/
theorem insertEntry_last {key : String} (value : α) : ∀ {l : List (String × α)}, (∀ e ∈ l, e.1 < key) →
    insertEntry key value l = l ++ [(key, value)]
  | [], _ => rfl
  | e :: rest, h => by
    obtain ⟨he, hrest⟩ := List.forall_mem_cons.1 h
    rw [insertEntry, if_neg (String.lt_asymm he), if_pos he, insertEntry_last value hrest]
    rfl

theorem foldl_insert_entries {l : List (String × α)} {d : Dict α}
    (h : (d.entries ++ l).Pairwise fun a b => a.1 < b.1) :
    (l.foldl (fun d e => d.insert e.1 e.2) d).entries = d.entries ++ l := by
  induction l generalizing d with
  | nil => exact (List.append_nil _).symm
  | cons e rest ih =>
    have hlast : ∀ f ∈ d.entries, f.1 < e.1 := fun f hf =>
      (List.pairwise_append.1 h).2.2 f hf e List.mem_cons_self
    have hentries : (d.insert e.1 e.2).entries = d.entries ++ [e] := insertEntry_last e.2 hlast
    have hassoc : d.entries ++ e :: rest = (d.insert e.1 e.2).entries ++ rest := by
      rw [hentries, List.append_assoc]
      rfl
    rw [hassoc] at h ⊢
    exact ih h

/-- A map is the map of its own entries. -/
theorem ofList_entries (d : Dict α) : ofList d.entries = d :=
  Dict.ext (foldl_insert_entries (d := empty) d.sorted)

end Dict

namespace Document

theorem ofItems_eq_map : ∀ items : List Json, ofItems items = items.map ofJson
  | [] => rfl
  | j :: rest => by rw [ofItems, ofItems_eq_map rest, List.map_cons]

theorem ofEntries_eq_map : ∀ entries : List (String × Json),
    ofEntries entries = entries.map fun e => (atom (.text e.1), ofJson e.2)
  | [] => rfl
  | (key, j) :: rest => by rw [ofEntries, ofEntries_eq_map rest, List.map_cons]

/-! ### Records -/

theorem fieldsOf_ofEntries {names : List String} (closed : Bool) : ∀ {entries : List (String × Json)},
    (∀ e ∈ entries, e.1 ∈ names) → (entries.map Prod.fst).Nodup →
    fieldsOf names closed (ofEntries entries) = some (entries.map fun e => (e.1, ofJson e.2))
  | [], _, _ => rfl
  | (key, j) :: rest, hnames, hnodup => by
    obtain ⟨hname, hrest⟩ := List.forall_mem_cons.1 hnames
    obtain ⟨hnew, hnodup⟩ := List.nodup_cons.1 hnodup
    have hkey : fieldName? names (atom (.text key)) = some key := rfl
    have hlookup : (rest.map fun e => (e.1, ofJson e.2)).lookup key = none := by
      rw [lookup_eq_none, List.map_map]
      exact hnew
    rw [ofEntries, fieldsOf, hkey, fieldsOf_ofEntries closed hrest hnodup]
    simp [hname, hlookup]

/-- An object with the fields of a record gives each of them its value. -/
theorem fields?_ofJson (names : List String) (closed : Bool) {j : Json} {entries : List (String × Json)}
    (hj : j = .object entries) (hnames : entries.map Prod.fst = names) (hnodup : names.Nodup) :
    ∃ fs, (ofJson j).fields? names closed = some fs ∧
      ∀ e ∈ entries, fs.lookup e.1 = some (ofJson e.2) := by
  subst hj hnames
  have hfields := fieldsOf_ofEntries closed (fun e he => List.mem_map_of_mem (f := Prod.fst) he) hnodup
  refine ⟨_, hfields, fun e he => (lookup_eq_some ?_).2 ?_⟩
  · rw [List.map_map]
    exact hnodup
  · exact List.mem_map_of_mem (f := fun e => (e.1, ofJson e.2)) he

section Fields

variable {α : Type} {fs : Fields} {name : String} {d : Document} (h : fs.lookup name = some d)
include h

theorem required_eq (read : Document → Option α) : required fs name read = read d := by
  rw [required, h]
  rfl

theorem defaulted_eq (default : α) (read : Document → Option α) :
    defaulted fs name default read = read d := by
  rw [defaulted, h]

theorem optional_eq (read : Document → Option α) : Document.optional fs name read = ifPresent read d :=
  defaulted_eq h none (ifPresent read)

end Fields

/-! ### Places that may be empty -/

theorem absent?_ofJson {j : Json} (h : j ≠ .null) : (ofJson j).absent? = some false := by
  cases j with
  | null => exact absurd rfl h
  | _ => rfl

section Places

variable {α : Type} {read : Document → Option α} {write : α → Json}

/-- A place that may be empty reads back what is there, or that nothing is. -/
theorem ifPresent_ofJson {a : Option α} (hread : ∀ x ∈ a, read (ofJson (write x)) = some x)
    (hnull : ∀ x ∈ a, write x ≠ .null) : ifPresent read (ofJson ((a.map write).getD .null)) = some a := by
  cases a with
  | none => rfl
  | some x =>
    rw [ifPresent, Option.map_some, Option.getD_some, absent?_ofJson (hnull x rfl), hread x rfl]
    rfl

theorem ifPresent_jsonText (s : Option String) : ifPresent text? (ofJson (jsonText? s)) = some s :=
  ifPresent_ofJson (fun _ _ => rfl) (fun _ _ => nofun)

/-! ### Lists and maps -/

theorem mapM_of_readBack {β γ : Type} {f : β → Option γ} {g : γ → β} : ∀ {l : List γ},
    (∀ x ∈ l, f (g x) = some x) → (l.map g).mapM f = some l
  | [], _ => rfl
  | x :: rest, h => by
    obtain ⟨hx, hrest⟩ := List.forall_mem_cons.1 h
    rw [List.map_cons, List.mapM_cons, hx, mapM_of_readBack hrest]
    rfl

theorem listOf_ofJson {l : List α} (h : ∀ x ∈ l, read (ofJson (write x)) = some x) :
    listOf read (ofJson (.list (l.map write))) = some l := by
  have hitems : (ofJson (.list (l.map write))).items? = some (l.map fun x => ofJson (write x)) := by
    rw [ofJson, ofItems_eq_map, List.map_map]
    rfl
  rw [listOf, hitems]
  exact mapM_of_readBack h

theorem dictOf_ofJson {d : Dict α} (h : ∀ e ∈ d.entries, read (ofJson (write e.2)) = some e.2) :
    dictOf read (ofJson (jsonDict write d)) = some d := by
  have hentries : entriesOf text? read (ofJson (jsonDict write d)) = some d.entries := by
    have hpairs : (ofJson (jsonDict write d)).entries? =
        some (d.entries.map fun e => (atom (.text e.1), ofJson (write e.2))) := by
      rw [jsonDict, ofJson, ofEntries_eq_map, List.map_map]
      rfl
    rw [entriesOf, hpairs]
    refine mapM_of_readBack fun e he => ?_
    dsimp only
    rw [h e he]
    rfl
  rw [dictOf, hentries, Option.map_some, Dict.ofList_entries]

end Places

/-! ### Values of any type -/

mutual

/-- JSON has its values already. -/
theorem resolve?_ofJson : ∀ j : Json, (ofJson j).resolve? = some (ofJson j)
  | .null | .bool _ | .int _ | .float _ | .text _ => by rw [ofJson, resolve?]
  | .list items => by
    rw [ofJson, resolve?, resolveItems?_ofItems items]
    rfl
  | .object entries => by
    rw [ofJson, resolve?, resolveEntries?_ofEntries entries]
    rfl

theorem resolveItems?_ofItems : ∀ items : List Json, resolveItems? (ofItems items) = some (ofItems items)
  | [] => rfl
  | j :: rest => by rw [ofItems, resolveItems?, resolve?_ofJson j, resolveItems?_ofItems rest]

theorem resolveEntries?_ofEntries : ∀ entries : List (String × Json),
    resolveEntries? (ofEntries entries) = some (ofEntries entries)
  | [] => rfl
  | (key, j) :: rest => by
    rw [ofEntries, resolveEntries?, resolve?, resolve?_ofJson j, resolveEntries?_ofEntries rest]

end

/-! ### Depth -/

theorem depth_le_of_mem_items {j : Json} : ∀ {items : List Json}, j ∈ items →
    (ofJson j).depth ≤ depthOfItems (ofItems items)
  | i :: rest, h => by
    rw [ofItems, depthOfItems]
    rcases List.mem_cons.1 h with rfl | h
    · exact Nat.le_max_left _ _
    · exact (depth_le_of_mem_items h).trans (Nat.le_max_right _ _)

theorem depth_le_of_mem_entries {e : String × Json} : ∀ {entries : List (String × Json)}, e ∈ entries →
    (ofJson e.2).depth ≤ depthOfPairs (ofEntries entries)
  | (key, i) :: rest, h => by
    rw [ofEntries, depthOfPairs]
    rcases List.mem_cons.1 h with rfl | h
    · exact (Nat.le_max_right _ _).trans (Nat.le_max_left _ _)
    · exact (depth_le_of_mem_entries h).trans (Nat.le_max_right _ _)

end Document

end Warehouse
