import Mathlib
import Warehouse.Text.Casing

/-!
Lower case is reached in one step. What capitals become are no capitals, which is seen on the tables: no code
point is both in a run and an image of one. A text in lower case is therefore its own lower case.
-/

namespace Warehouse.Text

namespace Casing

/-! ### Sets of code points -/

/-- A set of code points as the bits of one number, in which large sets are compared at once. -/
def mask (codes : List Nat) : Nat := codes.foldr (fun n m => 2 ^ n ||| m) 0

theorem testBit_mask {codes : List Nat} {n : Nat} (h : n ∈ codes) : (mask codes).testBit n = true := by
  induction codes with
  | nil => cases h
  | cons m rest ih =>
    rw [mask, List.foldr_cons, Nat.testBit_or, Bool.or_eq_true]
    rcases List.mem_cons.1 h with rfl | h
    · exact .inl Nat.testBit_two_pow_self
    · exact .inr (ih h)

theorem not_mem_of_mask {codes others : List Nat} (h : mask codes &&& mask others = 0) {n : Nat}
    (hn : n ∈ codes) : n ∉ others := by
  intro hother
  have hbit : (mask codes &&& mask others).testBit n = true := by
    rw [Nat.testBit_and, testBit_mask hn, testBit_mask hother, Bool.and_self]
  rw [h, Nat.zero_testBit] at hbit
  cases hbit

/-! ### Capitals and their images -/

/-- A run of code points, as the tables write it: the first, the last, the step and the first image. -/
abbrev Run := Nat × Nat × Nat × Nat

/-- How far the code points of the run are from the first. -/
def offsets (run : Run) : List Nat :=
  (List.range (run.2.1 - run.1 + 1)).filter fun i => i % run.2.2.1 == 0

/-- The code points of the run. -/
def codes (run : Run) : List Nat := (offsets run).map (run.1 + ·)

/-- The images of the code points of the run. -/
def images (run : Run) : List Nat := (offsets run).map (run.2.2.2 + ·)

/-- All that lower case changes: the capitals of ASCII, the letters that have rules of their own, once for
each letter that they become, and the runs of the table. -/
def capitals : List Run :=
  [(0x41, 0x5A, 1, 0x61), (0x130, 0x130, 1, 0x69), (0x130, 0x130, 1, 0x307), (0x3A3, 0x3A3, 1, 0x3C2),
    (0x3A3, 0x3A3, 1, 0x3C3)] ++ lowerRuns

theorem capitals_apart : mask (capitals.flatMap images) &&& mask (capitals.flatMap codes) = 0 := by
  decide +kernel

theorem images_valid : ∀ n ∈ capitals.flatMap images, n.isValidChar := by
  decide +kernel

theorem mem_codes {run : Run} {n : Nat} (hfirst : run.1 ≤ n) (hlast : n ≤ run.2.1)
    (hstep : (n - run.1) % run.2.2.1 = 0) : n ∈ codes run := by
  refine List.mem_map.2 ⟨n - run.1, List.mem_filter.2 ⟨List.mem_range.2 (by omega), ?_⟩, by omega⟩
  rw [beq_iff_eq, hstep]

theorem mem_images {run : Run} {n : Nat} (hfirst : run.1 ≤ n) (hlast : n ≤ run.2.1)
    (hstep : (n - run.1) % run.2.2.1 = 0) : run.2.2.2 + (n - run.1) ∈ images run := by
  refine List.mem_map.2 ⟨n - run.1, List.mem_filter.2 ⟨List.mem_range.2 (by omega), ?_⟩, rfl⟩
  rw [beq_iff_eq, hstep]

theorem runImage?_eq_some {n image : Nat} {runs : List Run} (h : runImage? runs n = some image) :
    ∃ run ∈ runs, image ∈ images run := by
  obtain ⟨⟨first, last, step, start⟩, hrun, h⟩ := List.exists_of_findSome?_eq_some h
  simp only [Option.ite_none_right_eq_some, Bool.and_eq_true, decide_eq_true_eq, beq_iff_eq,
    Option.some.injEq] at h
  obtain ⟨⟨⟨hfirst, hlast⟩, hstep⟩, rfl⟩ := h
  exact ⟨_, hrun, mem_images hfirst hlast hstep⟩

theorem runImage?_eq_none {n : Nat} {runs : List Run} (h : ∀ run ∈ runs, n ∉ codes run) :
    runImage? runs n = none := by
  rw [runImage?, List.findSome?_eq_none_iff]
  rintro ⟨first, last, step, start⟩ hrun
  refine if_neg fun hcovers => h _ hrun ?_
  simp only [Bool.and_eq_true, decide_eq_true_eq, beq_iff_eq] at hcovers
  exact mem_codes hcovers.1.1 hcovers.1.2 hcovers.2

/-! ### Characters that stay -/

/-- Whether lower case leaves the character as it is, wherever it stands. -/
structure Still (c : Char) : Prop where
  lower : lowerChar c = [c]
  sigma : c.toNat ≠ 0x3A3

theorem toLower_ascii {c : Char} (h : c.toNat < 0x80) : c.toLower =
    if 0x41 ≤ c.toNat ∧ c.toNat ≤ 0x5A then Char.ofNat (0x61 + (c.toNat - 0x41)) else c := by
  have hall : ∀ n < 0x80, (Char.ofNat n).toLower =
      if 0x41 ≤ n ∧ n ≤ 0x5A then Char.ofNat (0x61 + (n - 0x41)) else Char.ofNat n := by decide
  simpa only [Char.ofNat_toNat] using hall c.toNat h

theorem still_of_not_mem {c : Char} (h : c.toNat ∉ capitals.flatMap codes) : Still c := by
  have hrun : ∀ run ∈ capitals, c.toNat ∉ codes run := fun run hrun hc =>
    h (List.mem_flatMap.2 ⟨run, hrun, hc⟩)
  have hne : ∀ n : Nat, (∃ image, (n, n, 1, image) ∈ capitals) → c.toNat ≠ n := by
    rintro n ⟨image, hn⟩ rfl
    exact hrun _ hn (mem_codes le_rfl le_rfl (Nat.mod_one _))
  refine ⟨?_, hne 0x3A3 ⟨0x3C2, by simp [capitals]⟩⟩
  rw [lowerChar]
  split
  · next hascii =>
    rw [toLower_ascii hascii, if_neg]
    rintro ⟨hfirst, hlast⟩
    exact hrun (0x41, 0x5A, 1, 0x61) (by simp [capitals])
      (mem_codes hfirst hlast (Nat.mod_one _))
  · have hlookup : lowerExpansions.lookup c.toNat = none := by
      have h130 : c.toNat ≠ 0x130 := hne 0x130 ⟨0x69, by simp [capitals]⟩
      rw [lowerExpansions, List.lookup_cons, beq_false_of_ne h130, List.lookup_nil]
    have hnone : runImage? lowerRuns c.toNat = none :=
      runImage?_eq_none fun run hmem => hrun run (List.mem_append_right _ hmem)
    rw [image, hlookup]
    simp only [hnone]

/-- What a capital becomes stays. -/
theorem still_image {n : Nat} (h : n ∈ capitals.flatMap images) : Still (Char.ofNat n) := by
  refine still_of_not_mem ?_
  have hn : (Char.ofNat n).toNat = n := by
    rw [Char.ofNat, dif_pos (images_valid n h)]
    rfl
  rw [hn]
  exact not_mem_of_mask capitals_apart h

theorem still_of_mem_lowerChar {c d : Char} (hsigma : c.toNat ≠ 0x3A3) (h : d ∈ lowerChar c) :
    Still d := by
  have hsame : lowerChar c = [c] → Still d := fun hc => by
    rw [hc, List.mem_singleton] at h
    exact h ▸ ⟨hc, hsigma⟩
  have himage : ∀ (run : Run) {n : Nat}, run ∈ capitals → n ∈ images run → d = Char.ofNat n →
      Still d := fun _ _ hrun hn hd => hd ▸ still_image (List.mem_flatMap.2 ⟨_, hrun, hn⟩)
  by_cases hascii : c.toNat < 0x80
  · have hlower : lowerChar c = [c.toLower] := by rw [lowerChar, if_pos hascii]
    rw [toLower_ascii hascii] at hlower
    split at hlower
    · next hcapital =>
      rw [hlower, List.mem_singleton] at h
      exact himage (0x41, 0x5A, 1, 0x61) (by simp [capitals])
        (mem_images hcapital.1 hcapital.2 (Nat.mod_one _)) h
    · exact hsame hlower
  · have hlower : lowerChar c = image lowerExpansions lowerRuns c := by rw [lowerChar, if_neg hascii]
    rw [image] at hlower
    split at hlower
    · next letters hletters =>
      obtain rfl : letters = [0x69, 0x307] := by
        simp only [lowerExpansions, List.lookup] at hletters
        split at hletters
        · exact (Option.some.inj hletters).symm
        · cases hletters
      rw [hlower] at h
      rcases List.mem_cons.1 h with h | h
      · exact himage (0x130, 0x130, 1, 0x69) (by simp [capitals]) (by decide) h
      · exact himage (0x130, 0x130, 1, 0x307) (by simp [capitals]) (by decide)
          (List.mem_singleton.1 h)
    · split at hlower
      · next n hn =>
        obtain ⟨run, hrun, hmem⟩ := runImage?_eq_some hn
        rw [hlower, List.mem_singleton] at h
        exact himage run (List.mem_append_right _ hrun) hmem h
      · exact hsame hlower

end Casing

open Casing

/-! ### Texts -/

theorem still_of_mem_lowerAfter {d : Char} : ∀ {before cs : List Char}, d ∈ lowerAfter before cs →
    Still d
  | _, [], h => by cases h
  | before, c :: rest, h => by
    rw [lowerAfter] at h
    split at h
    · rcases List.mem_cons.1 h with rfl | h
      · split
        · exact still_image (List.mem_flatMap.2 ⟨(0x3A3, 0x3A3, 1, 0x3C2), by simp [capitals], by decide⟩)
        · exact still_image (List.mem_flatMap.2 ⟨(0x3A3, 0x3A3, 1, 0x3C3), by simp [capitals], by decide⟩)
      · exact still_of_mem_lowerAfter h
    · next hsigma =>
      rcases List.mem_append.1 h with h | h
      · exact still_of_mem_lowerChar hsigma h
      · exact still_of_mem_lowerAfter h

theorem lowerAfter_of_still : ∀ {before cs : List Char}, (∀ c ∈ cs, Still c) →
    lowerAfter before cs = cs
  | _, [], _ => rfl
  | before, c :: rest, h => by
    obtain ⟨hc, hrest⟩ := List.forall_mem_cons.1 h
    rw [lowerAfter, if_neg hc.sigma, hc.lower, lowerAfter_of_still hrest, List.singleton_append]

/-- A text in lower case is its own lower case. -/
theorem lower_lower (s : String) : lower (lower s) = lower s := by
  rw [lower, lower, String.toList_ofList, lowerAfter_of_still fun c => still_of_mem_lowerAfter]

end Warehouse.Text
