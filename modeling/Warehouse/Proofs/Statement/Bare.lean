import Mathlib.Data.List.DropRight
import Warehouse.Statement.Upsert

/-!
What is left of a statement that stands inside another one. It loses the blanks around it, then one run of
semicolons at its end, and then the blanks before that run. So where blanks part the semicolons at its end, only
the last run of them is gone. Main statement: for these texts, and for no others, the statement still ends in a
semicolon, taking the blanks and semicolons off a second time changes it again, and a semicolon stands before the
parenthesis that closes an embedded select.
-/

namespace Warehouse

/-- A merge begins with its update in parentheses. -/
theorem Upsert.text_update (u : Upsert) : ∃ rest, u.text =
    "WITH incremental_update AS " ++ "(" ++ u.update ++ ")" ++ (" SELECT " ++ rest) := by
  have hopen : "WITH incremental_update AS (" = "WITH incremental_update AS " ++ "(" := rfl
  have hclose : ") SELECT " = ")" ++ " SELECT " := rfl
  delta Upsert.text
  rw [hopen, hclose]
  simp only [String.append_assoc]
  exact ⟨_, rfl⟩

namespace Statement

open Text (dropEnd dropStart isBlank trimChars)

/-- Whether a character at the end of a statement is none of it. -/
def isEnding (c : Char) : Bool := c == ';' || isBlank c

/-- A statement without the blanks in front of it and all blanks and semicolons at its end. -/
def settle (sql : String) : String :=
  String.ofList (dropEnd isEnding (dropStart isBlank sql.toList))

/-- Whether the text ends in semicolons that blanks part from a semicolon before them. -/
def Interrupted (cs : List Char) : Prop :=
  ∃ front gap run after, cs = front ++ ';' :: (gap ++ (run ++ after)) ∧ gap ≠ [] ∧ run ≠ [] ∧
    (∀ c ∈ gap, isBlank c = true) ∧ (∀ c ∈ run, (c == ';') = true) ∧ ∀ c ∈ after, isBlank c = true

/-! ### Dropping from the end -/

variable {test : Char → Bool}

theorem dropEnd_append (test : Char → Bool) (cs : List Char) :
    ∃ tail, cs = dropEnd test cs ++ tail ∧ ∀ c ∈ tail, test c = true :=
  ⟨cs.rtakeWhile test, List.rdropWhile_append_rtakeWhile.symm, fun _ => List.mem_rtakeWhile_imp⟩

/-- What is left ends in a character that the test refuses. -/
theorem getLast?_dropEnd (test : Char → Bool) (cs : List Char) :
    ∀ c ∈ (dropEnd test cs).getLast?, test c = false := by
  intro c hc
  have hnil : cs.rdropWhile test ≠ [] := by
    intro hnil
    rw [dropEnd, ← List.rdropWhile, hnil] at hc
    cases hc
  have hlast := List.rdropWhile_last_not test cs hnil
  rw [dropEnd, ← List.rdropWhile, List.getLast?_eq_some_getLast hnil] at hc
  obtain rfl := Option.some.inj hc
  simpa using hlast

/-- What is dropped is all that the test accepts at the end, and no more. -/
theorem dropEnd_eq_iff {cs front : List Char} : dropEnd test cs = front ↔
    (∃ tail, cs = front ++ tail ∧ ∀ c ∈ tail, test c = true) ∧
      ∀ c ∈ front.getLast?, test c = false := by
  constructor
  · rintro rfl
    exact ⟨dropEnd_append test cs, getLast?_dropEnd test cs⟩
  · rintro ⟨⟨tail, rfl, htail⟩, hlast⟩
    have hreverse : ∀ c ∈ tail.reverse, test c = true := fun c hc => htail c (List.mem_reverse.1 hc)
    have hfront : front.reverse.dropWhile test = front.reverse := by
      cases hcs : front.reverse with
      | nil => rfl
      | cons c rest =>
        have hc : test c = false := hlast c (by rw [← List.head?_reverse, hcs]; rfl)
        exact List.dropWhile_cons_of_neg (by simp [hc])
    rw [dropEnd, List.reverse_append, List.dropWhile_append_of_pos hreverse, hfront,
      List.reverse_reverse]

theorem dropEnd_eq_self {cs : List Char} (h : ∀ c ∈ cs.getLast?, test c = false) :
    dropEnd test cs = cs :=
  dropEnd_eq_iff.2 ⟨⟨[], (List.append_nil cs).symm, fun _ hc => absurd hc List.not_mem_nil⟩, h⟩

theorem dropEnd_of_last {front : List Char} {c : Char} (hc : test c = false) {tail : List Char}
    (htail : ∀ d ∈ tail, test d = true) : dropEnd test (front ++ c :: tail) = front ++ [c] := by
  refine dropEnd_eq_iff.2 ⟨⟨tail, by simp, htail⟩, ?_⟩
  intro d hd
  rw [List.getLast?_concat] at hd
  obtain rfl := Option.some.inj hd
  exact hc

/-- What is left starts with a character that is no blank. -/
theorem head?_dropStart (cs : List Char) : ∀ c ∈ (dropStart isBlank cs).head?, isBlank c = false := by
  intro c hc
  have := List.head?_dropWhile_not isBlank cs
  rw [dropStart] at hc
  rw [Option.mem_def.1 hc] at this
  simpa using this

theorem dropStart_eq_self {cs : List Char} (h : ∀ c ∈ cs.head?, isBlank c = false) :
    dropStart isBlank cs = cs := by
  cases cs with
  | nil => rfl
  | cons c rest => exact List.dropWhile_cons_of_neg (by simp [h c rfl])

/-! ### What is left out -/

/-- What is left out of a statement at its end: blanks, a run of semicolons, and the blanks after it. Each of
the three steps stops at a character that it does not take. -/
structure Rest (cs gap run after : List Char) : Prop where
  written : dropStart isBlank cs = bareChars cs ++ (gap ++ (run ++ after))
  gap_blank : ∀ c ∈ gap, isBlank c = true
  run_semicolons : ∀ c ∈ run, (c == ';') = true
  after_blank : ∀ c ∈ after, isBlank c = true
  behind_run : ∀ c ∈ (bareChars cs ++ (gap ++ run)).getLast?, isBlank c = false
  before_run : ∀ c ∈ (bareChars cs ++ gap).getLast?, (c == ';') = false

theorem exists_rest (cs : List Char) : ∃ gap run after, Rest cs gap run after := by
  obtain ⟨after, hafter, ha⟩ := dropEnd_append isBlank (dropStart isBlank cs)
  obtain ⟨run, hrun, hr⟩ := dropEnd_append (· == ';') (trimChars cs)
  obtain ⟨gap, hgap, hg⟩ := dropEnd_append isBlank (dropEnd (· == ';') (trimChars cs))
  have htrim : bareChars cs ++ (gap ++ run) = trimChars cs := by
    rw [← List.append_assoc, bareChars, ← hgap, ← hrun]
  refine ⟨gap, run, after, ?_, hg, hr, ha, ?_, ?_⟩
  · rw [← List.append_assoc gap, ← List.append_assoc, htrim]
    exact hafter
  · rw [htrim]
    exact getLast?_dropEnd isBlank _
  · rw [bareChars, ← hgap]
    exact getLast?_dropEnd (· == ';') _

theorem Rest.ending {cs gap run after : List Char} (h : Rest cs gap run after) :
    ∀ c ∈ gap ++ (run ++ after), isEnding c = true := by
  intro c hc
  simp only [List.mem_append] at hc
  rw [isEnding, Bool.or_eq_true]
  rcases hc with hc | hc | hc
  · exact Or.inr (h.gap_blank c hc)
  · exact Or.inl (h.run_semicolons c hc)
  · exact Or.inr (h.after_blank c hc)

/-- Nothing but blanks in front and blanks and semicolons at the end is left out. -/
theorem bareChars_written (cs : List Char) : ∃ lead tail, cs = lead ++ bareChars cs ++ tail ∧
    (∀ c ∈ lead, isBlank c = true) ∧ ∀ c ∈ tail, isEnding c = true := by
  obtain ⟨gap, run, after, h⟩ := exists_rest cs
  refine ⟨cs.takeWhile isBlank, _, ?_, fun c hc => List.mem_takeWhile_imp hc, h.ending⟩
  rw [List.append_assoc, ← h.written, dropStart, List.takeWhile_append_dropWhile]

theorem head?_bareChars (cs : List Char) : ∀ c ∈ (bareChars cs).head?, isBlank c = false := by
  intro c hc
  obtain ⟨_, _, _, h⟩ := exists_rest cs
  refine head?_dropStart cs c ?_
  rw [h.written, List.head?_append, Option.mem_def.1 hc]
  rfl

theorem getLast?_bareChars (cs : List Char) : ∀ c ∈ (bareChars cs).getLast?, isBlank c = false :=
  getLast?_dropEnd isBlank _

/-- Of a statement that starts with no blank, only blanks and semicolons at its end are left out. -/
theorem bare_append {sql : String} (hsql : ∀ c ∈ sql.toList.head?, isBlank c = false) :
    ∃ tail, sql = bare sql ++ tail ∧ ∀ d ∈ tail.toList, d = ';' ∨ isBlank d = true := by
  obtain ⟨gap, run, after, h⟩ := exists_rest sql.toList
  have hwritten := h.written
  rw [dropStart_eq_self hsql] at hwritten
  refine ⟨String.ofList (gap ++ (run ++ after)), ?_, ?_⟩
  · rw [← String.toList_inj, String.toList_append, bare, String.toList_ofList, String.toList_ofList]
    exact hwritten
  · intro d hd
    rw [String.toList_ofList] at hd
    simpa [isEnding] using h.ending d hd

/-- Of a statement with a part in front that neither starts nor ends with a blank, and does not end with a
semicolon, this part is kept as it is. -/
theorem bare_keeps {front : String} (first last : Char)
    (hfirst : front.toList.head? = some first) (hlast : front.toList.getLast? = some last)
    (hstart : isBlank first = false) (hend : isBlank last = false) (hopen : last ≠ ';')
    (rest : String) : ∃ kept ending, bare (front ++ rest) = front ++ kept ∧ kept ++ ending = rest ∧
      ∀ c ∈ ending.toList, c = ';' ∨ isBlank c = true := by
  have hsql : ∀ c ∈ (front ++ rest).toList.head?, isBlank c = false := by
    intro c hc
    rw [String.toList_append, List.head?_append, hfirst] at hc
    obtain rfl : first = c := by simpa using hc
    exact hstart
  obtain ⟨tail, htail, hends⟩ := bare_append hsql
  have hchars : front.toList ++ rest.toList = (bare (front ++ rest)).toList ++ tail.toList := by
    rw [← String.toList_append, ← String.toList_append, ← htail]
  rcases List.append_eq_append_iff.1 hchars with ⟨kept, hkept, hrest⟩ | ⟨cut, hcut, htail'⟩
  · refine ⟨String.ofList kept, tail, ?_, ?_, hends⟩
    · rw [← String.toList_inj, String.toList_append, String.toList_ofList, hkept]
    · rw [← String.toList_inj, String.toList_append, String.toList_ofList, hrest]
  · -- nothing can be cut from the front part, since its last character would be among what is left out
    have hnil : cut = [] := by
      by_contra hne
      have hmem : last ∈ cut := by
        rw [hcut, List.getLast?_append_of_ne_nil _ hne] at hlast
        exact List.mem_of_getLast? hlast
      have hcase := hends last (by rw [htail']; exact List.mem_append_left _ hmem)
      rcases hcase with h | h
      · exact hopen h
      · rw [hend] at h
        cases h
    subst hnil
    refine ⟨"", tail, ?_, ?_, hends⟩
    · rw [String.append_empty, ← String.toList_inj, hcut, List.append_nil]
    · rw [String.empty_append, ← String.toList_inj, htail', List.nil_append]

/-! ### Semicolons that blanks part -/

/-- Of semicolons that blanks part, the last run is taken off, and the blanks before it. -/
theorem bareChars_interrupted {front gap run after : List Char} (hgap : gap ≠ []) (hrun : run ≠ [])
    (hg : ∀ c ∈ gap, isBlank c = true) (hr : ∀ c ∈ run, (c == ';') = true)
    (ha : ∀ c ∈ after, isBlank c = true) :
    bareChars (front ++ ';' :: (gap ++ (run ++ after))) = dropStart isBlank front ++ [';'] := by
  have hsemicolon : isBlank ';' = false := by decide
  have hstart : dropStart isBlank (front ++ ';' :: (gap ++ (run ++ after))) =
      dropStart isBlank front ++ ';' :: (gap ++ (run ++ after)) := by
    rw [dropStart, List.dropWhile_append, List.dropWhile_cons_of_neg (by simp [hsemicolon])]
    split
    · next h => rw [dropStart, List.isEmpty_iff.1 h, List.nil_append]
    · rfl
  -- the run ends in a semicolon and the gap in a blank, so each step stops where the next one begins
  obtain ⟨semicolons, last, rfl⟩ := (List.eq_nil_or_concat' run).resolve_left hrun
  obtain ⟨blanks, blank, rfl⟩ := (List.eq_nil_or_concat' gap).resolve_left hgap
  have hlast : isBlank last = false := by
    rw [beq_iff_eq.1 (hr last (by simp))]
    exact hsemicolon
  have hblank : (blank == ';') = false := by
    rw [beq_eq_false_iff_ne]
    rintro rfl
    rw [hg ';' (by simp)] at hsemicolon
    cases hsemicolon
  have htrim : trimChars (front ++ ';' :: (blanks ++ [blank] ++ (semicolons ++ [last] ++ after))) =
      dropStart isBlank front ++ ';' :: blanks ++ blank :: (semicolons ++ [last]) := by
    have h : dropEnd isBlank (dropStart isBlank front ++ ';' :: blanks ++ blank :: semicolons ++ last :: after) =
        dropStart isBlank front ++ ';' :: blanks ++ blank :: semicolons ++ [last] := dropEnd_of_last hlast ha
    rw [trimChars, hstart]
    simpa using h
  have hbehind : dropEnd (· == ';')
      (dropStart isBlank front ++ ';' :: blanks ++ blank :: (semicolons ++ [last])) =
      dropStart isBlank front ++ ';' :: (blanks ++ [blank]) := by
    have h : dropEnd (· == ';')
        (dropStart isBlank front ++ ';' :: blanks ++ blank :: (semicolons ++ [last])) =
        dropStart isBlank front ++ ';' :: blanks ++ [blank] := dropEnd_of_last (c := blank) hblank hr
    simpa using h
  rw [bareChars, htrim, hbehind, dropEnd_of_last hsemicolon hg]

/-- A bare statement ends in a semicolon when the statement ends in semicolons that blanks part. -/
theorem getLast?_bareChars_semicolon {cs : List Char} :
    (bareChars cs).getLast? = some ';' ↔ Interrupted cs := by
  constructor
  · intro hlast
    obtain ⟨gap, run, after, h⟩ := exists_rest cs
    obtain ⟨front, hfront⟩ := List.getLast?_eq_some_iff.1 hlast
    have hgap : gap ≠ [] := by
      rintro rfl
      have hbefore := h.before_run ';' (by rw [List.append_nil]; exact hlast)
      simp at hbefore
    have hrun : run ≠ [] := by
      rintro rfl
      obtain ⟨blanks, blank, rfl⟩ := (List.eq_nil_or_concat' gap).resolve_left hgap
      have hbehind := h.behind_run blank (by simp)
      rw [h.gap_blank blank (by simp)] at hbehind
      cases hbehind
    refine ⟨cs.takeWhile isBlank ++ front, gap, run, after, ?_, hgap, hrun, h.gap_blank,
      h.run_semicolons, h.after_blank⟩
    have hwritten := h.written
    rw [hfront, List.append_assoc, List.singleton_append] at hwritten
    rw [List.append_assoc, ← hwritten, dropStart, List.takeWhile_append_dropWhile]
  · rintro ⟨front, gap, run, after, rfl, hgap, hrun, hg, hr, ha⟩
    rw [bareChars_interrupted hgap hrun hg hr ha, List.getLast?_concat]

theorem getLast?_bareChars_ending {cs : List Char} :
    (∀ c ∈ (bareChars cs).getLast?, isEnding c = false) ↔ ¬ Interrupted cs := by
  rw [← getLast?_bareChars_semicolon]
  constructor
  · intro h hlast
    exact absurd (h ';' hlast) (by decide)
  · intro h c hc
    have hsemicolon : c ≠ ';' := by
      rintro rfl
      exact h hc
    rw [isEnding, getLast?_bareChars cs c hc, Bool.or_false, beq_eq_false_iff_ne]
    exact hsemicolon

/-- All blanks and semicolons at the end are taken off unless blanks part the semicolons. -/
theorem bareChars_settled {cs : List Char} :
    dropEnd isEnding (dropStart isBlank cs) = bareChars cs ↔ ¬ Interrupted cs := by
  obtain ⟨_, _, _, h⟩ := exists_rest cs
  rw [dropEnd_eq_iff, getLast?_bareChars_ending]
  exact and_iff_right ⟨_, h.written, h.ending⟩

/-- A statement is bare when it starts with no blank and ends in neither a blank nor a semicolon. -/
theorem bareChars_eq_self {cs : List Char} : bareChars cs = cs ↔
    (∀ c ∈ cs.head?, isBlank c = false) ∧ ∀ c ∈ cs.getLast?, isEnding c = false := by
  constructor
  · intro h
    have hhead := head?_bareChars cs
    rw [h] at hhead
    refine ⟨hhead, ?_⟩
    -- otherwise blanks part its semicolons, and it would have become shorter
    by_contra hlast
    rw [← h, getLast?_bareChars_ending, not_not] at hlast
    obtain ⟨front, gap, run, after, rfl, hgap, hrun, hg, hr, ha⟩ := hlast
    rw [bareChars_interrupted hgap hrun hg hr ha] at h
    have hlength := congrArg List.length h
    have hfront := (List.dropWhile_suffix (l := front) isBlank).length_le
    have hpos := List.length_pos_of_ne_nil hgap
    simp only [dropStart, List.length_append, List.length_cons, List.length_nil] at hlength
    omega
  · rintro ⟨hhead, hlast⟩
    have hends : ∀ c ∈ cs.getLast?, (c == ';') = false ∧ isBlank c = false := by
      intro c hc
      exact Bool.or_eq_false_iff.1 (hlast c hc)
    have hblank : dropEnd isBlank cs = cs := dropEnd_eq_self fun c hc => (hends c hc).2
    have hsemicolon : dropEnd (· == ';') cs = cs := dropEnd_eq_self fun c hc => (hends c hc).1
    rw [bareChars, trimChars, dropStart_eq_self hhead, hblank, hsemicolon, hblank]

theorem bareChars_idem_iff {cs : List Char} :
    bareChars (bareChars cs) = bareChars cs ↔ ¬ Interrupted cs := by
  rw [bareChars_eq_self, getLast?_bareChars_ending]
  exact and_iff_right (head?_bareChars cs)

/-! ### Embedded statements -/

/-- A semicolon stands before the parenthesis that closes a statement when the statement ends in one. -/
theorem closes_behind_semicolon {before sql behind : String} :
    (∃ front, before ++ "(" ++ sql ++ ")" ++ behind = front ++ ";)" ++ behind) ↔
      sql.toList.getLast? = some ';' := by
  rw [List.getLast?_eq_some_iff]
  constructor
  · rintro ⟨front, h⟩
    have hchars : (before.toList ++ '(' :: sql.toList) ++ (')' :: behind.toList) =
        (front.toList ++ [';']) ++ (')' :: behind.toList) := by
      have := congrArg String.toList h
      simpa using this
    have hopen := List.append_cancel_right hchars
    cases hsql : sql.toList using List.reverseRecOn with
    | nil =>
      rw [hsql] at hopen
      have := (List.append_inj' hopen rfl).2
      simp at this
    | append_singleton init last =>
      rw [hsql, ← List.cons_append, ← List.append_assoc] at hopen
      obtain ⟨_, hlast⟩ := List.append_inj' hopen rfl
      exact ⟨init, by rw [hlast]⟩
  · rintro ⟨front, h⟩
    refine ⟨before ++ "(" ++ String.ofList front, ?_⟩
    rw [← String.toList_inj]
    simp [h]

/-- A bare statement is the statement without blanks in front of it and without blanks and semicolons at its end,
and it neither starts nor ends with a blank. It ends in a semicolon exactly when the statement ends in semicolons
that blanks part. Then, and only then, more blanks and semicolons could be taken off, taking them off a second time
changes it again, and an embedded select has a semicolon before the parenthesis that closes it, as a source of rows
and as the update of a merge. -/
theorem bare_settled_iff (sql : String) :
    (∃ lead tail, sql.toList = lead ++ (bare sql).toList ++ tail ∧ (∀ c ∈ lead, isBlank c = true) ∧
      ∀ c ∈ tail, isEnding c = true) ∧
    (∀ c ∈ (bare sql).toList.head?, isBlank c = false) ∧
    (∀ c ∈ (bare sql).toList.getLast?, isBlank c = false) ∧
    ((bare sql).toList.getLast? = some ';' ↔ Interrupted sql.toList) ∧
    (bare sql = settle sql ↔ ¬ Interrupted sql.toList) ∧
    (bare (bare sql) = bare sql ↔ ¬ Interrupted sql.toList) ∧
    (∀ rowsName, (Source.select sql).text rowsName = "(" ++ bare sql ++ ")" ++ rowsName ∧
      ((∃ front, (Source.select sql).text rowsName = front ++ ";)" ++ rowsName) ↔
        Interrupted sql.toList)) ∧
    ∀ (t : Table) (o : UpsertOptions), ∃ rest, t.upsertSelect { o with update := sql } =
        "WITH incremental_update AS " ++ "(" ++ bare sql ++ ")" ++ (" SELECT " ++ rest) ∧
      ((∃ front, t.upsertSelect { o with update := sql } = front ++ ";)" ++ (" SELECT " ++ rest)) ↔
        Interrupted sql.toList) := by
  have hchars : (bare sql).toList = bareChars sql.toList := String.toList_ofList
  have hsemicolon : (bare sql).toList.getLast? = some ';' ↔ Interrupted sql.toList := by
    rw [hchars, getLast?_bareChars_semicolon]
  refine ⟨?_, ?_, ?_, hsemicolon, ?_, ?_, ?_, ?_⟩
  · rw [hchars]
    exact bareChars_written sql.toList
  · rw [hchars]
    exact head?_bareChars sql.toList
  · rw [hchars]
    exact getLast?_bareChars sql.toList
  · rw [settle, bare, String.ofList_inj, eq_comm, bareChars_settled]
  · rw [← String.toList_inj, bare, String.toList_ofList, hchars, bareChars_idem_iff]
  · intro rowsName
    have htext : (Source.select sql).text rowsName = "" ++ "(" ++ bare sql ++ ")" ++ rowsName := by
      rw [Source.text, String.empty_append]
    refine ⟨by rw [htext, String.empty_append], ?_⟩
    rw [htext, closes_behind_semicolon, hsemicolon]
  · intro t o
    obtain ⟨rest, hrest⟩ := (t.upsert { o with update := sql }).text_update
    refine ⟨rest, hrest, ?_⟩
    rw [Table.upsertSelect, hrest, closes_behind_semicolon]
    exact hsemicolon

/-- Of two semicolons with a blank between them one is left, in an embedded select too, and is taken off when this is
done again. -/
theorem bare_leaves_semicolon : bare "SELECT 1; ;" = "SELECT 1;" ∧ settle "SELECT 1; ;" = "SELECT 1" ∧
    bare (bare "SELECT 1; ;") = "SELECT 1" ∧ (Source.select "SELECT 1; ;").text " vw" = "(SELECT 1;) vw" := by
  decide

end Statement

end Warehouse
