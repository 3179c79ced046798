import Mathlib.Algebra.Order.BigOperators.Group.List
import Warehouse.Markdown
import Warehouse.Proofs.Table.Reachable

/-!
Reading the table of columns in the documentation. A line of a Markdown table is over at the end of the line, and
a cell at the next bar that no backslash stands before. Nothing escapes the texts that are put into the cells. Main
statement: there is one line for each documented column, with the four cells of the column, exactly when no bar
and no end of a line is in what the cells say.
-/

namespace Warehouse.Markdown

/-! ### Cells -/

/-- The pieces of a line between its bars. A bar behind a backslash belongs to the piece that it stands in. -/
def splitCells : List Char → List (List Char)
  | [] => [[]]
  | '\\' :: '|' :: rest => (splitCells rest).modifyHead ('|' :: ·)
  | '|' :: rest => [] :: splitCells rest
  | c :: rest => (splitCells rest).modifyHead (c :: ·)

/-- A cell as it stands between two bars. -/
def pad (cell : String) : List Char := ' ' :: (cell.toList ++ [' '])

/-- What stands in a cell, if there is a blank on both sides. -/
def unpad? : List Char → Option String
  | ' ' :: rest => if rest.getLast? = some ' ' then some (String.ofList rest.dropLast) else none
  | _ => none

/-- What stands in the cells whose pieces follow the first bar; there is nothing behind the last one. -/
def readPieces? : List (List Char) → Option (List String)
  | [] => none
  | [last] => if last = [] then some [] else none
  | piece :: rest => (unpad? piece).bind fun cell => (readPieces? rest).map (cell :: ·)

/-- What stands in the cells of a line, if the line is a row of a table. -/
def readRow? (line : List Char) : Option (List String) :=
  match splitCells line with
  | [] :: pieces => readPieces? pieces
  | _ => none

theorem unpad?_eq_some {piece : List Char} {cell : String} : unpad? piece = some cell ↔ piece = pad cell := by
  constructor
  · intro h
    fun_cases unpad? piece with
    | case1 rest hlast =>
      rw [unpad?, if_pos hlast] at h
      obtain rfl := Option.some.inj h
      rw [pad, String.toList_ofList, List.dropLast_append_getLast? _ hlast]
    | case2 rest hlast =>
      rw [unpad?, if_neg hlast] at h
      cases h
    | case3 =>
      simp_all [unpad?]
  · rintro rfl
    simp [pad, unpad?]

theorem readPieces?_eq_some {pieces : List (List Char)} {cells : List String} :
    readPieces? pieces = some cells ↔ pieces = cells.map pad ++ [[]] := by
  constructor
  · intro h
    fun_induction readPieces? pieces generalizing cells with
    | case1 => cases h
    | case2 =>
      cases h
      rfl
    | case3 => cases h
    | case4 piece rest hrest ih =>
      obtain ⟨cell, hcell, h⟩ := Option.bind_eq_some_iff.1 h
      obtain ⟨more, hmore, rfl⟩ := Option.map_eq_some_iff.1 h
      rw [unpad?_eq_some.1 hcell, ih hmore]
      rfl
  · rintro rfl
    induction cells with
    | nil => rfl
    | cons cell cells ih =>
      rw [List.map_cons, List.cons_append, readPieces?, ih, unpad?_eq_some.2 rfl]
      · rfl
      · simp

/-- A line is read as the cells that it is split into, each between two blanks, and nothing else. -/
theorem readRow?_eq_some {line : List Char} {cells : List String} :
    readRow? line = some cells ↔ splitCells line = [] :: (cells.map pad ++ [[]]) := by
  rw [readRow?]
  split
  · next pieces h => rw [readPieces?_eq_some, h, List.cons_inj_right]
  · next h =>
    constructor
    · rintro ⟨⟩
    · exact fun heq => absurd heq (h _)

/-! ### Bars -/

theorem splitCells_other {c : Char} {rest : List Char} (hc : c ≠ '|')
    (hrest : c = '\\' → rest.head? ≠ some '|') :
    splitCells (c :: rest) = (splitCells rest).modifyHead (c :: ·) :=
  splitCells.eq_4 c rest (fun r hr hbar => hrest hr (by rw [hbar]; rfl)) hc

theorem splitCells_ne_nil (line : List Char) : splitCells line ≠ [] := by
  fun_induction splitCells line <;> simp_all

/-- A piece without bars that ends in a blank is over at the next bar. -/
theorem splitCells_piece {piece : List Char} (hpiece : '|' ∉ piece) (rest : List Char) :
    splitCells (piece ++ ' ' :: '|' :: rest) = (piece ++ [' ']) :: splitCells rest := by
  induction piece with
  | nil => rfl
  | cons c piece ih =>
    obtain ⟨hc, hpiece⟩ := not_or.1 (mt List.mem_cons.2 hpiece)
    have hnext : (piece ++ ' ' :: '|' :: rest).head? ≠ some '|' := by
      cases piece with
      | nil => simp
      | cons d piece => simpa using Ne.symm (not_or.1 (mt List.mem_cons.2 hpiece)).1
    rw [List.cons_append, splitCells_other (Ne.symm hc) fun _ => hnext, ih hpiece]
    rfl

/-- How many characters pieces stand for, if each of their bars has been escaped and each piece is followed by a
bar. -/
def weight (pieces : List (List Char)) : Nat := (pieces.map fun p => p.length + p.count '|' + 1).sum

theorem weight_cons (piece : List Char) (rest : List (List Char)) :
    weight (piece :: rest) = piece.length + piece.count '|' + 1 + weight rest := List.sum_cons

theorem weight_modifyHead (c : Char) {pieces : List (List Char)} (h : pieces ≠ []) :
    weight (pieces.modifyHead (c :: ·)) = weight pieces + 1 + if c = '|' then 1 else 0 := by
  obtain ⟨piece, rest, rfl⟩ := List.exists_cons_of_ne_nil h
  rw [List.modifyHead_cons, weight_cons, weight_cons, List.length_cons, List.count_cons]
  simp only [beq_iff_eq]
  omega

/-- In a split line each bar between pieces counts once, and each bar inside a piece twice. -/
theorem weight_splitCells (line : List Char) : weight (splitCells line) = line.length + 1 := by
  fun_induction splitCells line with
  | case1 => rfl
  | case2 rest ih => rw [weight_modifyHead _ (splitCells_ne_nil rest), ih, if_pos rfl]; rfl
  | case3 rest ih =>
    rw [weight_cons, ih]
    simp only [List.length_nil, List.count_nil, List.length_cons]
    omega
  | case4 c rest hescaped hc ih =>
    rw [weight_modifyHead _ (splitCells_ne_nil rest), ih, if_neg hc]
    rfl

/-! ### Rows -/

/-- The characters of a row, each cell with the bar behind it. -/
def rowChars (cells : List String) : List Char := '|' :: cells.flatMap fun cell => pad cell ++ ['|']

theorem row_toList {cells : List String} (h : cells ≠ []) : (row cells).toList = rowChars cells := by
  have hcells : ' ' :: ([' ', '|', ' '].intercalate (cells.map String.toList) ++ [' ', '|']) =
      cells.flatMap fun cell => pad cell ++ ['|'] := by
    induction cells with
    | nil => exact absurd rfl h
    | cons cell cells ih =>
      cases cells with
      | nil => simp [pad]
      | cons next cells =>
        rw [List.flatMap_cons, ← ih (List.cons_ne_nil _ _), List.map_cons, List.map_cons,
          List.intercalate_cons_cons]
        simp [pad]
  rw [rowChars, ← hcells]
  simp [row]

/-- What a row has beyond the pieces that it is read as is one backslash for each bar in its cells. -/
theorem weight_cells (cells : List String) : weight ([] :: (cells.map pad ++ [[]])) =
    (rowChars cells).length + (cells.map fun cell => cell.toList.count '|').sum + 1 := by
  induction cells with
  | nil => rfl
  | cons cell cells ih =>
    have hbars : (pad cell).count '|' = cell.toList.count '|' := by simp [pad, List.count_append]
    rw [rowChars, List.length_cons, weight_cons] at ih
    rw [rowChars, List.length_cons, List.flatMap_cons, List.length_append, List.length_append, List.map_cons,
      List.map_cons, List.sum_cons, weight_cons, List.cons_append, weight_cons, hbars]
    simp only [List.length_singleton] at ih ⊢
    omega

/-- A row is read as the cells that it was made of exactly when there are no bars in them. -/
theorem readRow?_row {cells : List String} (h : cells ≠ []) :
    readRow? (row cells).toList = some cells ↔ ∀ cell ∈ cells, '|' ∉ cell.toList := by
  rw [readRow?_eq_some, row_toList h]
  constructor
  · intro hsplit
    -- the pieces account for the whole row, so no backslash has been left out and no bar was escaped
    have hweight := weight_splitCells (rowChars cells)
    rw [hsplit, weight_cells] at hweight
    have hbars : (cells.map fun cell => cell.toList.count '|').sum = 0 := by omega
    exact fun cell hcell =>
      List.count_eq_zero.1 (List.sum_eq_zero_iff.1 hbars _ (List.mem_map_of_mem hcell))
  · intro hplain
    clear h
    change [] :: splitCells _ = _
    rw [List.cons_inj_right]
    induction cells with
    | nil => rfl
    | cons cell cells ih =>
      obtain ⟨hcell, hcells⟩ := List.forall_mem_cons.1 hplain
      have hbars : '|' ∉ ' ' :: cell.toList := by simpa using hcell
      have hpiece := splitCells_piece hbars (cells.flatMap fun cell => pad cell ++ ['|'])
      rw [List.flatMap_cons, List.map_cons, List.cons_append, ← ih hcells, pad, ← List.cons_append, ← hpiece]
      simp

/-! ### Lines -/

/-- Whether a character ends a line. -/
def isLineEnd (c : Char) : Bool := c == '\n' || c == '\r'

/-- The lines of a text, each as what stands in its cells if it is a row of a table. -/
def readTable (text : String) : List (Option (List String)) :=
  (text.toList.splitOnP isLineEnd).map readRow?

theorem length_splitOnP {α : Type} (p : α → Bool) (l : List α) : (l.splitOnP p).length = l.countP p + 1 := by
  induction l with
  | nil => rfl
  | cons x l ih =>
    rw [List.splitOnP_cons_eq_if_modifyHead, List.countP_cons]
    split
    · rw [List.length_cons, ih]
    · rw [List.length_modifyHead, ih, Nat.add_zero]

/-- Lines that are joined are split again, each into the lines that it has itself. -/
theorem splitOnP_lines {lines : List (List Char)} (h : lines ≠ []) :
    (['\n'].intercalate lines).splitOnP isLineEnd = lines.flatMap (·.splitOnP isLineEnd) := by
  induction lines with
  | nil => exact absurd rfl h
  | cons line lines ih =>
    cases lines with
    | nil => simp
    | cons next lines =>
      rw [List.intercalate_cons_cons, List.append_assoc, List.singleton_append,
        List.splitOnP_append_cons _ _ (by decide), ih (List.cons_ne_nil _ _), ← List.flatMap_cons]

/-- There are as many lines as have been joined exactly when none of them has the end of a line inside. -/
theorem length_lines_iff (lines : List (List Char)) :
    (lines.flatMap (·.splitOnP isLineEnd)).length = lines.length ↔
      ∀ line ∈ lines, ∀ c ∈ line, isLineEnd c = false := by
  have hlength : (lines.flatMap (·.splitOnP isLineEnd)).length =
      (lines.map (·.countP isLineEnd)).sum + lines.length := by
    rw [List.length_flatMap]
    simp only [length_splitOnP, List.sum_map_add]
    simp
  rw [hlength, Nat.add_eq_right, List.sum_eq_zero_iff, List.forall_mem_map]
  simp [List.countP_eq_zero]

theorem flatMap_splitOnP {lines : List (List Char)} (h : ∀ line ∈ lines, ∀ c ∈ line, isLineEnd c = false) :
    lines.flatMap (·.splitOnP isLineEnd) = lines := by
  induction lines with
  | nil => rfl
  | cons line lines ih =>
    obtain ⟨hline, hlines⟩ := List.forall_mem_cons.1 h
    rw [List.flatMap_cons, List.splitOnP_eq_singleton hline, ih hlines, List.singleton_append]

/-- Whether a text has nothing that ends a cell or a line. -/
def Plain (text : String) : Prop := ∀ c ∈ text.toList, c ≠ '|' ∧ isLineEnd c = false

instance (text : String) : Decidable (Plain text) :=
  decidable_of_iff ((text.toList.all fun c => c != '|' && !isLineEnd c) = true) (by simp [Plain])

theorem plain_iff {text : String} :
    Plain text ↔ '|' ∉ text.toList ∧ ∀ c ∈ text.toList, isLineEnd c = false := by
  have hbars : '|' ∉ text.toList ↔ ∀ c ∈ text.toList, c ≠ '|' :=
    ⟨fun h c hc he => h (he ▸ hc), fun h hc => h _ hc rfl⟩
  rw [hbars, ← forall₂_and, Plain]

theorem plain_append {a b : String} : Plain (a ++ b) ↔ Plain a ∧ Plain b := by
  rw [Plain, String.toList_append, List.forall_mem_append, Plain, Plain]

theorem lineEnds_rowChars {cells : List String} : (∀ c ∈ rowChars cells, isLineEnd c = false) ↔
    ∀ cell ∈ cells, ∀ c ∈ cell.toList, isLineEnd c = false := by
  have hbar : isLineEnd '|' = false := rfl
  have hblank : isLineEnd ' ' = false := rfl
  rw [rowChars, List.forall_mem_cons, List.forall_mem_flatMap]
  simp only [pad, List.cons_append, List.forall_mem_cons, List.forall_mem_append, List.not_mem_nil,
    false_implies, implies_true, hbar, hblank, true_and, and_true]

/-- Rows below each other are read as the rows that they are exactly when all their cells are plain. -/
theorem readTable_rows {rows : List (List String)} (hrows : rows ≠ []) (hcells : ∀ cells ∈ rows, cells ≠ []) :
    readTable (String.intercalate "\n" (rows.map row)) = rows.map some ↔
      ∀ cells ∈ rows, ∀ cell ∈ cells, Plain cell := by
  have hlines : readTable (String.intercalate "\n" (rows.map row)) =
      ((rows.map rowChars).flatMap (·.splitOnP isLineEnd)).map readRow? := by
    have hchars : (rows.map row).map String.toList = rows.map rowChars := by
      rw [List.map_map]
      exact List.map_congr_left fun cells h => row_toList (hcells cells h)
    rw [readTable, String.toList_intercalate, hchars, ← splitOnP_lines (by simpa using hrows)]
    rfl
  have hread : ∀ cells ∈ rows,
      readRow? (rowChars cells) = some cells ↔ ∀ cell ∈ cells, '|' ∉ cell.toList := by
    intro cells h
    rw [← row_toList (hcells cells h), readRow?_row (hcells cells h)]
  rw [hlines]
  constructor
  · intro h
    -- there are as many lines as rows, so no row is broken and each line can be compared with its row
    have hends := (length_lines_iff (rows.map rowChars)).1 (by simpa using congrArg List.length h)
    rw [flatMap_splitOnP hends, List.map_map, List.map_inj_left] at h
    intro cells hmem cell hcell
    exact plain_iff.2 ⟨(hread cells hmem).1 (h cells hmem) cell hcell,
      lineEnds_rowChars.1 (hends _ (List.mem_map_of_mem hmem)) cell hcell⟩
  · intro h
    have hends : ∀ line ∈ rows.map rowChars, ∀ c ∈ line, isLineEnd c = false :=
      List.forall_mem_map.2 fun cells hmem =>
        lineEnds_rowChars.2 fun cell hcell => (plain_iff.1 (h cells hmem cell hcell)).2
    rw [flatMap_splitOnP hends, List.map_map]
    exact List.map_congr_left fun cells hmem =>
      (hread cells hmem).2 fun cell hcell => (plain_iff.1 (h cells hmem cell hcell)).1

/-! ### Tables -/

/-- The cells of the two lines above the columns. -/
def headerCells : List (List String) :=
  [["Column name", "Column Type", "PII", "Description"], ["-----------", "----", "---", "-----------"]]

/-- What the documentation says of a column. -/
def statements (c : BoundColumn) : List String :=
  [c.name, c.typeText, c.declared.privacy.name.getD "", c.comment.getD ""]

/-- Emphasis adds nothing that ends a cell or a line. -/
theorem plain_cells_iff (c : BoundColumn) :
    (∀ cell ∈ cells c, Plain cell) ↔ ∀ text ∈ statements c, Plain text := by
  have hbold : Plain ("**" ++ c.name ++ "**") ↔ Plain c.name := by
    have hstars : Plain "**" := by decide
    simp [plain_append, hstars]
  have hcode : Plain ("\x60" ++ c.typeText ++ "\x60") ↔ Plain c.typeText := by
    have hmark : Plain "\x60" := by decide
    simp [plain_append, hmark]
  have hname : Plain (if c.isPartition then "**" ++ c.name ++ "**" else c.name) ↔ Plain c.name := by
    split
    · exact hbold
    · rfl
  simp only [cells, statements, List.forall_mem_cons, hname, hcode]

theorem mem_documentedColumns {t : Table} {c : BoundColumn} : c ∈ documentedColumns t ↔ c ∈ t.columns ∧
    (c.attribute? "keep").bind Attribute.asBool? ≠ some false ∧ c.declared.privacy.dropOn ≠ some .insert := by
  rw [documentedColumns, List.mem_filter, Column.isDocumented, Bool.and_eq_true, Privacy.dropsOn]
  have hkept : ∀ kept : Option Bool, kept.getD true = true ↔ kept ≠ some false := by decide
  rw [hkept]
  simp [BoundColumn.attribute?]

/-- The table of the columns is read as their cells exactly when these are plain. -/
theorem readTable_columnLines (t : Table) : readTable (String.intercalate "\n" (columnLines t)) =
    (headerCells ++ (documentedColumns t).map cells).map some ↔
      ∀ line ∈ (documentedColumns t).map cells, ∀ cell ∈ line, Plain cell := by
  have hlines : columnLines t = (headerCells ++ (documentedColumns t).map cells).map row := by
    rw [List.map_append, List.map_map]
    rfl
  have hheader : ∀ line ∈ headerCells, ∀ cell ∈ line, Plain cell := by decide
  rw [hlines, readTable_rows (by simp [headerCells]) (by simp [headerCells, cells]), List.forall_mem_append]
  exact and_iff_right hheader

/-- The section of a table ends in a table of its columns, which are all but those that are not kept and those
that are dropped when they are loaded, in order. The table is read as one line for each of them, with its name,
its type, what personal data it holds and its comment as cells, exactly when no bar and no end of a line is in
these texts of any of them. -/
theorem columns_read_back (t : Table) (mark : String) :
    table t mark = mark ++ " " ++ t.fullName false false "" ++ "\n" ++ described t.description ++ "\n\n" ++
      String.intercalate "\n" (columnLines t) ∧
    (documentedColumns t).Sublist t.columns ∧
    (∀ c, c ∈ documentedColumns t ↔ c ∈ t.columns ∧
      (c.attribute? "keep").bind Attribute.asBool? ≠ some false ∧ c.declared.privacy.dropOn ≠ some .insert) ∧
    (readTable (String.intercalate "\n" (columnLines t)) =
        (headerCells ++ (documentedColumns t).map cells).map some ↔
      ∀ c ∈ documentedColumns t, ∀ text ∈ statements c, Plain text) := by
  refine ⟨rfl, List.filter_sublist, fun c => mem_documentedColumns, ?_⟩
  rw [readTable_columnLines, List.forall_mem_map]
  simp only [plain_cells_iff]

/-- The draft of a table of answers, with a comment on them. -/
def surveys (comment : String) : Draft where
  name := "Surveys"
  columns := [Column.scalar "id" .integer, { Column.scalar "answer" .varchar with comment := some comment }]

/-- The shape of the draft. -/
def surveyShape (comment : String) : Shape where
  name := "Surveys"
  description := none
  namePrefix := ""
  columns := (surveys comment).columns
  properties := []
  policies := Policies.none
  prototype := some ⟨(surveys comment).columns, [], Policies.none⟩

/-- A table of that shape. -/
def surveyInstance (comment : String) : Instance where
  shape := surveyShape comment
  schema := "web"
  columns := (surveys comment).columns
  properties := []
  policies := Policies.none

theorem surveyInstance_declared (comment : String) : (surveyInstance comment).Declared := by
  have hbuild : (surveys comment).build = .ok (surveyShape comment) := by cbv
  have hcreate : Instance.create (surveyShape comment) "web" [] = .ok (surveyInstance comment) := rfl
  exact .created ⟨surveys comment, hbuild⟩ hcreate

/-- A comment with a bar makes a row of five cells, and neither such a comment nor one with the end of a line is
read back. -/
theorem surveys_not_read_back : ∃ t u : Table, t.Reachable ∧ u.Reachable ∧
    (documentedColumns t).map cells = [["id", "\x60INTEGER\x60", "", ""],
      ["answer", "\x60VARCHAR\x60", "", "yes | no"]] ∧
    row ["answer", "\x60VARCHAR\x60", "", "yes | no"] = "| answer | \x60VARCHAR\x60 |  | yes | no |" ∧
    readRow? "| answer | \x60VARCHAR\x60 |  | yes | no |".toList =
      some ["answer", "\x60VARCHAR\x60", "", "yes", "no"] ∧
    (documentedColumns u).map cells = [["id", "\x60INTEGER\x60", "", ""],
      ["answer", "\x60VARCHAR\x60", "", "first\nsecond"]] ∧
    ∀ v ∈ [t, u], readTable (String.intercalate "\n" (columnLines v)) ≠
      (headerCells ++ (documentedColumns v).map cells).map some := by
  have hcells : ∀ comment, ∃ t : Table, t.Reachable ∧ (documentedColumns t).map cells =
      [["id", "\x60INTEGER\x60", "", ""], ["answer", "\x60VARCHAR\x60", "", comment]] := by
    intro comment
    have hbind : Table.bind (surveyInstance comment) .presto = .ok _ := rfl
    exact ⟨_, .bound (surveyInstance_declared comment) hbind, by cbv⟩
  obtain ⟨t, ht, hbar⟩ := hcells "yes | no"
  obtain ⟨u, hu, hbreak⟩ := hcells "first\nsecond"
  refine ⟨t, u, ht, hu, hbar, by cbv, by decide, hbreak, ?_⟩
  intro v hv
  rw [Ne, readTable_columnLines]
  obtain rfl | rfl : v = t ∨ v = u := by simpa using hv
  · rw [hbar]
    decide
  · rw [hbreak]
    decide

end Warehouse.Markdown
