import Mathlib
import Warehouse.TableName

/-!
Where the words of a table name begin. The name is read from the left, and all that is remembered is whether the
last character went on with a run of capitals; but where an underscore comes to stand can be told from the place
and the two characters there. Main statement: what is written for each character of a declaration, of which
follows that a name without capitals stays as it is.
-/

namespace Warehouse

/-- Whether a capital of ASCII stands at the place. -/
def capitalAt (cs : List Char) (i : Nat) : Bool := cs[i]?.any Char.isUpper

/-- Whether a word begins at the place, which is not the first: a capital that stands behind the first character,
or behind one that is no capital. -/
def beginsWord (cs : List Char) (i : Nat) : Bool :=
  1 ≤ i && capitalAt cs i && (i == 1 || !capitalAt cs (i - 1))

/-- What is written for the character at the place. -/
def wordPart (cs : List Char) (i : Nat) (c : Char) : List Char :=
  if beginsWord cs i then ['_', c.toLower] else [c.toLower]

theorem capitalAt_append (front : List Char) (c : Char) (rest : List Char) :
    capitalAt (front ++ c :: rest) front.length = c.isUpper := by
  rw [capitalAt, List.getElem?_append_right (Nat.le_refl _), Nat.sub_self]
  rfl

/-- Behind the first character a run of capitals has begun if there is a capital behind it and this is the last
character. -/
theorem beginsWord_append (front : List Char) (d c : Char) (rest : List Char) :
    beginsWord (front ++ d :: c :: rest) (front.length + 1) =
      (c.isUpper && !(!front.isEmpty && d.isUpper)) := by
  have hc : capitalAt (front ++ d :: c :: rest) (front.length + 1) = c.isUpper := by
    simpa using capitalAt_append (front ++ [d]) c rest
  rw [beginsWord, hc, Nat.add_sub_cancel, capitalAt_append]
  cases front <;> simp

/-- What has been read goes into the rest of the name by its last character alone. -/
theorem tableNameAfter_eq (rest : List Char) : ∀ (front : List Char) (d : Char),
    tableNameAfter (!front.isEmpty && d.isUpper) rest =
      (rest.zipIdx (front.length + 1)).flatMap fun e => wordPart (front ++ d :: rest) e.2 e.1 := by
  induction rest with
  | nil => intro front d; rfl
  | cons c rest ih =>
    intro front d
    have hrest := ih (front ++ [d]) c
    have hrun : (!(front ++ [d]).isEmpty && c.isUpper) = c.isUpper := by simp
    rw [hrun, List.append_assoc, List.length_append] at hrest
    rw [tableNameAfter, List.zipIdx_cons, List.flatMap_cons, wordPart, beginsWord_append, hrest]
    split <;> rfl

/-- A name is written character by character. -/
theorem tableNameChars_eq (cs : List Char) :
    tableNameChars cs = cs.zipIdx.flatMap fun e => wordPart cs e.2 e.1 := by
  cases cs with
  | nil => rfl
  | cons d rest =>
    have hfirst : wordPart (d :: rest) 0 d = [d.toLower] := rfl
    rw [tableNameChars, List.zipIdx_cons, List.flatMap_cons, hfirst]
    exact congrArg (d.toLower :: ·) (tableNameAfter_eq rest [] d)

theorem not_isUpper_of_mem_wordPart {cs : List Char} {i : Nat} {c x : Char} (h : x ∈ wordPart cs i c) :
    x.isUpper = false := by
  rw [wordPart] at h
  split at h
  · rcases List.mem_pair.1 h with rfl | rfl
    · rfl
    · exact c.isUpper_toLower_eq_false
  · rw [List.mem_singleton.1 h]
    exact c.isUpper_toLower_eq_false

theorem not_isUpper_of_mem_tableNameChars {cs : List Char} {x : Char} (h : x ∈ tableNameChars cs) :
    x.isUpper = false := by
  rw [tableNameChars_eq] at h
  obtain ⟨⟨c, i⟩, _, hx⟩ := List.mem_flatMap.1 h
  exact not_isUpper_of_mem_wordPart hx

/-- Where no capital stands, no word begins and no letter is changed. -/
theorem wordPart_of_not_isUpper {cs : List Char} {i : Nat} {c : Char} (hi : cs[i]? = some c)
    (hc : c.isUpper = false) : wordPart cs i c = [c] := by
  have hplace : capitalAt cs i = false := by
    rw [capitalAt, hi]
    exact hc
  have hlower : c.toLower = c := Char.toLower_eq_of_not_isUpper (by simp [hc])
  rw [wordPart, beginsWord, hplace, hlower]
  simp

theorem tableNameChars_eq_self {cs : List Char} (h : ∀ c ∈ cs, c.isUpper = false) :
    tableNameChars cs = cs := by
  have hparts : ∀ e ∈ cs.zipIdx, wordPart cs e.2 e.1 = [e.1] := by
    rintro ⟨c, i⟩ he
    have hi : cs[i]? = some c := List.mk_mem_zipIdx_iff_getElem?.1 he
    exact wordPart_of_not_isUpper hi (h c (List.mem_of_getElem? hi))
  calc tableNameChars cs = cs.zipIdx.flatMap fun e => [e.1] := by
        rw [tableNameChars_eq, List.flatMap_def, List.flatMap_def, List.map_congr_left hparts]
    _ = cs := by rw [← List.map_eq_flatMap, List.zipIdx_map_fst]

/-- A table name has each character of the declaration with ASCII capitals made small, and in front of it an
underscore exactly where there is a capital, not in the first place, that stands behind the first character or
behind one that is no capital. So there is no capital in it; it is the declaration itself exactly when there
was none before, whatever else the declaration holds; and the name of a name is that name. -/
theorem tableName_words (declaration : String) :
    (tableName declaration).toList = declaration.toList.zipIdx.flatMap (fun (c, i) =>
      if 1 ≤ i ∧ capitalAt declaration.toList i ∧ (i = 1 ∨ ¬ capitalAt declaration.toList (i - 1)) then
        ['_', c.toLower] else [c.toLower]) ∧
    (∀ c ∈ (tableName declaration).toList, c.isUpper = false) ∧
    (tableName declaration = declaration ↔ ∀ c ∈ declaration.toList, c.isUpper = false) ∧
    tableName (tableName declaration) = tableName declaration := by
  have hcapitals : ∀ c ∈ (tableName declaration).toList, c.isUpper = false := by
    intro c hc
    rw [tableName, String.toList_ofList] at hc
    exact not_isUpper_of_mem_tableNameChars hc
  have hself : ∀ name : String, (∀ c ∈ name.toList, c.isUpper = false) → tableName name = name := by
    intro name hname
    rw [tableName, tableNameChars_eq_self hname, String.ofList_toList]
  refine ⟨?_, hcapitals, ⟨fun h => h ▸ hcapitals, hself declaration⟩, hself _ hcapitals⟩
  rw [tableName, String.toList_ofList, tableNameChars_eq]
  simp only [wordPart, beginsWord, Bool.and_eq_true, Bool.or_eq_true, Bool.not_eq_true', decide_eq_true_eq,
    beq_iff_eq, and_assoc, Bool.not_eq_true]

/-- A run of capitals counts as one word, underscores and letters beyond ASCII as no part of any. -/
example : tableName "ABC_DÉfG" = "a_bc__dÉf_g" := by cbv

end Warehouse
