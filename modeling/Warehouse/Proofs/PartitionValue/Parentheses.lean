import Warehouse.Proofs.Column.LoadItem
import Warehouse.Proofs.Table.Reachable
import Warehouse.Proofs.Text.Reading

/-!
Parentheses in the plain form of a partition value. What is kept of a text that a call ends stands between the last
opening parenthesis and the end, so it has no opening parenthesis, and a closing one for each call around the last.
Main statement: a value with balanced parentheses keeps them balanced exactly when its last call stands inside no
other, and so do the names and paths that are made of such values.
-/

namespace Warehouse

namespace PartitionValue

open Text (afterPhrase?_eq_some replaceChar replaceChar_other replaceChar_self replacePhrase)

/-- Whether the character is a parenthesis. -/
def isParenthesis (c : Char) : Bool := c == '(' || c == ')'

/-- How many parentheses are open behind a text, of which some may be open in front of it. There is no answer where
the text closes one that is not open. -/
def openBehind : Nat → List Char → Option Nat
  | n, [] => some n
  | n, '(' :: rest => openBehind (n + 1) rest
  | 0, ')' :: _ => none
  | n + 1, ')' :: rest => openBehind n rest
  | n, _ :: rest => openBehind n rest

/-- Whether each parenthesis of the text is closed, and each one that closes has been opened. -/
def Balanced (text : String) : Prop := openBehind 0 text.toList = some 0

instance (text : String) : Decidable (Balanced text) := inferInstanceAs (Decidable (_ = _))

/-- Whether the text leaves no parenthesis open, though it may close some that are not. -/
def LeavesNoneOpen (text : String) : Prop := ∀ n ∈ openBehind 0 text.toList, n = 0

/-- Whether the text is one line that a call ends, and the last call of it stands inside of so many others. -/
def EndsInCall (depth : Nat) (text : String) : Prop :=
  '\n' ∉ text.toList ∧ ∃ front argument, text.toList = front ++ '(' :: (argument ++ [')']) ∧
    '(' ∉ argument ∧ openBehind 0 front = some depth

/-! ### Counting what is open -/

theorem openBehind_open (n : Nat) (rest : List Char) :
    openBehind n ('(' :: rest) = openBehind (n + 1) rest := by
  cases n <;> rfl

theorem openBehind_other {c : Char} (h : isParenthesis c = false) (n : Nat) (rest : List Char) :
    openBehind n (c :: rest) = openBehind n rest := by
  obtain ⟨hopen, hclose⟩ := Bool.or_eq_false_iff.1 h
  exact openBehind.eq_5 n c rest (beq_eq_false_iff_ne.1 hopen)
    (fun _ => beq_eq_false_iff_ne.1 hclose) fun _ _ => beq_eq_false_iff_ne.1 hclose

theorem parenthesis_cases (c : Char) : c = '(' ∨ c = ')' ∨ isParenthesis c = false := by
  by_cases hopen : c = '('
  · exact Or.inl hopen
  · by_cases hclose : c = ')'
    · exact Or.inr (Or.inl hclose)
    · exact Or.inr (Or.inr (by simp [isParenthesis, hopen, hclose]))

theorem openBehind_append (n : Nat) (a b : List Char) :
    openBehind n (a ++ b) = (openBehind n a).bind (openBehind · b) := by
  induction a generalizing n with
  | nil => rfl
  | cons c a ih =>
    rw [List.cons_append]
    rcases parenthesis_cases c with rfl | rfl | hc
    · rw [openBehind_open, openBehind_open, ih]
    · cases n with
      | zero => rfl
      | succ n => exact ih n
    · rw [openBehind_other hc, openBehind_other hc, ih]

/-- Without opening parentheses, each closing one closes one that is open. -/
theorem openBehind_closing {cs : List Char} (h : '(' ∉ cs) (n : Nat) :
    openBehind n cs = if cs.count ')' ≤ n then some (n - cs.count ')') else none := by
  induction cs generalizing n with
  | nil => simp [openBehind]
  | cons c cs ih =>
    have hrest := ih (List.not_mem_of_not_mem_cons h)
    rcases parenthesis_cases c with rfl | rfl | hc
    · exact absurd List.mem_cons_self h
    · rw [List.count_cons_self]
      cases n with
      | zero => rfl
      | succ n =>
        show openBehind n cs = _
        simp only [hrest, Nat.add_le_add_iff_right, Nat.add_sub_add_right]
    · have hne : c ≠ ')' := by
        rintro rfl
        exact absurd hc (by decide)
      rw [openBehind_other hc, hrest, List.count_cons_of_ne hne]

/-- All other characters are passed over. -/
theorem openBehind_filter (n : Nat) (cs : List Char) :
    openBehind n (cs.filter isParenthesis) = openBehind n cs := by
  induction cs generalizing n with
  | nil => rfl
  | cons c cs ih =>
    rcases parenthesis_cases c with rfl | rfl | hc
    · rw [List.filter_cons_of_pos (by decide), openBehind_open, openBehind_open, ih]
    · rw [List.filter_cons_of_pos (by decide)]
      cases n with
      | zero => rfl
      | succ n => exact ih n
    · rw [List.filter_cons_of_neg (by simp [hc]), openBehind_other hc, ih]

/-! ### What is kept of a value -/

/-- Replacing characters that are no parentheses by others that are none leaves the parentheses alone. -/
theorem filter_replaceChar {old : Char} {new : List Char} (hold : isParenthesis old = false)
    (hnew : new.filter isParenthesis = []) (cs : List Char) :
    (replaceChar old new cs).filter isParenthesis = cs.filter isParenthesis := by
  induction cs with
  | nil => rfl
  | cons c cs ih =>
    by_cases hc : c = old
    · rw [hc, replaceChar_self, List.filter_append, hnew, ih, List.nil_append,
        List.filter_cons_of_neg (by simp [hold])]
    · rw [replaceChar_other hc, List.filter_cons, List.filter_cons, ih]

theorem filter_replacePhrase {first : Char} {more new : List Char}
    (hold : (first :: more).filter isParenthesis = []) (hnew : new.filter isParenthesis = [])
    (cs : List Char) :
    (replacePhrase first more new cs).filter isParenthesis = cs.filter isParenthesis := by
  fun_induction replacePhrase first more new cs with
  | case1 => rfl
  | case2 c rest after h ih =>
    rw [List.filter_append, hnew, List.nil_append, ih, afterPhrase?_eq_some.1 h, List.filter_append,
      hold, List.nil_append]
  | case3 c rest h ih => rw [List.filter_cons, List.filter_cons, ih]

theorem filter_undash (cs : List Char) :
    (undash cs).filter isParenthesis = cs.filter isParenthesis := by
  rw [undash, exchangeMacro, filter_replacePhrase (by decide) (by decide), exchangeMacro,
    filter_replacePhrase (by decide) (by decide)]

/-- Quotes and dashes have no part in what stands in parentheses. -/
theorem filter_plainChars (quoted dashed : Bool) (cs : List Char) :
    (plainChars quoted dashed cs).filter isParenthesis = (uncall cs).filter isParenthesis := by
  have hquotes : (replaceChar '\x27' [] (uncall cs)).filter isParenthesis =
      (uncall cs).filter isParenthesis := filter_replaceChar (by decide) rfl _
  cases quoted <;> cases dashed <;> simp [plainChars, filter_undash, hquotes]

theorem takeWhile_before_open {a : List Char} (h : '(' ∉ a) (b : List Char) :
    (a ++ '(' :: b).takeWhile (· != '(') = a := by
  have hkept : ∀ c ∈ a, (c != '(') = true := by
    intro c hc
    rw [bne_iff_ne]
    rintro rfl
    exact h hc
  rw [List.takeWhile_append_of_pos hkept, List.takeWhile_cons_of_neg (by simp), List.append_nil]

/-- The argument of the last call stands between its parenthesis and the end of the line. -/
theorem argument?_eq_some {cs argument : List Char} : argument? cs = some argument ↔
    '\n' ∉ cs ∧ '(' ∉ argument ∧ ∃ front, cs = front ++ '(' :: (argument ++ [')']) := by
  constructor
  · intro h
    rw [argument?] at h
    split at h
    · next before hreverse =>
      split at h
      · cases h
      · next hline =>
        split at h
        · next hopen =>
          obtain ⟨a, b, rfl, ha⟩ := List.eq_append_cons_of_mem hopen
          rw [takeWhile_before_open ha] at h
          obtain rfl := Option.some.inj h
          refine ⟨hline, fun hmem => ha (List.mem_reverse.1 hmem), b.reverse, ?_⟩
          rw [← List.reverse_reverse cs, hreverse]
          simp
        · cases h
    · cases h
  · rintro ⟨hline, hargument, front, rfl⟩
    have hreverse : (front ++ '(' :: (argument ++ [')'])).reverse =
        ')' :: (argument.reverse ++ '(' :: front.reverse) := by
      simp
    have hnot : '(' ∉ argument.reverse := fun hmem => hargument (List.mem_reverse.1 hmem)
    rw [argument?, hreverse]
    simp only [if_neg hline]
    rw [if_pos (by simp), takeWhile_before_open hnot, List.reverse_reverse]

/-- What is kept of a balanced value that a call ends: a closing parenthesis for each call around the last. -/
theorem EndsInCall.kept {value : String} (hvalue : Balanced value) {depth : Nat}
    (h : EndsInCall depth value) : ∃ argument, uncall value.toList = argument ∧ '(' ∉ argument ∧
      argument.count ')' = depth := by
  obtain ⟨hline, front, argument, hchars, hargument, hfront⟩ := h
  have hkept : argument? value.toList = some argument :=
    argument?_eq_some.2 ⟨hline, hargument, front, hchars⟩
  refine ⟨argument, by rw [uncall, hkept]; rfl, hargument, ?_⟩
  have hclosed : '(' ∉ argument ++ [')'] := by simp [hargument]
  rw [Balanced, hchars, openBehind_append, hfront, Option.bind_some, openBehind_open,
    openBehind_closing hclosed, List.count_append, List.count_singleton_self] at hvalue
  split at hvalue
  · have := Option.some.inj hvalue
    omega
  · cases hvalue

/-- A balanced value that no call ends is kept as a whole. -/
theorem uncall_of_not_call {value : String} (hvalue : Balanced value)
    (h : ∀ depth, ¬ EndsInCall depth value) : uncall value.toList = value.toList := by
  cases hkept : argument? value.toList with
  | none => rw [uncall, hkept]; rfl
  | some argument =>
    obtain ⟨hline, hargument, front, hchars⟩ := argument?_eq_some.1 hkept
    rw [Balanced, hchars, openBehind_append] at hvalue
    obtain ⟨depth, hfront, _⟩ := Option.bind_eq_some_iff.1 hvalue
    exact absurd ⟨hline, front, argument, hchars, hargument, hfront⟩ (h depth)

theorem EndsInCall.unique {value : String} (hvalue : Balanced value) {m n : Nat}
    (hm : EndsInCall m value) (hn : EndsInCall n value) : m = n := by
  obtain ⟨a, ha, _, rfl⟩ := hm.kept hvalue
  obtain ⟨b, hb, _, rfl⟩ := hn.kept hvalue
  rw [← ha, ← hb]

theorem openBehind_plain (quoted dashed : Bool) (value : String) :
    openBehind 0 (plain quoted dashed value).toList = openBehind 0 (uncall value.toList) := by
  rw [plain, String.toList_ofList, ← openBehind_filter, filter_plainChars, openBehind_filter]

/-- Each call around the last one leaves a closing parenthesis in the plain form, and none is left that opens. -/
theorem EndsInCall.closings {value : String} (hvalue : Balanced value) {depth : Nat}
    (h : EndsInCall depth value) (quoted dashed : Bool) : '(' ∉ (plain quoted dashed value).toList ∧
      (plain quoted dashed value).toList.count ')' = depth := by
  obtain ⟨argument, hkept, hargument, hcount⟩ := h.kept hvalue
  have hfilter := filter_plainChars quoted dashed value.toList
  rw [hkept] at hfilter
  rw [plain, String.toList_ofList]
  constructor
  · intro hmem
    have hopen : '(' ∈ argument.filter isParenthesis := hfilter ▸ List.mem_filter.2 ⟨hmem, rfl⟩
    exact hargument (List.mem_of_mem_filter hopen)
  · rw [← List.count_filter (p := isParenthesis) rfl, hfilter, List.count_filter rfl, hcount]

/-- The plain form of a balanced value is balanced unless a call around the last one ends it. -/
theorem balanced_plain {value : String} (hvalue : Balanced value) (quoted dashed : Bool) :
    Balanced (plain quoted dashed value) ↔ ∀ depth, EndsInCall depth value → depth = 0 := by
  rw [Balanced, openBehind_plain]
  by_cases hcall : ∃ depth, EndsInCall depth value
  · obtain ⟨depth, hdepth⟩ := hcall
    -- nothing opens in what is kept, so the first of its closing parentheses is already a stray one
    obtain ⟨argument, hkept, hargument, hcount⟩ := hdepth.kept hvalue
    rw [hkept, openBehind_closing hargument, hcount]
    constructor
    · intro h n hn
      obtain rfl := hn.unique hvalue hdepth
      by_contra hpos
      rw [if_neg (by omega)] at h
      cases h
    · intro h
      obtain rfl := h depth hdepth
      rfl
  · have hnone : ∀ depth, ¬ EndsInCall depth value := fun depth h => hcall ⟨depth, h⟩
    rw [uncall_of_not_call hvalue hnone]
    exact iff_of_true hvalue fun depth h => absurd h (hnone depth)

theorem leavesNoneOpen_plain {value : String} (hvalue : Balanced value) (quoted dashed : Bool) :
    LeavesNoneOpen (plain quoted dashed value) := by
  intro n hn
  rw [openBehind_plain] at hn
  by_cases hcall : ∃ depth, EndsInCall depth value
  · obtain ⟨depth, hdepth⟩ := hcall
    obtain ⟨argument, hkept, hargument, _⟩ := hdepth.kept hvalue
    rw [hkept, openBehind_closing hargument] at hn
    split at hn
    · have := Option.some.inj hn
      omega
    · cases hn
  · rw [uncall_of_not_call hvalue fun depth h => hcall ⟨depth, h⟩, hvalue] at hn
    exact (Option.some.inj hn).symm

/-! ### Texts made of several -/

theorem LeavesNoneOpen.of_balanced {text : String} (h : Balanced text) : LeavesNoneOpen text := by
  intro n hn
  rw [h] at hn
  exact (Option.some.inj hn).symm

/-- Behind a text that leaves no parenthesis open, another one is read as if it stood alone. -/
theorem LeavesNoneOpen.balanced_append {a : String} (ha : LeavesNoneOpen a) (b : String) :
    Balanced (a ++ b) ↔ Balanced a ∧ Balanced b := by
  rw [Balanced, Balanced, String.toList_append, openBehind_append]
  cases hopen : openBehind 0 a.toList with
  | none => simp
  | some n =>
    obtain rfl := ha n hopen
    simp [Balanced]

theorem LeavesNoneOpen.append {a b : String} (ha : LeavesNoneOpen a) (hb : LeavesNoneOpen b) :
    LeavesNoneOpen (a ++ b) := by
  intro n hn
  rw [String.toList_append, openBehind_append] at hn
  obtain ⟨m, hm, hn⟩ := Option.bind_eq_some_iff.1 hn
  obtain rfl := ha m hm
  exact hb n hn

theorem LeavesNoneOpen.intercalate {sep : String} (hsep : LeavesNoneOpen sep) : ∀ {parts : List String},
    (∀ part ∈ parts, LeavesNoneOpen part) → LeavesNoneOpen (String.intercalate sep parts)
  | [], _ => .of_balanced rfl
  | [a], h => by simpa using h a
  | a :: b :: rest, h => by
    obtain ⟨ha, hrest⟩ := List.forall_mem_cons.1 h
    rw [String.intercalate_cons_cons]
    exact (ha.append hsep).append (hsep.intercalate hrest)

/-- Texts that leave no parenthesis open are balanced when joined if each of them is. -/
theorem balanced_intercalate {sep : String} (hsep : Balanced sep) : ∀ {parts : List String},
    (∀ part ∈ parts, LeavesNoneOpen part) →
      (Balanced (String.intercalate sep parts) ↔ ∀ part ∈ parts, Balanced part)
  | [], _ => by simp [Balanced, openBehind]
  | [a], _ => by simp
  | a :: b :: rest, h => by
    obtain ⟨ha, hrest⟩ := List.forall_mem_cons.1 h
    rw [List.forall_mem_cons, String.intercalate_cons_cons, String.append_assoc, ha.balanced_append,
      (LeavesNoneOpen.of_balanced hsep).balanced_append, balanced_intercalate hsep hrest]
    exact and_congr_right fun _ => and_iff_right hsep

theorem Balanced.append {a b : String} (ha : Balanced a) (hb : Balanced b) : Balanced (a ++ b) :=
  ((LeavesNoneOpen.of_balanced ha).balanced_append b).2 ⟨ha, hb⟩

end PartitionValue

/-! ### Names and paths of a table -/

namespace Table

open PartitionValue (Balanced EndsInCall LeavesNoneOpen balanced_intercalate balanced_plain leavesNoneOpen_plain
  plain)

/-- Whether the parentheses in the name of the table, and in the names and values of its partitions, are balanced. -/
def HasBalancedParts (t : Table) : Prop :=
  Balanced t.tableName ∧ ∀ p ∈ t.partitions, Balanced p.name ∧ ∀ v ∈ p.declared.value, Balanced v

variable {t : Table}

/-- The segment of the storage path for a partition with this value. -/
def pathSegment (p : BoundColumn) (v : String) : String := p.name ++ "=" ++ plain false true v

theorem partitionPath_eq (t : Table) : t.partitionPath =
    String.intercalate "/" (t.partitions.filterMap fun p => p.declared.value.map (pathSegment p)) := rfl

/-- What holds of a word for each value of the partitions holds of all the words. -/
theorem forall_words {ps : List BoundColumn} {value : BoundColumn → Option String}
    {word : BoundColumn → String → String} {good : String → Prop} :
    (∀ w ∈ ps.filterMap fun p => (value p).map (word p), good w) ↔
      ∀ p ∈ ps, ∀ v ∈ value p, good (word p v) := by
  simp only [List.mem_filterMap, Option.map_eq_some_iff, Option.mem_def]
  constructor
  · intro h p hp v hv
    exact h _ ⟨p, hp, v, hv, rfl⟩
  · rintro h w ⟨p, hp, v, hv, rfl⟩
    exact h p hp v hv

theorem HasBalancedParts.current (h : t.HasBalancedParts) {p : BoundColumn} (hp : p ∈ t.partitions) {v : String}
    (hv : v ∈ p.declared.currentValue?) : Balanced v :=
  (h.2 p hp).2 v (Column.currentValue?_eq_some_iff.1 hv).1

/-- The words of the staging table's name leave nothing open, and are balanced if no value ends in nested calls. -/
theorem HasBalancedParts.words (h : t.HasBalancedParts) :
    LeavesNoneOpen (String.intercalate "_" t.valueWords) ∧
      (Balanced (String.intercalate "_" t.valueWords) ↔
        ∀ p ∈ t.partitions, ∀ v ∈ p.declared.currentValue?, ∀ depth, EndsInCall depth v → depth = 0) := by
  have hopen : ∀ w ∈ t.valueWords, LeavesNoneOpen w :=
    forall_words.2 fun p hp v hv => leavesNoneOpen_plain (h.current hp hv) false false
  refine ⟨.intercalate (.of_balanced (by decide)) hopen, ?_⟩
  rw [balanced_intercalate (by decide) hopen, valueWords, forall_words]
  exact forall₂_congr fun p hp => forall₂_congr fun v hv => balanced_plain (h.current hp hv) false false

theorem HasBalancedParts.balanced_stagingName (h : t.HasBalancedParts) : Balanced t.stagingName ↔
    ∀ p ∈ t.partitions, ∀ v ∈ p.declared.currentValue?, ∀ depth, EndsInCall depth v → depth = 0 := by
  obtain ⟨hopen, hwords⟩ := h.words
  have hfront : Balanced "stg_" := by decide
  have hname : Balanced ("_" ++ t.tableName) := Balanced.append (by decide) h.1
  rw [← hwords, stagingName]
  split
  · next hempty =>
    rw [hempty]
    exact iff_of_true (hfront.append h.1) (by decide)
  · rw [String.append_assoc, String.append_assoc, (LeavesNoneOpen.of_balanced hfront).balanced_append,
      hopen.balanced_append]
    exact (and_iff_right hfront).trans (and_iff_left hname)

theorem HasBalancedParts.balanced_partitionPath (h : t.HasBalancedParts) : Balanced t.partitionPath ↔
    ∀ p ∈ t.partitions, ∀ v ∈ p.declared.value, ∀ depth, EndsInCall depth v → depth = 0 := by
  have hfront : ∀ p ∈ t.partitions, Balanced (p.name ++ "=") := fun p hp => (h.2 p hp).1.append (by decide)
  have hopen : ∀ w ∈ t.partitions.filterMap fun p => p.declared.value.map (pathSegment p), LeavesNoneOpen w :=
    forall_words.2 fun p hp v hv => (LeavesNoneOpen.of_balanced (hfront p hp)).append
      (leavesNoneOpen_plain ((h.2 p hp).2 v hv) false true)
  rw [partitionPath_eq, balanced_intercalate (by decide) hopen, forall_words]
  refine forall₂_congr fun p hp => forall₂_congr fun v hv => ?_
  rw [pathSegment, (LeavesNoneOpen.of_balanced (hfront p hp)).balanced_append,
    balanced_plain ((h.2 p hp).2 v hv)]
  exact and_iff_right (hfront p hp)

end Table

namespace PartitionValue

/-- What is kept of a balanced value has a closing parenthesis for each call around its last one, and no opening
one: so it is balanced exactly when there is no such call, and so are the name of the staging table and the storage
path, as long as the other parts of theirs are. -/
theorem plain_balanced_iff (value : String) (t : Table) :
    (Balanced value → ∀ quoted dashed,
      (Balanced (plain quoted dashed value) ↔ ∀ depth, EndsInCall depth value → depth = 0) ∧
      ∀ depth, EndsInCall depth value → '(' ∉ (plain quoted dashed value).toList ∧
        (plain quoted dashed value).toList.count ')' = depth) ∧
    (t.HasBalancedParts →
      (Balanced t.stagingName ↔
        ∀ p ∈ t.partitions, ∀ v ∈ p.declared.currentValue?, ∀ depth, EndsInCall depth v → depth = 0) ∧
      (Balanced t.partitionPath ↔
        ∀ p ∈ t.partitions, ∀ v ∈ p.declared.value, ∀ depth, EndsInCall depth v → depth = 0)) := by
  refine ⟨fun hvalue quoted dashed => ⟨balanced_plain hvalue quoted dashed, ?_⟩,
    fun ht => ⟨ht.balanced_stagingName, ht.balanced_partitionPath⟩⟩
  intro depth hdepth
  exact hdepth.closings hvalue quoted dashed

/-- A call behind another one, and visits of a day that is given by a call with two arguments. -/
theorem plain_balanced_beside : ∃ t : Table, t.Reachable ∧ t.HasBalancedParts ∧
    Balanced "'a' || concat('b', 'c')" ∧ EndsInCall 0 "'a' || concat('b', 'c')" ∧
    Balanced (plain true false "'a' || concat('b', 'c')") ∧
    t.stagingName = "stg_2020, 01_nl_visits" ∧ Balanced t.stagingName ∧
    t.partitionPath = "ds=2020, 01/country=nl" ∧
    ∀ p ∈ t.partitions, ∀ v ∈ p.declared.value, ∀ depth, EndsInCall depth v → depth = 0 := by
  obtain ⟨t, ht, hparts, hname, hpath⟩ : ∃ t : Table, t.Reachable ∧ t.HasBalancedParts ∧
      t.stagingName = "stg_2020, 01_nl_visits" ∧ t.partitionPath = "ds=2020, 01/country=nl" := by
    have hbind : Table.bind Table.visitInstance .presto = .ok _ := rfl
    have hbound := Table.Reachable.bound Table.visitInstance_declared hbind
    exact ⟨_, hbound.step (.setValue "ds" "concat('2020', '01')"), ⟨by decide, by decide⟩, by cbv, by cbv⟩
  have hvalue : Balanced "'a' || concat('b', 'c')" := by decide
  have hcall : EndsInCall 0 "'a' || concat('b', 'c')" :=
    ⟨by decide, "'a' || concat".toList, "'b', 'c'".toList, by decide, by decide, by decide⟩
  obtain ⟨hplain, htable⟩ := plain_balanced_iff "'a' || concat('b', 'c')" t
  obtain ⟨hstaging, hpartition⟩ := htable hparts
  have hbalanced : Balanced t.partitionPath := by
    rw [hpath]
    decide
  refine ⟨t, ht, hparts, hvalue, hcall, (hplain hvalue true false).1.2 ?_, hname, hstaging.2 ?_, hpath,
    hpartition.1 hbalanced⟩
  · exact fun depth hdepth => hdepth.unique hvalue hcall
  · intro p hp v hv
    exact hpartition.1 hbalanced p hp v (Column.currentValue?_eq_some_iff.1 hv).1

/-- Calls in calls leave the parentheses that close the outer ones, also in the names of a table of visits. -/
theorem plain_unbalanced : Balanced "f(g('x'))" ∧ plain false false "f(g('x'))" = "x)" ∧
    Balanced "f(g('a'), h('b'))" ∧ plain true true "f(g('a'), h('b'))" = "'b')" ∧
    ∃ t : Table, t.Reachable ∧ t.HasBalancedParts ∧ t.stagingName = "stg_2020-01-01)_nl_visits" ∧
      ¬ Balanced t.stagingName ∧ t.partitionPath = "ds=2020-01-01)/country=nl" ∧ ¬ Balanced t.partitionPath := by
  obtain ⟨t, ht, hparts, hname, hpath⟩ : ∃ t : Table, t.Reachable ∧ t.HasBalancedParts ∧
      t.stagingName = "stg_2020-01-01)_nl_visits" ∧ t.partitionPath = "ds=2020-01-01)/country=nl" := by
    have hbind : Table.bind Table.visitInstance .presto = .ok _ := rfl
    have hbound := Table.Reachable.bound Table.visitInstance_declared hbind
    exact ⟨_, hbound.step (.setValue "ds" "date(trim('2020-01-01'))"), ⟨by decide, by decide⟩, by cbv, by cbv⟩
  have hopenName : ¬ Balanced "stg_2020-01-01)_nl_visits" := by decide
  have hopenPath : ¬ Balanced "ds=2020-01-01)/country=nl" := by decide
  exact ⟨by decide, by cbv, by decide, by cbv, t, ht, hparts, hname, hname ▸ hopenName, hpath,
    hpath ▸ hopenPath⟩

end PartitionValue

end Warehouse
