import Warehouse.Proofs.Statement.Merge
import Warehouse.Proofs.Statement.Objects
import Warehouse.Proofs.Statement.SortKeys
import Warehouse.Proofs.Template.Untouched

/-!
The deletion of rows by keys in Redshift. The condition on a new row and an existing one has one equality for each
key, but it goes through the form that all deletions share. This form drops a condition that is empty, so that a
deletion without keys is one of all rows, and it fills in parameters, also where a slot stands in a name. Main
statement: what is deleted for any keys and parameters, and the names that no parameters change.
-/

namespace Warehouse

open Condition (Holds Operand Token tokens?)
open Template (LeavesAlone SlotFree cuts pieces substitute)
open Text (replaceChar replaceChar_self)

/-! ### Slots in quoted names -/

/-- A mark is part of no slot, so none comes or goes where it is doubled. -/
theorem Template.slot_mem_doubled {m : Char} (hm : cuts m = true) (hbrace : m ≠ '\x7b') (s : Slot)
    (cs : List Char) : .slot s ∈ pieces false (replaceChar m [m, m] cs) ↔ .slot s ∈ pieces false cs := by
  by_cases h : m ∈ cs
  · obtain ⟨a, b, rfl, ha⟩ := List.eq_append_cons_of_mem h
    have hdoubled : replaceChar m [m, m] (a ++ m :: b) = a ++ m :: m :: replaceChar m [m, m] b := by
      rw [replaceChar, List.flatMap_append, ← replaceChar, ← replaceChar, replaceChar_of_not_mem _ ha,
        replaceChar_self]
      rfl
    rw [hdoubled, pieces_cut hm, pieces_cut hm, pieces_char _ hbrace, pieces_char _ hbrace, pieces_char _ hbrace]
    simp [slot_mem_doubled hm hbrace s b]
  · rw [replaceChar_of_not_mem _ h]
termination_by cs.length

theorem QuoteStyle.slotFree_quote (q : QuoteStyle) (name : String) : SlotFree (q.quote name) ↔ SlotFree name := by
  have hbrace : q.mark ≠ '\x7b' := by cases q <;> decide
  have hchars : (q.quote name).toList =
      q.mark :: (replaceChar q.mark [q.mark, q.mark] name.toList ++ q.mark :: []) := by
    rw [quote, String.toList_ofList, quoteChars]
  rw [Template.slotFree_iff, Template.slotFree_iff]
  refine forall_congr' fun s => not_congr ?_
  rw [hchars, Template.pieces_char _ hbrace, Template.pieces_cut q.cuts_mark, Template.pieces_char _ hbrace, pieces]
  simp [Template.slot_mem_doubled q.cuts_mark hbrace]

/-! ### The condition on keys -/

theorem separates_equals : Template.Separates " = ".toList := ⟨' ', _, rfl, by decide, by decide⟩

theorem separates_dot : Template.Separates ".".toList := ⟨'.', _, rfl, by decide, by decide⟩

/-- The equality of a key of a new row with that of an existing one, given the names as they are written. -/
def keyMatch (target key : String) : String := "u." ++ key ++ " = " ++ target ++ "." ++ key

theorem keyMatch_eq (target key : String) :
    keyMatch target key = "u." ++ (key ++ " = " ++ (target ++ "." ++ key)) := by
  simp only [keyMatch, String.append_assoc]

theorem keyMatch_ne_empty (target key : String) : keyMatch target key ≠ "" := by
  simp [keyMatch, String.append_eq_empty_iff]

/-- Names are filled in one by one. -/
theorem substitute_keyMatch (target key : String) (params : String → Option String) :
    substitute (keyMatch target key) params = keyMatch (substitute target params) (substitute key params) := by
  rw [keyMatch_eq, Template.substitute_append (by decide), Template.substitute_separated _ separates_equals,
    Template.substitute_separated _ separates_dot, ← keyMatch_eq]

theorem slotFree_keyMatch (target key : String) :
    SlotFree (keyMatch target key) ↔ SlotFree key ∧ SlotFree target := by
  rw [keyMatch_eq, Template.slotFree_append (by decide), Template.slotFree_separated separates_equals,
    Template.slotFree_separated separates_dot]
  tauto

theorem keyMatch_inj {q : QuoteStyle} {target a b : String}
    (h : keyMatch target (q.quote a) = keyMatch target (q.quote b)) : a = b := by
  rw [keyMatch_eq, keyMatch_eq] at h
  exact (q.equality_inj ((String.append_right_inj "u.").1 h)).1

/-- A quoted name and a dot go in front of an operand. -/
theorem Condition.operand_dotted (q : QuoteStyle) (name : String) {rest : String} {ts : List Token}
    (hrest : tokens? rest = some ts) (h : Operand ts) :
    ∃ us, tokens? (q.quote name ++ "." ++ rest) = some us ∧ Operand us := by
  have hword : isWordPart q.mark = false := by cases q <;> decide
  have hmark : isQuoteMark q.mark = true := by cases q <;> decide
  obtain ⟨first, names, hquoted, hlex⟩ := lex_quoteChars hword hmark ('.' :: rest.toList) name.toList []
  have hneutral : ∀ t ∈ first :: names, t.Neutral := by
    intro t ht
    obtain ⟨m, cs, rfl⟩ := hquoted t ht
    exact ⟨rfl, rfl, rfl⟩
  have hdot : lex (.plain []) ('.' :: rest.toList) = some (.sign '.' :: ts) := by
    rw [lex_sign (by decide) (by decide), show lex (.plain []) rest.toList = some ts from hrest]
    rfl
  have hchars : (q.quote name ++ "." ++ rest).toList =
      q.mark :: (replaceChar q.mark [q.mark, q.mark] name.toList ++ q.mark :: '.' :: rest.toList) := by
    simp [QuoteStyle.quote, QuoteStyle.quoteChars]
  refine ⟨first :: names ++ .sign '.' :: ts, ?_, Operand.append hneutral (.cons ⟨rfl, rfl, rfl⟩ h)⟩
  rw [tokens?, hchars, lex_quoteMark hword hmark, hlex, hdot]
  rfl

theorem keyMatch_operand (q r : QuoteStyle) (schema name key : String) :
    ∃ ts, tokens? (keyMatch (q.quote schema ++ "." ++ q.quote name) (r.quote key)) = some ts ∧ Operand ts ∧
      Condition.group? ts = none := by
  obtain ⟨ts, hts, hkey⟩ := Condition.operand_quote r key
  obtain ⟨us, hus, hnamed⟩ := Condition.operand_dotted q name hts hkey
  obtain ⟨vs, hvs, hexisting⟩ := Condition.operand_dotted q schema hus hnamed
  obtain ⟨ws, hws, hequality, _⟩ := Condition.operand_equality r key hvs hexisting
  have hchars : (keyMatch (q.quote schema ++ "." ++ q.quote name) (r.quote key)).toList = 'u' :: '.' ::
      (r.quote key ++ " = " ++ (q.quote schema ++ "." ++ (q.quote name ++ "." ++ r.quote key))).toList := by
    simp [keyMatch]
  have hdotted : Operand (.sign '.' :: ws) := .cons ⟨rfl, rfl, rfl⟩ hequality
  exact ⟨_, Condition.tokens?_taken (by decide) hws hchars, .cons ⟨rfl, rfl, rfl⟩ hdotted, rfl⟩

/-- Whether a new row and an existing one meet all of the conditions, if there are any. -/
def Admits (row : List Token → Bool) (conditions : List String) : Prop :=
  conditions ≠ [] → Holds row (String.intercalate " AND " conditions)

namespace Table

/-- What a deletion by keys asks of a new row and an existing one: that they have each key in common. -/
def keyMatches (t : Table) (keys : List String) (suffix : String) : List String :=
  keys.map fun key => keyMatch (t.reference suffix) (Vocabulary.redshift.quoteColumn key)

/-- The statement that deletes the existing rows for which a row of the source meets all of the conditions. -/
def deletionUsing (t : Table) (source : Option String) (suffix : String) (conditions : List String) : String :=
  "DELETE FROM " ++ t.reference suffix ++ " USING " ++ source.getD (t.stagingReference suffix) ++ " AS u" ++
    restriction conditions ++ ";"

section Deletion

variable (t : Table) (keys : List String) (source : Option String) (params : Dict String) (suffix : String)

theorem keyMatches_eq_nil : t.keyMatches keys suffix = [] ↔ keys = [] := List.map_eq_nil_iff

theorem substitute_keyMatches (params : String → Option String) :
    substitute (String.intercalate " AND " (t.keyMatches keys suffix)) params =
      String.intercalate " AND " ((t.keyMatches keys suffix).map (substitute · params)) :=
  Template.substitute_intercalate params separates_and _

/-- A condition that is empty is dropped. -/
theorem keyDeletion_condition : (t.keyDeletion keys source params suffix).condition =
    if keys = [] then none
    else some (String.intercalate " AND " ((t.keyMatches keys suffix).map (substitute · params.find?))) := by
  have hcondition : (t.keyDeletion keys source params suffix).condition =
      ((some (String.intercalate " AND " (t.keyMatches keys suffix))).filter (· != "")).map
        (substitute · params.find?) := rfl
  have hparts : ∀ part ∈ t.keyMatches keys suffix, part ≠ "" :=
    List.forall_mem_map.2 fun key _ => keyMatch_ne_empty _ _
  rw [hcondition]
  by_cases hkeys : keys = []
  · rw [if_pos hkeys, hkeys]
    rfl
  · have hne : String.intercalate " AND " (t.keyMatches keys suffix) ≠ "" :=
      intercalate_ne_empty (mt (t.keyMatches_eq_nil keys suffix).1 hkeys) hparts
    rw [if_neg hkeys, Option.filter_some, if_pos (by simpa using hne), Option.map_some, substitute_keyMatches]

theorem keyDeletion_text : (t.keyDeletion keys source params suffix).text =
    t.deletionUsing source suffix ((t.keyMatches keys suffix).map (substitute · params.find?)) := by
  -- by their equations the texts would be unfolded down to their characters
  delta Deletion.text deletionUsing
  rw [keyDeletion_condition, restriction]
  by_cases hkeys : keys = [] <;>
    simp [keyDeletion, deletion, hkeys, keyMatches, Dialect.terminator, String.append_assoc]

variable {t} in
theorem deleteUpsert_eq (hname : t.dialect.name = "redshift") : t.deleteUpsert keys source params suffix =
    .ok (t.deletionUsing source suffix ((t.keyMatches keys suffix).map (substitute · params.find?))) := by
  rw [deleteUpsert, onRedshift_ok hname, keyDeletion_text]

/-- Statements that have conditions, or have none, differ where these do. -/
theorem deletionUsing_inj {a b : List String} (hnone : a = [] ↔ b = []) :
    t.deletionUsing source suffix a = t.deletionUsing source suffix b ↔
      String.intercalate " AND " a = String.intercalate " AND " b := by
  delta deletionUsing
  rw [String.append_left_inj, String.append_right_inj, restriction, restriction]
  by_cases ha : a = []
  · rw [ha, hnone.1 ha]
    exact iff_of_true rfl rfl
  · rw [if_neg ha, if_neg (mt hnone.2 ha), String.append_right_inj]

end Deletion

section Keys

variable (t : Table) (keys : List String) (suffix : String)

theorem slotFree_reference : SlotFree (t.reference suffix) ↔
    SlotFree t.schema ∧ SlotFree (t.prefixedName ++ suffix) := by
  rw [reference_eq, Template.slotFree_separated separates_dot]
  exact and_congr (QuoteStyle.slotFree_quote _ _) (QuoteStyle.slotFree_quote _ _)

theorem slotFree_keyMatches : SlotFree (String.intercalate " AND " (t.keyMatches keys suffix)) ↔
    ∀ key ∈ keys, SlotFree key ∧ SlotFree t.schema ∧ SlotFree (t.prefixedName ++ suffix) := by
  rw [Template.slotFree_intercalate separates_and, keyMatches, List.forall_mem_map]
  refine forall₂_congr fun key _ => ?_
  rw [slotFree_keyMatch, slotFree_reference]
  exact and_congr_left' (QuoteStyle.slotFree_quote _ _)

theorem keyMatches_operand : ∀ part ∈ t.keyMatches keys suffix,
    ∃ ts, tokens? part = some ts ∧ Operand ts ∧ Condition.group? ts = none := by
  rw [keyMatches, List.forall_mem_map]
  intro key _
  rw [reference_eq]
  exact keyMatch_operand _ _ _ _ _

/-- A new row and an existing one are let through that have all of the keys in common. -/
theorem keyMatches_admitted (row : List Token → Bool) :
    Admits row (t.keyMatches keys suffix) ↔ ∀ part ∈ t.keyMatches keys suffix, Holds row part := by
  by_cases hne : t.keyMatches keys suffix = []
  · simp [Admits, hne]
  · have hoperands : ∀ part ∈ t.keyMatches keys suffix, ∃ ts, tokens? part = some ts ∧ Operand ts := by
      intro part hpart
      obtain ⟨ts, hts, hoperand, _⟩ := t.keyMatches_operand keys suffix part hpart
      exact ⟨ts, hts, hoperand⟩
    rw [Admits, Condition.holds_joined hne hoperands]
    exact ⟨fun h => h hne, fun h _ => h⟩

/-- Rows that have nothing in common are let through only where nothing is asked. -/
theorem keyMatches_admit_all : (∀ row, Admits row (t.keyMatches keys suffix)) ↔ keys = [] := by
  constructor
  · intro h
    by_contra hkeys
    obtain ⟨part, rest, hparts⟩ := List.exists_cons_of_ne_nil (mt (t.keyMatches_eq_nil keys suffix).1 hkeys)
    have hpart : part ∈ t.keyMatches keys suffix := hparts ▸ List.mem_cons_self
    obtain ⟨ts, hts, hoperand, hgroup⟩ := t.keyMatches_operand keys suffix part hpart
    have hholds := (t.keyMatches_admitted keys suffix fun _ => false).1 (h _) part hpart
    rw [Condition.holds_iff hts, hoperand.truth_eq, Condition.factorTruth, hgroup] at hholds
    cases hholds
  · rintro rfl row hne
    exact absurd rfl hne

end Keys

/-- What a deletion by keys says, and which rows it deletes. -/
structure DeletesByKeys (t : Table) (keys : List String) (source : Option String) (suffix : String) : Prop where
  /-- Parameters are filled in in the conditions and nowhere else, and there in each name. -/
  written : ∀ params : Dict String, t.deleteUpsert keys source params suffix =
    .ok (t.deletionUsing source suffix (keys.map fun key =>
      keyMatch (substitute (t.reference suffix) params.find?)
        (substitute (Vocabulary.redshift.quoteColumn key) params.find?)))
  /-- Names that the parameters leave alone are the same in all of the statement. -/
  kept : ∀ params : Dict String, LeavesAlone params.find? (t.reference suffix) →
    (∀ key ∈ keys, LeavesAlone params.find? (Vocabulary.redshift.quoteColumn key)) →
    t.deleteUpsert keys source params suffix = .ok (t.deletionUsing source suffix (t.keyMatches keys suffix))
  /-- Names that all parameters leave alone are those without slots. -/
  safe : (∀ params : Dict String, t.deleteUpsert keys source params suffix =
      .ok (t.deletionUsing source suffix (t.keyMatches keys suffix))) ↔
    ∀ key ∈ keys, SlotFree key ∧ SlotFree t.schema ∧ SlotFree (t.prefixedName ++ suffix)
  /-- Each key has an equality of its own. -/
  apart : ∀ a b, keyMatch (t.reference suffix) (Vocabulary.redshift.quoteColumn a) =
    keyMatch (t.reference suffix) (Vocabulary.redshift.quoteColumn b) → a = b
  /-- An existing row is deleted if a new row has all of the keys in common with it, and only then. -/
  matched : ∀ row, Admits row (t.keyMatches keys suffix) ↔
    ∀ key ∈ keys, Holds row (keyMatch (t.reference suffix) (Vocabulary.redshift.quoteColumn key))
  /-- The rows without a counterpart are deleted, too, exactly when there are no keys; then the statement has no
  condition. -/
  everything : (∀ row, Admits row (t.keyMatches keys suffix)) ↔ keys = []
  unconditional : restriction (t.keyMatches keys suffix) = "" ↔ keys = []

/-- A deletion in Redshift asks that a new row and an existing one have each key in common, and asks nothing if there
are no keys. In its condition, though not in the name of the table it deletes from, parameters are filled in. -/
theorem deletes_by_keys {t : Table} (hname : t.dialect.name = "redshift") (keys : List String)
    (source : Option String) (suffix : String) : t.DeletesByKeys keys source suffix := by
  have hfilled : ∀ params : Dict String, (t.keyMatches keys suffix).map (substitute · params.find?) =
      keys.map fun key => keyMatch (substitute (t.reference suffix) params.find?)
        (substitute (Vocabulary.redshift.quoteColumn key) params.find?) := by
    intro params
    rw [keyMatches, List.map_map]
    exact List.map_congr_left fun key _ => substitute_keyMatch _ _ _
  constructor
  case written => exact fun params => by rw [deleteUpsert_eq _ _ _ _ hname, hfilled]
  case kept =>
    intro params htarget hkeys
    rw [deleteUpsert_eq _ _ _ _ hname, hfilled, keyMatches, Template.substitute_of_leavesAlone htarget]
    exact congrArg (Except.ok <| t.deletionUsing source suffix ·) (List.map_congr_left fun key hkey => by
      rw [Template.substitute_of_leavesAlone (hkeys key hkey)])
  case safe =>
    rw [← slotFree_keyMatches, ← Template.substitute_eq_self_iff]
    refine forall_congr' fun params => ?_
    rw [deleteUpsert_eq _ _ _ _ hname, Except.ok.injEq, substitute_keyMatches,
      deletionUsing_inj _ _ _ List.map_eq_nil_iff]
  case apart => exact fun a b => keyMatch_inj
  case matched =>
    intro row
    rw [keyMatches_admitted, keyMatches, List.forall_mem_map]
  case everything => exact t.keyMatches_admit_all keys suffix
  case unconditional =>
    rw [restriction, ← t.keyMatches_eq_nil keys suffix]
    split
    · next h => simp [h]
    · next h => simp [h, String.append_eq_empty_iff]

set_option maxRecDepth 1024 in
/-- Page loads are replaced by day and number, whatever the parameters are. -/
theorem pageLoads_replaced : ∃ t : Table, bind pageLoadInstance .redshift = .ok t ∧
    t.dialect.name = "redshift" ∧ t.DeletesByKeys ["day", "id"] none "_v2" ∧
    ∀ params : Dict String, t.deleteUpsert ["day", "id"] none params "_v2" =
      .ok ("DELETE FROM \"web\".\"tmp_page_loads_v2\" USING \"web\".\"tmp_stg_2020-01-01_page_loads_v2\" AS u" ++
        " WHERE u.\"day\" = \"web\".\"tmp_page_loads_v2\".\"day\"" ++
        " AND u.\"id\" = \"web\".\"tmp_page_loads_v2\".\"id\";") := by
  obtain ⟨t, hbind, hname, hschema, htable, htext⟩ : ∃ t : Table, bind pageLoadInstance .redshift = .ok t ∧
      t.dialect.name = "redshift" ∧ t.schema = "web" ∧ t.prefixedName ++ "_v2" = "tmp_page_loads_v2" ∧
      t.deletionUsing none "_v2" (t.keyMatches ["day", "id"] "_v2") =
        "DELETE FROM \"web\".\"tmp_page_loads_v2\" USING \"web\".\"tmp_stg_2020-01-01_page_loads_v2\" AS u" ++
          " WHERE u.\"day\" = \"web\".\"tmp_page_loads_v2\".\"day\"" ++
          " AND u.\"id\" = \"web\".\"tmp_page_loads_v2\".\"id\";" := by
    have hbind : bind pageLoadInstance .redshift = .ok _ := rfl
    exact ⟨_, hbind, rfl, rfl, by cbv, by delta deletionUsing; cbv⟩
  have hdeletes := deletes_by_keys hname ["day", "id"] none "_v2"
  refine ⟨t, hbind, hname, hdeletes, fun params => ?_⟩
  have hkeys : ∀ key ∈ ["day", "id"], '\x7b' ∉ key.toList := by decide
  have hfree : ∀ key ∈ ["day", "id"],
      SlotFree key ∧ SlotFree t.schema ∧ SlotFree (t.prefixedName ++ "_v2") := by
    rw [hschema, htable]
    exact fun key hkey => ⟨Template.slotFree_of_not_mem (hkeys key hkey),
      Template.slotFree_of_not_mem (by decide), Template.slotFree_of_not_mem (by decide)⟩
  rw [hdeletes.safe.2 hfree, htext]

/-- Without keys all page loads are deleted; and where a name holds a slot, the condition is on another name. -/
theorem pageLoads_lost : ∃ t : Table, bind pageLoadInstance .redshift = .ok t ∧ t.dialect.name = "redshift" ∧
    t.deleteUpsert [] none Dict.empty "" =
      .ok "DELETE FROM \"web\".\"tmp_page_loads\" USING \"web\".\"tmp_stg_2020-01-01_page_loads\" AS u;" ∧
    t.deleteUpsert ["\x7bday\x7d"] (some "incoming") (Dict.ofList [("day", "id")]) "" =
      .ok ("DELETE FROM \"web\".\"tmp_page_loads\" USING incoming AS u" ++
        " WHERE u.\"id\" = \"web\".\"tmp_page_loads\".\"id\";") ∧
    t.deletionUsing (some "incoming") "" (t.keyMatches ["\x7bday\x7d"] "") =
      "DELETE FROM \"web\".\"tmp_page_loads\" USING incoming AS u" ++
        " WHERE u.\"\x7bday\x7d\" = \"web\".\"tmp_page_loads\".\"\x7bday\x7d\";" ∧
    t.deleteUpsert ["id"] (some "incoming") (Dict.ofList [("day", "today")]) "_\x7bday\x7d" =
      .ok ("DELETE FROM \"web\".\"tmp_page_loads_\x7bday\x7d\" USING incoming AS u" ++
        " WHERE u.\"id\" = \"web\".\"tmp_page_loads_today\".\"id\";") := by
  have hbind : bind pageLoadInstance .redshift = .ok _ := rfl
  exact ⟨_, hbind, rfl, by cbv, by cbv, by delta deletionUsing; cbv, by cbv⟩

end Table

end Warehouse
