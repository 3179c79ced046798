import Mathlib.Data.List.Forall2
import Warehouse.Proofs.Text.Reading
import Warehouse.Statement.Create

/-!
Literals in statements. A literal ends at the first quote that is not doubled, so a text whose quotes are
doubled cannot end it, whatever the text holds and whatever follows the literal. Main statement: an escaped
text reads back as itself, trimmed, and so do comments on columns and the entries of external storage where
they stand.
-/

namespace Warehouse

namespace Statement

open Text (doubleQuotes readDoubled? readDoubled?_eq_some)

/-- What the literal at the front of a text says, and what follows it. -/
def readLiteral? (text : String) : Option (String × String) :=
  match text.toList with
  | '\x27' :: rest =>
    (readDoubled? '\x27' rest).map fun (body, after) => (String.ofList body, String.ofList after)
  | _ => none

/-- A text that is escaped between two quotes is read up to the second of them. -/
theorem readLiteral?_escape (text rest : String) (h : rest.toList.head? ≠ some '\x27') :
    readLiteral? ("'" ++ escape text ++ "'" ++ rest) = some (Text.trim text, rest) := by
  have hchars : ("'" ++ escape text ++ "'" ++ rest).toList =
      '\x27' :: (doubleQuotes (Text.trimChars text.toList) ++ '\x27' :: rest.toList) := by
    simp [escape, escapeChars]
  have hbody : readDoubled? '\x27' (doubleQuotes (Text.trimChars text.toList) ++ '\x27' :: rest.toList) =
      some (Text.trimChars text.toList, rest.toList) := readDoubled?_eq_some.2 ⟨rfl, h⟩
  rw [readLiteral?, hchars]
  simp only [hbody, Option.map_some, String.ofList_toList, Text.trim]

theorem readLiteral?_literal (text : String) : readLiteral? (literal text) = some (Text.trim text, "") := by
  have h := readLiteral?_escape text "" (by decide)
  rwa [String.append_empty] at h

end Statement

/-- Whether the dialect words a column in the standard way. -/
inductive Dialect.Standard : Dialect → Prop
  | presto : Standard .presto
  | trino : Standard .trino
  | custom (name : String) (v : Vocabulary) : Standard (.custom name v)

namespace Statement

/-- Whether the text is a literal from its first character to its last, and says this. -/
def IsLiteral (text body : String) : Prop := readLiteral? text = some (body, "")

theorem columnDefinition_standard {d : Dialect} (h : d.Standard) (c : BoundColumn) :
    d.columnDefinition c = c.quotedName ++ " " ++ c.typeText ++
      (c.comment.map fun comment => " COMMENT " ++ literal comment).getD "" := by
  cases h <;> cases hc : c.comment <;> simp [Dialect.columnDefinition, Dialect.commentClause, hc]

/-- An escaped text between two quotes is one literal, which ends at the second of them and says the text
without the blanks around it, whatever follows but a quote. So the definition of a column in the standard
wording is its name and its type, and if there is a comment on it one literal at the end that says the
comment; and an entry of external storage is its key and one literal that says its value. -/
theorem literals_read_back :
    (∀ text rest : String, rest.toList.head? ≠ some '\x27' →
      readLiteral? ("'" ++ escape text ++ "'" ++ rest) = some (Text.trim text, rest)) ∧
    (∀ (d : Dialect) (c : BoundColumn), d.Standard →
      (c.comment = none → d.columnDefinition c = c.quotedName ++ " " ++ c.typeText) ∧
      ∀ comment, c.comment = some comment → ∃ lit, IsLiteral lit (Text.trim comment) ∧
        d.columnDefinition c = c.quotedName ++ " " ++ c.typeText ++ " COMMENT " ++ lit) ∧
    ∀ storage : ExternalStorage,
      List.Forall₂ (fun setting entry => ∃ lit, IsLiteral lit (Text.trim setting.2) ∧
          entry = setting.1 ++ " = " ++ lit)
        (("external_location", storage.location) :: storage.settings.entries) storage.withEntries := by
  refine ⟨readLiteral?_escape, fun d c hd => ⟨fun hc => ?_, ?_⟩, ?_⟩
  · rw [columnDefinition_standard hd, hc]
    exact String.append_empty
  · intro comment hc
    refine ⟨literal comment, readLiteral?_literal comment, ?_⟩
    rw [columnDefinition_standard hd, hc, Option.map_some, Option.getD_some, ← String.append_assoc]
  · intro storage
    refine .cons ⟨_, readLiteral?_literal _, rfl⟩ ?_
    rw [List.forall₂_map_right_iff, List.forall₂_same]
    exact fun setting _ => ⟨_, readLiteral?_literal setting.2, rfl⟩

/-- A column whose comment would end its literal and the statement. -/
def remarkColumn : BoundColumn where
  declared := { Column.scalar "remark" .varchar with comment := some "''it's'); DROP TABLE notes; --\n" }
  typeText := "VARCHAR"
  quotedName := "\"remark\""
  setterTemplate := ""
  resolved := {}
  nested := []

/-- Storage with quotes in its location and in a setting. -/
def notesStorage : ExternalStorage where
  location := " s3://o'hara/'"
  settings := .ofList [("csv_quote", "'")]

/-- What would end a literal is read back from within it. -/
theorem remarks_read_back :
    (", \"stars\" INTEGER".toList.head? ≠ some '\x27' ∧
      readLiteral? ("'" ++ escape " ''" ++ "'" ++ ", \"stars\" INTEGER") =
        some ("''", ", \"stars\" INTEGER")) ∧
    (∃ lit, IsLiteral lit "''it's'); DROP TABLE notes; --" ∧
      Dialect.trino.columnDefinition remarkColumn = "\"remark\" VARCHAR COMMENT " ++ lit) ∧
    ∃ location quote, IsLiteral location "s3://o'hara/'" ∧ IsLiteral quote "'" ∧
      notesStorage.withEntries = ["external_location = " ++ location, "csv_quote = " ++ quote] := by
  obtain ⟨hescape, hcolumn, hstorage⟩ := literals_read_back
  have hrest : ", \"stars\" INTEGER".toList.head? ≠ some '\x27' := by decide
  have htext : Text.trim " ''" = "''" := by cbv
  have hcomment : Text.trim "''it's'); DROP TABLE notes; --\n" = "''it's'); DROP TABLE notes; --" := by
    cbv
  have hlocation : Text.trim " s3://o'hara/'" = "s3://o'hara/'" := by cbv
  have hquote : Text.trim "'" = "'" := by cbv
  refine ⟨⟨hrest, htext ▸ hescape " ''" _ hrest⟩, ?_, ?_⟩
  · have h := (hcolumn .trino remarkColumn .trino).2 _ rfl
    rwa [hcomment] at h
  · have hentries : ("external_location", notesStorage.location) :: notesStorage.settings.entries =
        [("external_location", " s3://o'hara/'"), ("csv_quote", "'")] := by decide
    have h := hstorage notesStorage
    rw [hentries] at h
    generalize notesStorage.withEntries = entries at h ⊢
    obtain _ | ⟨⟨location, hl, rfl⟩, _ | ⟨⟨quote, hq, rfl⟩, _ | _⟩⟩ := h
    exact ⟨location, quote, hlocation ▸ hl, hquote ▸ hq, rfl⟩

end Statement

end Warehouse
