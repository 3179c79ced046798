import Warehouse.Proofs.Text.Reading

/-!
Reading quoted names. A name between quotation marks is over at the first mark that is not doubled, and a
statement that means an object says the schema, a dot and the name. Main statements: a name is read from its
quoted form and from nothing else, and so is the full name that stands behind the first words of a statement.
-/

namespace Warehouse

open Text (read_doubled readDoubled? readDoubled?_eq_some)

namespace QuoteStyle

variable (q : QuoteStyle)

/-- Whether a text does not go on with the quotation mark. -/
def Leaves (cs : List Char) : Prop := cs.head? ≠ some q.mark

theorem leaves_nil : q.Leaves [] := nofun

theorem leaves_cons {c : Char} (h : c ≠ q.mark) (rest : List Char) : q.Leaves (c :: rest) :=
  fun hhead => h (Option.some.inj hhead)

theorem leaves_append {a : String} {c : Char} {cs : List Char} (ha : a.toList = c :: cs) (hc : c ≠ q.mark)
    (b : String) : q.Leaves (a ++ b).toList := by
  rw [String.toList_append, ha]
  exact q.leaves_cons hc _

/-- A quoted name is over where a blank follows. -/
theorem leaves_blank {a : String} {cs : List Char} (ha : a.toList = ' ' :: cs) (b : String) :
    q.Leaves (a ++ b).toList :=
  q.leaves_append ha (by cases q <;> decide) b

/-- A quoted name is over where the text leaves it. -/
theorem read_quoteChars {a b r s : List Char} (hr : q.Leaves r) (hs : q.Leaves s)
    (h : q.quoteChars a ++ r = q.quoteChars b ++ s) : a = b ∧ r = s := by
  simp only [quoteChars, List.cons_append, List.append_assoc, List.nil_append, List.cons.injEq, true_and] at h
  exact read_doubled hr hs h

/-- Two equal equalities of quoted names have the same sides. -/
theorem equality_inj {a b x y : String} (h : q.quote a ++ " = " ++ x = q.quote b ++ " = " ++ y) :
    a = b ∧ x = y := by
  have hblank : ∀ text : String, q.Leaves (" = " ++ text).toList := q.leaves_blank rfl
  have hchars : q.quoteChars a.toList ++ (" = " ++ x).toList = q.quoteChars b.toList ++ (" = " ++ y).toList := by
    simpa [quote] using congrArg String.toList h
  obtain ⟨hname, hvalue⟩ := q.read_quoteChars (hblank x) (hblank y) hchars
  refine ⟨String.toList_inj.1 hname, String.toList_inj.1 ?_⟩
  simpa using hvalue

theorem quote_inj {a b : String} (h : q.quote a = q.quote b) : a = b :=
  (q.equality_inj (congrArg (· ++ " = " ++ "") h)).1

/-- The name that is quoted at the front of a text, and the text behind it. -/
def readName? : List Char → Option (List Char × List Char)
  | [] => none
  | c :: rest => if c = q.mark then readDoubled? q.mark rest else none

variable {q}

/-- A name is read from its quoted form, and from nothing else. -/
theorem readName?_eq_some {cs name rest : List Char} :
    q.readName? cs = some (name, rest) ↔ cs = q.quoteChars name ++ rest ∧ q.Leaves rest := by
  rw [quoteChars, List.cons_append, List.append_assoc, List.singleton_append]
  cases cs with
  | nil => simp [readName?]
  | cons c cs =>
    rw [readName?]
    by_cases hc : c = q.mark
    · rw [if_pos hc, readDoubled?_eq_some, hc, List.cons_inj_right]
      rfl
    · simp [hc]

/-- The name that is quoted at the front of a text, and the text behind it. -/
def leadingName? (q : QuoteStyle) (text : String) : Option (String × String) :=
  (q.readName? text.toList).map fun (name, rest) => (String.ofList name, String.ofList rest)

theorem leadingName?_quote (q : QuoteStyle) (name rest : String) (h : q.Leaves rest.toList) :
    q.leadingName? (q.quote name ++ rest) = some (name, rest) := by
  have hchars : (q.quote name ++ rest).toList = q.quoteChars name.toList ++ rest.toList := by
    rw [String.toList_append, quote, String.toList_ofList]
  rw [leadingName?, readName?_eq_some.2 ⟨hchars, h⟩, Option.map_some]
  simp only [String.ofList_toList]

end QuoteStyle

namespace Statement

open QuoteStyle (quote readName?_eq_some)
open Text (afterPhrase? afterPhrase?_eq_some)

/-- The full name that stands in a statement behind some words, as it is written, and what follows it. -/
def readObject? (q : QuoteStyle) (words text : String) : Option (String × String) :=
  (afterPhrase? words.toList text.toList).bind fun behindWords =>
    (q.readName? behindWords).bind fun (schema, behindSchema) =>
      (afterPhrase? ['.'] behindSchema).bind fun behindDot =>
        (q.readName? behindDot).map fun (name, rest) =>
          (q.quote (String.ofList schema) ++ "." ++ q.quote (String.ofList name), String.ofList rest)

/-- The full name of the object that a statement means behind its first words. -/
def object? (q : QuoteStyle) (words text : String) : Option String :=
  (readObject? q words text).map Prod.fst

/-- A full name is read where it stands, and as it is written there. -/
theorem readObject?_eq_some {q : QuoteStyle} {words text object rest : String} :
    readObject? q words text = some (object, rest) ↔
      text = words ++ object ++ rest ∧ q.Leaves rest.toList ∧
        ∃ schema name, object = q.quote schema ++ "." ++ q.quote name := by
  constructor
  · intro h
    obtain ⟨behindWords, hwords, h⟩ := Option.bind_eq_some_iff.1 h
    obtain ⟨⟨schema, behindSchema⟩, hschema, h⟩ := Option.bind_eq_some_iff.1 h
    obtain ⟨behindDot, hdot, h⟩ := Option.bind_eq_some_iff.1 h
    obtain ⟨⟨name, behindName⟩, hname, h⟩ := Option.map_eq_some_iff.1 h
    obtain ⟨rfl, rfl⟩ := Prod.mk.inj h
    rw [afterPhrase?_eq_some] at hwords hdot
    obtain ⟨rfl, hleaves⟩ := readName?_eq_some.1 hname
    obtain ⟨rfl, -⟩ := readName?_eq_some.1 hschema
    refine ⟨String.toList_inj.1 ?_, by rwa [String.toList_ofList], _, _, rfl⟩
    rw [hwords, hdot]
    simp [quote]
  · rintro ⟨rfl, hleaves, schema, name, rfl⟩
    have hdot : '.' ≠ q.mark := by cases q <;> decide
    have hchars : (words ++ (q.quote schema ++ "." ++ q.quote name) ++ rest).toList =
        words.toList ++ (q.quoteChars schema.toList ++ (['.'] ++
          (q.quoteChars name.toList ++ rest.toList))) := by
      simp [quote]
    refine Option.bind_eq_some_iff.2 ⟨_, afterPhrase?_eq_some.2 hchars, ?_⟩
    refine Option.bind_eq_some_iff.2 ⟨(_, _), readName?_eq_some.2 ⟨rfl, q.leaves_cons hdot _⟩, ?_⟩
    refine Option.bind_eq_some_iff.2 ⟨_, afterPhrase?_eq_some.2 rfl, ?_⟩
    refine Option.map_eq_some_iff.2 ⟨(_, _), readName?_eq_some.2 ⟨rfl, hleaves⟩, ?_⟩
    simp only [String.ofList_toList]

end Statement

end Warehouse
