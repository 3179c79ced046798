import Warehouse.Vocabulary

/-!
The tokens of a condition: words, quoted texts and signs. A text is read in parts wherever a character stands
that no word goes on with, so that the tokens of conditions that are joined are those of each, one after the
other.
-/

namespace Warehouse.Condition

/-- The parts of a text. Blanks only part them. -/
inductive Token where
  | word (cs : List Char)
  | quoted (mark : Char) (cs : List Char)
  | sign (c : Char)
  deriving DecidableEq, Repr

/-- Whether the character goes on with a word. -/
def isWordPart (c : Char) : Bool := c.isAlphanum || c == '_' || c == '$' || 0x80 ≤ c.toNat

/-- Whether the character opens a quoted text, which ends at the same character. -/
def isQuoteMark (c : Char) : Bool := c == '\x27' || c == '\x22' || c == '\x60'

/-- Where a reader stands: what it has read of a word, last character first, or of a quoted text. -/
inductive Lexing where
  | plain (read : List Char)
  | quoted (mark : Char) (read : List Char)

/-- The word that has been read, if any. -/
def endWord (read : List Char) : List Token := if read = [] then [] else [.word read.reverse]

/-- The token of a character that stands for itself. A blank is none. -/
def signToken (c : Char) : List Token := if c.isWhitespace then [] else [.sign c]

/-- The tokens of the rest of a text, unless a quoted text does not end. -/
def lex : Lexing → List Char → Option (List Token)
  | .plain read, [] => some (endWord read)
  | .quoted _ _, [] => none
  | .plain read, c :: cs =>
    if isWordPart c then lex (.plain (c :: read)) cs
    else
      (if isQuoteMark c then lex (.quoted c []) cs
      else (lex (.plain []) cs).map (signToken c ++ ·)).map (endWord read ++ ·)
  | .quoted mark read, c :: cs =>
    if c = mark then (lex (.plain []) cs).map (.quoted mark read.reverse :: ·)
    else lex (.quoted mark (c :: read)) cs

/-- The tokens of a text. -/
def tokens? (text : String) : Option (List Token) := lex (.plain []) text.toList

theorem lex_wordPart {c : Char} (hc : isWordPart c = true) (read cs : List Char) :
    lex (.plain read) (c :: cs) = lex (.plain (c :: read)) cs := by
  rw [lex, if_pos hc]

/-- A word ends at a character that does not go on with it. -/
theorem lex_break {c : Char} (hc : isWordPart c = false) (read cs : List Char) :
    lex (.plain read) (c :: cs) = (lex (.plain []) (c :: cs)).map (endWord read ++ ·) := by
  have hnot : ¬ isWordPart c = true := by simp [hc]
  rw [lex.eq_3, if_neg hnot, lex.eq_3, if_neg hnot, Option.map_map]
  rfl

theorem lex_sign {c : Char} (hc : isWordPart c = false) (hq : isQuoteMark c = false) (cs : List Char) :
    lex (.plain []) (c :: cs) = (lex (.plain []) cs).map (signToken c ++ ·) := by
  have hnot : ¬ isWordPart c = true := by simp [hc]
  have hnot' : ¬ isQuoteMark c = true := by simp [hq]
  rw [lex.eq_3, if_neg hnot, if_neg hnot', Option.map_map]
  rfl

theorem lex_quoteMark {c : Char} (hc : isWordPart c = false) (hq : isQuoteMark c = true)
    (cs : List Char) : lex (.plain []) (c :: cs) = lex (.quoted c []) cs := by
  have hnot : ¬ isWordPart c = true := by simp [hc]
  rw [lex.eq_3, if_neg hnot, if_pos hq]
  exact Option.map_id'

theorem lex_quoted (mark c : Char) (read cs : List Char) : lex (.quoted mark read) (c :: cs) =
    if c = mark then (lex (.plain []) cs).map (.quoted mark read.reverse :: ·)
    else lex (.quoted mark (c :: read)) cs := by
  rw [lex]

/-- The tokens of a text are those of the part before a character that no word goes on with, unless this part
ends within quotation marks, and those of the part from there on. -/
theorem lex_append {c : Char} (hc : isWordPart c = false) (b : List Char) :
    ∀ {a : List Char} {s : Lexing} {ts : List Token}, lex s a = some ts →
      lex s (a ++ c :: b) = (lex (.plain []) (c :: b)).map (ts ++ ·)
  | [], .plain read, ts, h => by
    obtain rfl : endWord read = ts := by simpa [lex] using h
    rw [List.nil_append, lex_break hc]
  | [], .quoted _ _, ts, h => by simp [lex] at h
  | x :: a, .plain read, ts, h => by
    rw [List.cons_append]
    by_cases hx : isWordPart x = true
    · rw [lex_wordPart hx] at h ⊢
      exact lex_append hc b h
    · replace hx : isWordPart x = false := by simpa using hx
      rw [lex_break hx] at h ⊢
      obtain ⟨us, hus, rfl⟩ := Option.map_eq_some_iff.1 h
      by_cases hquote : isQuoteMark x = true
      · rw [lex_quoteMark hx hquote] at hus ⊢
        rw [lex_append hc b hus, Option.map_map]
        simp [Function.comp_def]
      · replace hquote : isQuoteMark x = false := by simpa using hquote
        rw [lex_sign hx hquote] at hus ⊢
        obtain ⟨vs, hvs, rfl⟩ := Option.map_eq_some_iff.1 hus
        rw [lex_append hc b hvs, Option.map_map, Option.map_map]
        simp [Function.comp_def]
  | x :: a, .quoted mark read, ts, h => by
    rw [List.cons_append]
    rw [lex_quoted] at h ⊢
    split at h
    · next hx =>
      obtain ⟨us, hus, rfl⟩ := Option.map_eq_some_iff.1 h
      rw [if_pos hx, lex_append hc b hus, Option.map_map]
      rfl
    · next hx => rw [if_neg hx, lex_append hc b h]

/-! ### Texts put together -/

/-- The word between factors as statements write it. -/
def andToken : Token := .word ['A', 'N', 'D']

theorem tokens?_and {a b : String} {ts us : List Token} (ha : tokens? a = some ts)
    (hb : tokens? b = some us) : tokens? (a ++ " AND " ++ b) = some (ts ++ andToken :: us) := by
  have hand : lex (.plain []) (' ' :: 'A' :: 'N' :: 'D' :: ' ' :: b.toList) =
      some (andToken :: us) := by
    rw [lex_sign (by decide) (by decide), lex_wordPart (by decide), lex_wordPart (by decide),
      lex_wordPart (by decide), lex_break (by decide), lex_sign (by decide) (by decide),
      show lex (.plain []) b.toList = some us from hb]
    rfl
  have hchars : (a ++ " AND " ++ b).toList = a.toList ++ ' ' :: 'A' :: 'N' :: 'D' :: ' ' :: b.toList := by
    simp
  rw [tokens?, hchars, lex_append (by decide) _ ha, hand]
  rfl

theorem tokens?_parenthesised {a : String} {ts : List Token} (h : tokens? a = some ts) :
    tokens? ("(" ++ a ++ ")") = some (.sign '(' :: (ts ++ [.sign ')'])) := by
  have hend : lex (.plain []) [')'] = some [.sign ')'] := rfl
  have hchars : ("(" ++ a ++ ")").toList = '(' :: (a.toList ++ ')' :: []) := by simp
  rw [tokens?, hchars, lex_sign (by decide) (by decide), lex_append (by decide) _ h, hend]
  rfl

/-- A name between quotation marks is one quoted text, or several where marks inside it are doubled. -/
theorem lex_quoteChars {mark : Char} (hword : isWordPart mark = false) (hmark : isQuoteMark mark = true)
    (rest : List Char) : ∀ (name read : List Char), ∃ first names,
      (∀ t ∈ first :: names, ∃ m cs, t = Token.quoted m cs) ∧
      lex (.quoted mark read) (Text.replaceChar mark [mark, mark] name ++ mark :: rest) =
        (lex (.plain []) rest).map (first :: names ++ ·)
  | [], read => by
    refine ⟨.quoted mark read.reverse, [], by simp, ?_⟩
    rw [Text.replaceChar, List.flatMap_nil, List.nil_append, lex_quoted, if_pos rfl]
    rfl
  | c :: name, read => by
    by_cases hc : c = mark
    · obtain ⟨first, names, hquoted, hlex⟩ := lex_quoteChars hword hmark rest name []
      refine ⟨.quoted mark read.reverse, first :: names, ?_, ?_⟩
      · exact List.forall_mem_cons.2 ⟨⟨_, _, rfl⟩, hquoted⟩
      · have hchars : Text.replaceChar mark [mark, mark] (c :: name) ++ mark :: rest =
            mark :: mark :: (Text.replaceChar mark [mark, mark] name ++ mark :: rest) := by
          simp [Text.replaceChar, hc]
        rw [hchars, lex_quoted, if_pos rfl, lex_quoteMark hword hmark, hlex, Option.map_map]
        rfl
    · obtain ⟨first, names, hquoted, hlex⟩ := lex_quoteChars hword hmark rest name (c :: read)
      refine ⟨first, names, hquoted, ?_⟩
      have hchars : Text.replaceChar mark [mark, mark] (c :: name) ++ mark :: rest =
          c :: (Text.replaceChar mark [mark, mark] name ++ mark :: rest) := by
        simp [Text.replaceChar, hc]
      rw [hchars, lex_quoted, if_neg hc, hlex]

/-- The tokens of an equality of a quoted name and a value. -/
theorem tokens?_equality (q : QuoteStyle) (name : String) {value : String} {ts : List Token}
    (h : tokens? value = some ts) : ∃ first names,
      (∀ t ∈ first :: names, ∃ m cs, t = Token.quoted m cs) ∧
      tokens? (q.quote name ++ " = " ++ value) =
        some (first :: (names ++ .sign '=' :: ts)) := by
  have hword : isWordPart q.mark = false := by cases q <;> decide
  have hmark : isQuoteMark q.mark = true := by cases q <;> decide
  have hequals : lex (.plain []) (' ' :: '=' :: ' ' :: value.toList) = some (.sign '=' :: ts) := by
    rw [lex_sign (by decide) (by decide), lex_sign (by decide) (by decide),
      lex_sign (by decide) (by decide), show lex (.plain []) value.toList = some ts from h]
    rfl
  obtain ⟨first, names, hquoted, hlex⟩ :=
    lex_quoteChars hword hmark (' ' :: '=' :: ' ' :: value.toList) name.toList []
  refine ⟨first, names, hquoted, ?_⟩
  have hchars : (q.quote name ++ " = " ++ value).toList =
      q.mark :: (Text.replaceChar q.mark [q.mark, q.mark] name.toList ++
        q.mark :: ' ' :: '=' :: ' ' :: value.toList) := by
    simp [QuoteStyle.quote, QuoteStyle.quoteChars]
  rw [tokens?, hchars, lex_quoteMark hword hmark, hlex, hequals]
  rfl

end Warehouse.Condition
