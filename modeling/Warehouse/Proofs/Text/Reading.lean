import Mathlib.Data.List.Basic
import Warehouse.Vocabulary

/-!
Reading a text from its front. A word ends at the first mark that it cannot hold, a quoted name or a literal
at the first quotation mark that is not doubled, and a list in parentheses at the parenthesis that closes it.
So two texts that start with such a part and go on in the same way as wholes have the same part in front and
the same rest behind it.
-/

namespace Warehouse

namespace Text

/-- Whether the text is empty or starts with one of the marks. -/
def StartsWith (marks : List Char) (cs : List Char) : Prop := ∀ c ∈ cs.head?, c ∈ marks

theorem startsWith_nil (marks : List Char) : StartsWith marks [] := nofun

theorem startsWith_cons {marks : List Char} {c : Char} (h : c ∈ marks) (rest : List Char) :
    StartsWith marks (c :: rest) := by
  rintro _ ⟨⟩
  exact h

theorem StartsWith.mono {marks more cs : List Char} (h : StartsWith marks cs) (hm : marks ⊆ more) :
    StartsWith more cs := fun c hc => hm (h c hc)

/-- A word goes on up to the first of the marks. -/
theorem read_word {marks : List Char} : ∀ {a b r s : List Char}, (∀ c ∈ a, c ∉ marks) →
    (∀ c ∈ b, c ∉ marks) → StartsWith marks r → StartsWith marks s → a ++ r = b ++ s → a = b ∧ r = s
  | [], [], _, _, _, _, _, _, h => ⟨rfl, h⟩
  | [], y :: _, _, _, _, hb, hr, _, h => by
    subst h
    exact absurd (hr y rfl) (hb y List.mem_cons_self)
  | x :: _, [], _, _, ha, _, _, hs, h => by
    subst h
    exact absurd (hs x rfl) (ha x List.mem_cons_self)
  | x :: a, y :: b, _, _, ha, hb, hr, hs, h => by
    obtain ⟨rfl, htail⟩ := List.cons.inj h
    obtain ⟨rfl, hrest⟩ := read_word (fun c hc => ha c (List.mem_cons_of_mem _ hc))
      (fun c hc => hb c (List.mem_cons_of_mem _ hc)) hr hs htail
    exact ⟨rfl, hrest⟩

/-- What follows a phrase is the text without it. -/
theorem afterPhrase?_eq_some {phrase cs rest : List Char} :
    afterPhrase? phrase cs = some rest ↔ cs = phrase ++ rest := by
  induction phrase generalizing cs with
  | nil => simp [afterPhrase?]
  | cons p phrase ih =>
    cases cs with
    | nil => simp [afterPhrase?]
    | cons c cs =>
      rw [afterPhrase?]
      by_cases hp : p = c
      · rw [if_pos hp, ih, hp, List.cons_append, List.cons_inj_right]
      · simp [hp, Ne.symm hp]

/-! ### Doubled marks -/

theorem replaceChar_self (q : Char) (new cs : List Char) :
    replaceChar q new (q :: cs) = new ++ replaceChar q new cs := by
  rw [replaceChar, List.flatMap_cons, if_pos rfl, replaceChar]

theorem replaceChar_other {q c : Char} (h : c ≠ q) (new cs : List Char) :
    replaceChar q new (c :: cs) = c :: replaceChar q new cs := by
  rw [replaceChar, List.flatMap_cons, if_neg h, replaceChar]
  rfl

/-- What stands in front of the first mark that is not doubled, and what follows this mark. A doubled mark
stands for one. -/
def readDoubled? (q : Char) : List Char → Option (List Char × List Char)
  | [] => none
  | [c] => if c = q then some ([], []) else none
  | c :: d :: rest =>
    if c = q then
      if d = q then (readDoubled? q rest).map fun (body, after) => (q :: body, after)
      else some ([], d :: rest)
    else (readDoubled? q (d :: rest)).map fun (body, after) => (c :: body, after)

section Doubled

variable {q : Char}

theorem readDoubled?_close {after : List Char} (h : after.head? ≠ some q) :
    readDoubled? q (q :: after) = some ([], after) := by
  cases after with
  | nil => exact if_pos rfl
  | cons d rest =>
    have hd : d ≠ q := fun hq => h (congrArg some hq)
    rw [readDoubled?, if_pos rfl, if_neg hd]

theorem readDoubled?_doubled (rest : List Char) : readDoubled? q (q :: q :: rest) =
    (readDoubled? q rest).map fun (body, after) => (q :: body, after) := by
  rw [readDoubled?, if_pos rfl, if_pos rfl]

theorem readDoubled?_other {c : Char} (hc : c ≠ q) (rest : List Char) :
    readDoubled? q (c :: rest) = (readDoubled? q rest).map fun (body, after) => (c :: body, after) := by
  cases rest with
  | nil => exact if_neg hc
  | cons d rest => rw [readDoubled?, if_neg hc]

/-- A text is read from its form with all marks doubled and a mark behind it, and from nothing else. -/
theorem readDoubled?_eq_some {cs body after : List Char} : readDoubled? q cs = some (body, after) ↔
    cs = replaceChar q [q, q] body ++ q :: after ∧ after.head? ≠ some q := by
  constructor
  · intro h
    fun_induction readDoubled? q cs generalizing body after with
    | case1 => cases h
    | case2 =>
      cases h
      exact ⟨rfl, nofun⟩
    | case3 => cases h
    | case4 rest ih =>
      obtain ⟨⟨b, a⟩, hrest, he⟩ := Option.map_eq_some_iff.1 h
      obtain ⟨rfl, rfl⟩ := Prod.mk.inj he
      obtain ⟨rfl, hafter⟩ := ih hrest
      exact ⟨by rw [replaceChar_self]; rfl, hafter⟩
    | case5 d rest hd =>
      cases h
      exact ⟨rfl, fun hhead => hd (Option.some.inj hhead)⟩
    | case6 c d rest hc ih =>
      obtain ⟨⟨b, a⟩, hrest, he⟩ := Option.map_eq_some_iff.1 h
      obtain ⟨rfl, rfl⟩ := Prod.mk.inj he
      obtain ⟨htail, hafter⟩ := ih hrest
      exact ⟨by rw [replaceChar_other hc, htail]; rfl, hafter⟩
  · rintro ⟨rfl, hafter⟩
    induction body with
    | nil => exact readDoubled?_close hafter
    | cons c body ih =>
      by_cases hc : c = q
      · rw [hc, replaceChar_self, List.cons_append, List.cons_append, List.cons_append, List.cons_append,
          List.nil_append, readDoubled?_doubled, ih]
        rfl
      · rw [replaceChar_other hc, List.cons_append, readDoubled?_other hc, ih]
        rfl

/-- So a text with its marks doubled is over at the first mark that is not doubled. -/
theorem read_doubled {n m r s : List Char} (hr : r.head? ≠ some q) (hs : s.head? ≠ some q)
    (h : replaceChar q [q, q] n ++ q :: r = replaceChar q [q, q] m ++ q :: s) : n = m ∧ r = s := by
  have hread := readDoubled?_eq_some.2 ⟨h, hs⟩
  rw [readDoubled?_eq_some.2 ⟨rfl, hr⟩] at hread
  exact Prod.mk.inj (Option.some.inj hread)

end Doubled

/-! ### Lists in parentheses -/

section Joined

variable {α : Type} (sep : List Char) (text : α → List Char)

/-- What follows the first item of a list in parentheses. -/
def behind : List α → List Char → List Char
  | [], r => ')' :: r
  | a :: rest, r => sep ++ (text a ++ behind rest r)

theorem intercalate_behind : ∀ (a : α) (l : List α) (r : List Char),
    sep.intercalate ((a :: l).map text) ++ ')' :: r = text a ++ behind sep text l r
  | a, [], r => by simp [behind]
  | a, b :: l, r => by
    rw [behind, ← intercalate_behind b l r, List.map_cons, List.map_cons,
      List.intercalate_cons_cons, List.append_assoc, List.append_assoc]

variable {sep text}

theorem startsWith_behind {rest : List Char} (hsep : sep = ',' :: rest) (l : List α)
    (r : List Char) : StartsWith [',', ')'] (behind sep text l r) := by
  cases l with
  | nil => exact startsWith_cons (by decide) r
  | cons a l =>
    rw [behind, hsep]
    exact startsWith_cons (by decide) _

/-- Where each item can be read, so can all items behind the first. -/
theorem read_behind {rest : List Char} (hsep : sep = ',' :: rest) {R : α → α → Prop}
    {r s : List Char} : ∀ {l m : List α}, (∀ a ∈ l, ∀ b ∈ m, ∀ r s, StartsWith [',', ')'] r →
      StartsWith [',', ')'] s → text a ++ r = text b ++ s → R a b ∧ r = s) →
    behind sep text l r = behind sep text m s → List.Forall₂ R l m ∧ r = s
  | [], [], _, h => ⟨.nil, (List.cons.inj h).2⟩
  | [], b :: m, _, h => by
    rw [behind, behind, hsep] at h
    exact absurd (List.cons.inj h).1 (by decide)
  | a :: l, [], _, h => by
    rw [behind, behind, hsep] at h
    exact absurd (List.cons.inj h).1 (by decide)
  | a :: l, b :: m, hread, h => by
    rw [behind, behind, List.append_cancel_left_eq] at h
    obtain ⟨hab, htail⟩ := hread a List.mem_cons_self b List.mem_cons_self _ _
      (startsWith_behind hsep l r) (startsWith_behind hsep m s) h
    obtain ⟨hrest, hrs⟩ := read_behind hsep
      (fun a ha b hb => hread a (List.mem_cons_of_mem _ ha) b (List.mem_cons_of_mem _ hb)) htail
    exact ⟨.cons hab hrest, hrs⟩

/-- Where each item can be read, so can a list that has any. -/
theorem read_items {rest : List Char} (hsep : sep = ',' :: rest) {R : α → α → Prop}
    {r s : List Char} {l m : List α} (hl : l ≠ []) (hm : m ≠ [])
    (hread : ∀ a ∈ l, ∀ b ∈ m, ∀ r s, StartsWith [',', ')'] r → StartsWith [',', ')'] s →
      text a ++ r = text b ++ s → R a b ∧ r = s)
    (h : sep.intercalate (l.map text) ++ ')' :: r = sep.intercalate (m.map text) ++ ')' :: s) :
    List.Forall₂ R l m ∧ r = s := by
  obtain ⟨a, l, rfl⟩ := List.exists_cons_of_ne_nil hl
  obtain ⟨b, m, rfl⟩ := List.exists_cons_of_ne_nil hm
  rw [intercalate_behind, intercalate_behind] at h
  exact read_behind hsep hread (congrArg (sep ++ ·) h)

/-- Where moreover no item starts with the closing parenthesis, any list can be read. -/
theorem read_joined {rest : List Char} (hsep : sep = ',' :: rest) {R : α → α → Prop}
    {r s : List Char} {l m : List α} (hitem : ∀ a, ∃ c cs, text a = c :: cs ∧ c ≠ ')')
    (hread : ∀ a ∈ l, ∀ b ∈ m, ∀ r s, StartsWith [',', ')'] r → StartsWith [',', ')'] s →
      text a ++ r = text b ++ s → R a b ∧ r = s)
    (h : sep.intercalate (l.map text) ++ ')' :: r = sep.intercalate (m.map text) ++ ')' :: s) :
    List.Forall₂ R l m ∧ r = s := by
  have hopen : ∀ a (k : List α) x y, sep.intercalate ((a :: k).map text) ++ ')' :: x ≠ ')' :: y := by
    intro a k x y hxy
    obtain ⟨c, cs, htext, hc⟩ := hitem a
    rw [intercalate_behind, htext] at hxy
    exact hc (List.cons.inj hxy).1
  cases l with
  | nil =>
    cases m with
    | nil => exact ⟨.nil, (List.cons.inj h).2⟩
    | cons b m => exact absurd h.symm (hopen b m s r)
  | cons a l =>
    cases m with
    | nil => exact absurd h (hopen a l r s)
    | cons b m => exact read_items hsep (List.cons_ne_nil a l) (List.cons_ne_nil b m) hread h

end Joined

end Text

end Warehouse
