import Mathlib.Data.List.Basic
import Warehouse.Proofs.Condition.Tokens

/-!
How the tokens of a condition are read. OR parts them into alternatives and AND parts an alternative into
factors, both outside of parentheses; a factor between parentheses is a condition again, and any other holds of
a row or not. A condition that is put behind others with AND is read as one with them only up to its first OR.
-/

namespace Warehouse.Condition

/-! ### Alternatives and factors -/

/-- Whether the token is this word, in letters of either case. -/
def Token.isWord (word : List Char) : Token → Bool
  | .word cs => cs.map Char.toLower == word
  | _ => false

/-- Whether the token parts alternatives. -/
def Token.isOr (t : Token) : Bool := t.isWord ['o', 'r']

/-- Whether the token parts factors. -/
def Token.isAnd (t : Token) : Bool := t.isWord ['a', 'n', 'd']

/-- How many parentheses are open after the token, when so many are open before it. -/
def Token.depth (d : Nat) (t : Token) : Nat :=
  if t = .sign '(' then d + 1 else if t = .sign ')' then d - 1 else d

/-- The parts between the separators that stand outside of parentheses, when so many are open. -/
def partsFrom (separates : Token → Bool) : Nat → List Token → List (List Token)
  | _, [] => [[]]
  | d, t :: ts =>
    if d = 0 ∧ separates t = true then [] :: partsFrom separates 0 ts
    else (partsFrom separates (t.depth d) ts).modifyHead (t :: ·)

/-- What OR parts. -/
def alternatives (ts : List Token) : List (List Token) := partsFrom Token.isOr 0 ts

/-- What AND parts. -/
def factors (ts : List Token) : List (List Token) := partsFrom Token.isAnd 0 ts

/-- Whether each parenthesis that is closed has been opened and the other way round, when so many are open
at the start. -/
def closedFrom : Nat → List Token → Bool
  | d, [] => d == 0
  | d, t :: ts => !(d == 0 && t == .sign ')') && closedFrom (t.depth d) ts

/-- The inside of a factor that is one pair of parentheses. -/
def group? (ts : List Token) : Option (List Token) :=
  match ts with
  | .sign '(' :: rest =>
    if rest.getLast? = some (.sign ')') ∧ closedFrom 0 rest.dropLast = true then some rest.dropLast
    else none
  | _ => none

theorem length_of_group? {ts inner : List Token} (h : group? ts = some inner) :
    inner.length < ts.length := by
  unfold group? at h
  split at h
  · split at h
    · cases h
      rw [List.length_dropLast, List.length_cons]
      omega
    · cases h
  · cases h

theorem length_of_mem_partsFrom {separates : Token → Bool} {part : List Token} :
    ∀ {ts : List Token} {d : Nat}, part ∈ partsFrom separates d ts → part.length ≤ ts.length
  | [], d, h => by
    rw [partsFrom, List.mem_singleton] at h
    exact h ▸ Nat.le_refl _
  | t :: ts, d, h => by
    rw [partsFrom] at h
    split at h
    · rcases List.mem_cons.1 h with rfl | h
      · exact Nat.zero_le _
      · exact Nat.le_succ_of_le (length_of_mem_partsFrom h)
    · cases hparts : partsFrom separates (t.depth d) ts with
      | nil => rw [hparts] at h; cases h
      | cons first rest =>
        have hlength : ∀ p ∈ first :: rest, p.length ≤ ts.length := fun p hp =>
          length_of_mem_partsFrom (hparts ▸ hp)
        rw [hparts, List.modifyHead_cons] at h
        rcases List.mem_cons.1 h with rfl | h
        · exact Nat.succ_le_succ (hlength _ List.mem_cons_self)
        · exact Nat.le_succ_of_le (hlength _ (List.mem_cons_of_mem _ h))

/-- Whether the condition holds of a row, given which of the factors without parentheses do. -/
def truth (row : List Token → Bool) (ts : List Token) : Bool :=
  (alternatives ts).attach.any fun ⟨a, _ha⟩ =>
    (factors a).attach.all fun ⟨f, _hf⟩ =>
      match _h : group? f with
      | some inner => truth row inner
      | none => row f
termination_by ts.length
decreasing_by
  have h1 := length_of_mem_partsFrom _ha
  have h2 := length_of_mem_partsFrom _hf
  have h3 := length_of_group? _h
  omega

/-- Whether a factor holds of a row. -/
def factorTruth (row : List Token → Bool) (f : List Token) : Bool :=
  match group? f with
  | some inner => truth row inner
  | none => row f

/-- Whether an alternative holds of a row. -/
def alternativeTruth (row : List Token → Bool) (a : List Token) : Bool :=
  (factors a).all (factorTruth row)

theorem truth_eq (row : List Token → Bool) (ts : List Token) :
    truth row ts = (alternatives ts).any (alternativeTruth row) := by
  have hfactor : ∀ f, (match _h : group? f with
      | some inner => truth row inner
      | none => row f) = factorTruth row f := by
    intro f
    rw [factorTruth]
    split <;> simp_all
  rw [truth, Bool.eq_iff_iff]
  simp only [List.any_eq_true, List.all_eq_true, List.mem_attach, true_and, Subtype.exists,
    Subtype.forall, alternativeTruth, exists_prop, true_implies, hfactor]

/-! ### Parts of parts -/

theorem partsFrom_of_not {separates : Token → Bool} {d : Nat} {t : Token}
    (h : ¬ (d = 0 ∧ separates t = true)) (ts : List Token) : partsFrom separates d (t :: ts) =
      (partsFrom separates (t.depth d) ts).modifyHead (t :: ·) := by
  rw [partsFrom, if_neg h]

/-- Nothing parts a part once more. -/
theorem partsFrom_eq_cons (separates : Token → Bool) : ∀ (d : Nat) (ts : List Token),
    ∃ first others, partsFrom separates d ts = first :: others ∧
      partsFrom separates d first = [first] ∧ ∀ o ∈ others, partsFrom separates 0 o = [o]
  | _, [] => ⟨[], [], by rw [partsFrom], by rw [partsFrom], by simp⟩
  | d, t :: ts => by
    by_cases h : d = 0 ∧ separates t = true
    · obtain ⟨first, others, hparts, hfirst, hothers⟩ := partsFrom_eq_cons separates 0 ts
      refine ⟨[], first :: others, by rw [partsFrom, if_pos h, hparts], by rw [partsFrom], ?_⟩
      exact List.forall_mem_cons.2 ⟨hfirst, hothers⟩
    · obtain ⟨first, others, hparts, hfirst, hothers⟩ := partsFrom_eq_cons separates (t.depth d) ts
      refine ⟨t :: first, others, ?_, ?_, hothers⟩
      · rw [partsFrom_of_not h, hparts, List.modifyHead_cons]
      · rw [partsFrom_of_not h, hfirst, List.modifyHead_cons]

/-- A text that nothing parts goes over into the first part of what follows it. -/
theorem partsFrom_append {separates : Token → Bool} : ∀ {d : Nat} {ts : List Token},
    partsFrom separates d ts = [ts] → ∀ rest, partsFrom separates d (ts ++ rest) =
      (partsFrom separates (ts.foldl Token.depth d) rest).modifyHead (ts ++ ·)
  | d, [], _, rest => by
    obtain ⟨first, others, hparts, _⟩ := partsFrom_eq_cons separates d rest
    rw [List.nil_append, List.foldl_nil, hparts, List.modifyHead_cons, List.nil_append]
  | d, t :: ts, h, rest => by
    have hnot : ¬ (d = 0 ∧ separates t = true) := by
      intro hsep
      rw [partsFrom, if_pos hsep] at h
      cases (List.cons.inj h).1
    obtain ⟨first, others, hparts, _⟩ := partsFrom_eq_cons separates (t.depth d) ts
    obtain ⟨first', others', hrest, _⟩ :=
      partsFrom_eq_cons separates (ts.foldl Token.depth (t.depth d)) rest
    rw [partsFrom_of_not hnot, hparts, List.modifyHead_cons, List.cons.injEq, List.cons.injEq] at h
    obtain ⟨⟨_, rfl⟩, rfl⟩ := h
    rw [List.cons_append, partsFrom_of_not hnot, partsFrom_append hparts, List.foldl_cons, hrest]
    rfl

/-- The first alternative and the others. -/
theorem alternatives_eq_cons (ts : List Token) : ∃ first others, alternatives ts = first :: others ∧
    alternatives first = [first] ∧ ∀ o ∈ others, alternatives o = [o] :=
  partsFrom_eq_cons Token.isOr 0 ts

theorem truth_of_alternative {row : List Token → Bool} {ts : List Token} (h : alternatives ts = [ts]) :
    truth row ts = alternativeTruth row ts := by
  rw [truth_eq, h, List.any_cons, List.any_nil, Bool.or_false]

/-- Whether nothing parts the text and all its parentheses are closed. -/
structure Operand (ts : List Token) : Prop where
  depth : ts.foldl Token.depth 0 = 0
  alternative : alternatives ts = [ts]
  factor : factors ts = [ts]

theorem Operand.truth_eq {row : List Token → Bool} {ts : List Token} (h : Operand ts) :
    truth row ts = factorTruth row ts := by
  rw [truth_of_alternative h.alternative, alternativeTruth, h.factor, List.all_cons, List.all_nil,
    Bool.and_true]

/-! ### Conditions joined with AND -/

theorem alternatives_and {ts rest : List Token} (h : Operand ts) :
    alternatives (ts ++ andToken :: rest) =
      (alternatives rest).modifyHead (ts ++ andToken :: ·) := by
  obtain ⟨first, others, hrest, _⟩ := alternatives_eq_cons rest
  rw [hrest, alternatives, partsFrom_append h.alternative, h.depth, partsFrom_of_not (by decide)]
  show ((alternatives rest).modifyHead _).modifyHead _ = _
  rw [hrest]
  rfl

theorem factors_and {ts rest : List Token} (h : Operand ts) :
    factors (ts ++ andToken :: rest) = ts :: factors rest := by
  rw [factors, partsFrom_append h.factor, h.depth, partsFrom, if_pos (by decide),
    List.modifyHead_cons, List.append_nil]
  rfl

/-- Behind a factor and AND a condition is narrowed in its first alternative only. -/
theorem truth_and {row : List Token → Bool} {ts rest : List Token} (h : Operand ts) :
    truth row (ts ++ andToken :: rest) = true ↔
      (truth row ts = true ∧ truth row rest = true) ∨
        ∃ a ∈ (alternatives rest).tail, truth row a = true := by
  obtain ⟨first, others, hrest, _, hothers⟩ := alternatives_eq_cons rest
  have hfirst : alternativeTruth row (ts ++ andToken :: first) =
      (truth row ts && alternativeTruth row first) := by
    rw [h.truth_eq, alternativeTruth, factors_and h, List.all_cons]
    rfl
  have htail : (∃ a ∈ others, alternativeTruth row a = true) ↔ ∃ a ∈ others, truth row a = true :=
    exists_congr fun a => and_congr_right fun ha => by rw [truth_of_alternative (hothers a ha)]
  rw [Condition.truth_eq row (ts ++ _), Condition.truth_eq row rest, alternatives_and h, hrest,
    List.modifyHead_cons, List.any_cons, List.any_cons, List.tail_cons, hfirst, Bool.or_eq_true,
    Bool.or_eq_true, Bool.and_eq_true, List.any_eq_true, htail]
  tauto

/-- Conditions in front of another one, with AND behind each. -/
def conjoin (conditions : List (List Token)) (last : List Token) : List Token :=
  conditions.foldr (fun ts rest => ts ++ andToken :: rest) last

theorem alternatives_conjoin (last : List Token) : ∀ {conditions : List (List Token)},
    (∀ ts ∈ conditions, Operand ts) →
      (alternatives (conjoin conditions last)).tail = (alternatives last).tail
  | [], _ => rfl
  | ts :: conditions, h => by
    obtain ⟨hts, h⟩ := List.forall_mem_cons.1 h
    obtain ⟨first, others, hrest, _⟩ := alternatives_eq_cons (conjoin conditions last)
    have htail := alternatives_conjoin last h
    rw [hrest, List.tail_cons] at htail
    rw [conjoin, List.foldr_cons, ← conjoin, alternatives_and hts, hrest, List.modifyHead_cons,
      List.tail_cons, htail]

/-- Factors in front of a condition narrow its first alternative only. -/
theorem truth_conjoin {row : List Token → Bool} {last : List Token} :
    ∀ {conditions : List (List Token)}, (∀ ts ∈ conditions, Operand ts) →
      (truth row (conjoin conditions last) = true ↔
        ((∀ ts ∈ conditions, truth row ts = true) ∧ truth row last = true) ∨
          ∃ a ∈ (alternatives last).tail, truth row a = true)
  | [], _ => by
    obtain ⟨first, others, hlast, _, hothers⟩ := alternatives_eq_cons last
    have htail : ∀ a ∈ others, truth row a = true → truth row last = true := by
      intro a ha htruth
      rw [Condition.truth_eq, hlast, List.any_cons, Bool.or_eq_true, List.any_eq_true]
      exact .inr ⟨a, ha, by rwa [← truth_of_alternative (hothers a ha)]⟩
    rw [conjoin, List.foldr_nil, hlast, List.tail_cons]
    simp only [List.not_mem_nil, false_implies, implies_true, true_and]
    exact ⟨.inl, fun h => h.elim id fun ⟨a, ha, htruth⟩ => htail a ha htruth⟩
  | ts :: conditions, h => by
    obtain ⟨hts, h⟩ := List.forall_mem_cons.1 h
    rw [conjoin, List.foldr_cons, ← conjoin, truth_and hts, truth_conjoin h, alternatives_conjoin last h,
      List.forall_mem_cons]
    tauto

/-! ### Parentheses -/

theorem partsFrom_closed {separates : Token → Bool} (h : separates (.sign ')') = false) :
    ∀ {d : Nat} {ts : List Token}, closedFrom d ts = true →
      partsFrom separates (d + 1) (ts ++ [.sign ')']) = [ts ++ [.sign ')']] ∧
        (ts ++ [Token.sign ')']).foldl Token.depth (d + 1) = 0
  | d, [], hclosed => by
    obtain rfl : d = 0 := by simpa [closedFrom] using hclosed
    refine ⟨?_, rfl⟩
    rw [List.nil_append, partsFrom_of_not (by simp)]
    rfl
  | d, t :: ts, hclosed => by
    rw [closedFrom, Bool.and_eq_true, Bool.not_eq_true', Bool.and_eq_false_iff] at hclosed
    obtain ⟨hopen, hclosed⟩ := hclosed
    have hdepth : t.depth (d + 1) = t.depth d + 1 := by
      rw [Token.depth, Token.depth]
      split
      · rfl
      · split
        · next hclose =>
          have hpos : d ≠ 0 := by simpa [hclose] using hopen
          omega
        · rfl
    obtain ⟨hparts, hfold⟩ := partsFrom_closed h hclosed
    refine ⟨?_, ?_⟩
    · rw [List.cons_append, partsFrom_of_not (by simp), hdepth, hparts, List.modifyHead_cons]
    · rw [List.cons_append, List.foldl_cons, hdepth, hfold]

/-- Between parentheses a condition is one operand, and says the same. -/
theorem operand_parenthesised {ts : List Token} (h : closedFrom 0 ts = true) :
    Operand (.sign '(' :: (ts ++ [.sign ')'])) := by
  have hparts : ∀ separates : Token → Bool, separates (.sign '(') = false →
      separates (.sign ')') = false →
      partsFrom separates 0 (.sign '(' :: (ts ++ [.sign ')'])) = [.sign '(' :: (ts ++ [.sign ')'])] := by
    intro separates hopen hclose
    have hdepth : (Token.sign '(').depth 0 = 0 + 1 := rfl
    rw [partsFrom_of_not (by simp [hopen]), hdepth, (partsFrom_closed hclose h).1,
      List.modifyHead_cons]
  refine ⟨?_, hparts Token.isOr rfl rfl, hparts Token.isAnd rfl rfl⟩
  exact (@partsFrom_closed Token.isOr rfl 0 ts h).2

theorem truth_parenthesised {row : List Token → Bool} {ts : List Token} (h : closedFrom 0 ts = true) :
    truth row (.sign '(' :: (ts ++ [.sign ')'])) = truth row ts := by
  have hgroup : group? (.sign '(' :: (ts ++ [.sign ')'])) = some ts := by
    rw [group?, List.getLast?_concat, List.dropLast_concat, if_pos ⟨rfl, h⟩]
  rw [(operand_parenthesised h).truth_eq, factorTruth, hgroup]

/-! ### Comparisons -/

/-- Whether the token neither parts a condition nor is a parenthesis. -/
structure Token.Neutral (t : Token) : Prop where
  isOr : t.isOr = false
  isAnd : t.isAnd = false
  depth : t.depth 0 = 0

theorem Operand.cons {t : Token} (ht : t.Neutral) {ts : List Token} (h : Operand ts) :
    Operand (t :: ts) := by
  refine ⟨?_, ?_, ?_⟩
  · rw [List.foldl_cons, ht.depth, h.depth]
  · rw [alternatives, partsFrom_of_not (by simp [ht.isOr]), ht.depth]
    exact congrArg _ h.alternative
  · rw [factors, partsFrom_of_not (by simp [ht.isAnd]), ht.depth]
    exact congrArg _ h.factor

theorem Operand.append {names : List Token} (hnames : ∀ t ∈ names, t.Neutral) {ts : List Token}
    (h : Operand ts) : Operand (names ++ ts) := by
  induction names with
  | nil => exact h
  | cons t rest ih =>
    obtain ⟨ht, hrest⟩ := List.forall_mem_cons.1 hnames
    exact .cons ht (ih hrest)

/-- The equality of a quoted name and an operand is an operand, and an atom. -/
theorem operand_equality (q : QuoteStyle) (name : String) {value : String} {ts : List Token}
    (hvalue : tokens? value = some ts) (h : Operand ts) : ∃ equality,
      tokens? (q.quote name ++ " = " ++ value) = some equality ∧ Operand equality ∧
        group? equality = none := by
  obtain ⟨first, names, hquoted, htokens⟩ := tokens?_equality q name hvalue
  have hneutral : ∀ t ∈ first :: names, t.Neutral := by
    intro t ht
    obtain ⟨m, cs, rfl⟩ := hquoted t ht
    exact ⟨rfl, rfl, rfl⟩
  refine ⟨_, htokens, ?_, ?_⟩
  · have hsign : Operand (.sign '=' :: ts) := .cons ⟨rfl, rfl, rfl⟩ h
    exact Operand.append hneutral hsign
  · obtain ⟨m, cs, rfl⟩ := hquoted first List.mem_cons_self
    rfl

/-! ### Atoms -/

/-- Whether the factor is one of the condition, at any depth, that is no condition itself. -/
inductive AtomOf : List Token → List Token → Prop
  | factor {ts a f : List Token} (ha : a ∈ alternatives ts) (hf : f ∈ factors a)
      (h : group? f = none) : AtomOf ts f
  | inner {ts a f inside g : List Token} (ha : a ∈ alternatives ts) (hf : f ∈ factors a)
      (h : group? f = some inside) (hg : AtomOf inside g) : AtomOf ts g

/-- A condition has no negation: where all of its atoms hold it holds too. -/
theorem truth_of_atoms {row : List Token → Bool} (ts : List Token)
    (h : ∀ f, AtomOf ts f → row f = true) : truth row ts = true := by
  obtain ⟨first, others, hparts, _⟩ := alternatives_eq_cons ts
  have hfirst : first ∈ alternatives ts := hparts ▸ List.mem_cons_self
  rw [truth_eq, List.any_eq_true]
  refine ⟨first, hfirst, List.all_eq_true.2 fun f hf => ?_⟩
  rw [factorTruth]
  split
  · next inside hinside =>
    have h1 := length_of_mem_partsFrom hfirst
    have h2 := length_of_mem_partsFrom hf
    have h3 := length_of_group? hinside
    exact truth_of_atoms inside fun g hg => h g (.inner hfirst hf hinside hg)
  · next hnone => exact h f (.factor hfirst hf hnone)
termination_by ts.length

end Warehouse.Condition
