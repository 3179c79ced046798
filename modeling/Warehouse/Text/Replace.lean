/-!
Replacing every occurrence of a character or of a phrase. Occurrences are found from the left and do
not overlap, and what has been put in is not searched again.
-/

namespace Warehouse.Text

/-- The text with every occurrence of one character replaced. -/
def replaceChar (old : Char) (new : List Char) (cs : List Char) : List Char :=
  cs.flatMap fun c => if c = old then new else [c]

/-- What follows the phrase, when the text starts with it. -/
def afterPhrase? : List Char → List Char → Option (List Char)
  | [], cs => some cs
  | _ :: _, [] => none
  | p :: ps, c :: cs => if p = c then afterPhrase? ps cs else none

/-- What follows a phrase is as much shorter as the phrase is long. -/
theorem length_of_afterPhrase? {phrase cs rest : List Char}
    (h : afterPhrase? phrase cs = some rest) : cs.length = phrase.length + rest.length := by
  induction phrase generalizing cs with
  | nil =>
    cases h
    simp
  | cons p ps ih =>
    cases cs with
    | nil => simp [afterPhrase?] at h
    | cons c cs =>
      unfold afterPhrase? at h
      split at h
      · have := ih h
        simp only [List.length_cons]
        omega
      · simp at h

/-- The text with every occurrence of the phrase `first :: more` replaced. -/
def replacePhrase (first : Char) (more new : List Char) (cs : List Char) : List Char :=
  match cs with
  | [] => []
  | c :: rest =>
    match _h : afterPhrase? (first :: more) (c :: rest) with
    | some after => new ++ replacePhrase first more new after
    | none => c :: replacePhrase first more new rest
termination_by cs.length
decreasing_by
  · have := length_of_afterPhrase? _h
    simp only [List.length_cons] at this ⊢
    omega
  · simp

/-- The text with every single quote doubled. -/
def doubleQuotes (cs : List Char) : List Char := replaceChar '\x27' ['\x27', '\x27'] cs

end Warehouse.Text
