/-!
Text templates. A slot `{name}` stands for a value, `{name:sq}` and `{name:dq}` for the items of a
value between single or double quotes, and a group `[[...]]` on one line is kept only when all its
slots are bound. What a value says is never read again: the pieces of a template are found before
anything is filled in.
-/

namespace Warehouse.Template

/-- What is written around each item of a value. -/
inductive Quoting where
  | plain
  | single
  | double
  deriving DecidableEq, Repr

/-- A place in a template that a value fills. -/
structure Slot where
  name : List Char
  quoting : Quoting
  deriving DecidableEq, Repr

/-- A template is a list of pieces: characters that stand for themselves, and slots. -/
inductive Piece where
  | char (c : Char)
  | slot (s : Slot)
  deriving DecidableEq, Repr

/-- A value for a slot: a text, or several items. -/
inductive Value where
  | text (s : String)
  | items (l : List String)
  deriving DecidableEq, Repr

/-- The values of the names that are bound. -/
abbrev Context := String → Option Value

/-- Whether a character may begin the name of a slot. -/
def isNameStart (c : Char) : Bool := c.isAlpha || c == '_'

/-- Whether a character may continue the name of a slot. -/
def isNamePart (c : Char) : Bool := c.isAlphanum || c == '_'

/-- What follows the name in a slot: its quoting, where such marks are read, and the brace. -/
def slotEnd? (quotings : Bool) : List Char → Option (Quoting × List Char)
  | '\x7d' :: rest => some (.plain, rest)
  | ':' :: 's' :: 'q' :: '\x7d' :: rest => if quotings then some (.single, rest) else none
  | ':' :: 'd' :: 'q' :: '\x7d' :: rest => if quotings then some (.double, rest) else none
  | _ => none

/-- The slot whose opening brace has been read, and the text behind it. -/
def slot? (quotings : Bool) (cs : List Char) : Option (Slot × List Char) :=
  if (cs.head?.map isNameStart).getD false then
    (slotEnd? quotings (cs.dropWhile isNamePart)).map fun (quoting, rest) =>
      (⟨cs.takeWhile isNamePart, quoting⟩, rest)
  else none

/-- The text behind the end of a slot is shorter. -/
theorem length_of_slotEnd? {quotings : Bool} {cs rest : List Char} {q : Quoting}
    (h : slotEnd? quotings cs = some (q, rest)) : rest.length < cs.length := by
  unfold slotEnd? at h
  split at h
  · cases h
    simp
  · split at h <;> cases h
    simp only [List.length_cons]
    omega
  · split at h <;> cases h
    simp only [List.length_cons]
    omega
  · cases h

/-- The text behind a slot is shorter. -/
theorem length_of_slot? {quotings : Bool} {cs rest : List Char} {s : Slot}
    (h : slot? quotings cs = some (s, rest)) : rest.length < cs.length := by
  unfold slot? at h
  split at h
  · obtain ⟨⟨q, r⟩, hr, he⟩ := Option.map_eq_some_iff.1 h
    have h1 := length_of_slotEnd? hr
    have h2 := (List.dropWhile_suffix (l := cs) isNamePart).length_le
    simp only [Prod.mk.injEq] at he
    obtain ⟨_, rfl⟩ := he
    omega
  · simp at h

/-- The pieces of a text, read from the left. A brace that opens no slot is a plain character. -/
def pieces (quotings : Bool) : List Char → List Piece
  | [] => []
  | c :: rest =>
    if c = '\x7b' then
      match _h : slot? quotings rest with
      | some (s, after) => .slot s :: pieces quotings after
      | none => .char c :: pieces quotings rest
    else .char c :: pieces quotings rest
termination_by cs => cs.length
decreasing_by
  · have := length_of_slot? _h
    simp only [List.length_cons]
    omega
  all_goals simp

/-- How a slot is written in a template. -/
def Slot.chars (s : Slot) : List Char :=
  let mark := match s.quoting with
    | .plain => []
    | .single => [':', 's', 'q']
    | .double => [':', 'd', 'q']
  '\x7b' :: (s.name ++ mark ++ ['\x7d'])

/-- The template text of a slot. -/
def slot (name : String) (quoting : Quoting := .plain) : String :=
  String.ofList (Slot.chars ⟨name.toList, quoting⟩)

/-- The items of a value. -/
def Value.list : Value → List String
  | .text s => [s]
  | .items l => l

/-- A value as it is written under a quoting. -/
def Value.write (v : Value) : Quoting → String
  | .plain => String.intercalate ", " v.list
  | .single => String.intercalate ", " (v.list.map fun i => "'" ++ i ++ "'")
  | .double => String.intercalate ", " (v.list.map fun i => "\"" ++ i ++ "\"")

/-- The value that the context has for a slot. -/
def Context.value? (context : Context) (s : Slot) : Option Value :=
  context (String.ofList s.name)

/-- A piece with its value filled in; a slot without a value stays as it is written. -/
def Piece.fill (context : Context) : Piece → List Char
  | .char c => [c]
  | .slot s =>
    match context.value? s with
    | some v => (v.write s.quoting).toList
    | none => s.chars

/-- Whether the context has a value for the piece. -/
def Piece.isBound (context : Context) : Piece → Bool
  | .char _ => true
  | .slot s => (context.value? s).isSome

/-- A text with its slots filled in. -/
def fill (context : Context) (cs : List Char) : List Char :=
  (pieces true cs).flatMap (Piece.fill context)

/-- A text with its slots filled in when all are bound, and nothing otherwise. -/
def fillGroup (context : Context) (cs : List Char) : List Char :=
  if (pieces true cs).all (Piece.isBound context) then fill context cs else []

/-- A template cut at its groups: the text before the first group, and each group with the text
after it. -/
structure Outline where
  lead : List Char
  groups : List (List Char × List Char)
  deriving DecidableEq, Repr

/-- The inside of a group that has been opened and the text behind its end, which is on the same
line. -/
def group? : List Char → Option (List Char × List Char)
  | [] => none
  | ']' :: ']' :: rest => some ([], rest)
  | c :: rest =>
    if c = '\n' then none
    else (group? rest).map fun (inside, after) => (c :: inside, after)

/-- The text behind a group is shorter. -/
theorem length_of_group? {cs inside after : List Char} (h : group? cs = some (inside, after)) :
    after.length < cs.length := by
  fun_induction group? cs generalizing inside after with
  | case1 => simp at h
  | case2 rest =>
    simp only [Option.some.injEq, Prod.mk.injEq] at h
    obtain ⟨_, rfl⟩ := h
    simp only [List.length_cons]
    omega
  | case3 => simp at h
  | case4 c rest _ _ ih =>
    obtain ⟨⟨i, a⟩, ha, he⟩ := Option.map_eq_some_iff.1 h
    simp only [Prod.mk.injEq] at he
    obtain ⟨_, rfl⟩ := he
    have := ih ha
    simp only [List.length_cons]
    omega

/-- The outline of a template. Two brackets that open no group are plain text. -/
def outline : List Char → Outline
  | [] => ⟨[], []⟩
  | '[' :: '[' :: rest =>
    match _h : group? rest with
    | some (inside, after) =>
      let o := outline after
      ⟨[], (inside, o.lead) :: o.groups⟩
    | none =>
      let o := outline ('[' :: rest)
      ⟨'[' :: o.lead, o.groups⟩
  | c :: rest =>
    let o := outline rest
    ⟨c :: o.lead, o.groups⟩
termination_by cs => cs.length
decreasing_by
  · have := length_of_group? _h
    simp only [List.length_cons]
    omega
  all_goals simp

/-- A template with its slots filled in and its groups kept or dropped. -/
def renderChars (context : Context) (cs : List Char) : List Char :=
  let o := outline cs
  fill context o.lead ++
    o.groups.flatMap fun (inside, after) => fillGroup context inside ++ fill context after

/-- A template with its slots filled in and its groups kept or dropped. -/
def render (template : String) (context : Context) : String :=
  String.ofList (renderChars context template.toList)

/-- A text in which the plain slots that have a parameter are replaced by it. Quoting marks and groups
mean nothing here. -/
def substituteChars (params : String → Option String) (cs : List Char) : List Char :=
  (pieces false cs).flatMap (Piece.fill fun name => (params name).map .text)

/-- A text in which the plain slots that have a parameter are replaced by it. -/
def substitute (text : String) (params : String → Option String) : String :=
  String.ofList (substituteChars params text.toList)

/-- The text of a list of pairs: the first pair of a name gives its parameter. -/
def substitutePairs (text : String) (pairs : List (String × String)) : String :=
  substitute text fun name => pairs.lookup name

end Warehouse.Template
