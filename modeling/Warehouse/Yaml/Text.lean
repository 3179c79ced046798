import Warehouse.Document
import Warehouse.Yaml.Cursor

/-!
Scalars in YAML text: plain, between quotes, or as a block. Line breaks inside plain and quoted scalars
fold: a single one becomes a space, and of several the first is dropped. A block keeps its line breaks,
or folds those between lines that are not indented further.
-/

namespace Warehouse.Yaml

/-! ### Gaps between words -/

/-- What stands between two words of a scalar: spaces, or a first line break and those after it. -/
structure Gap where
  spaces : List Char := []
  first : Option (List Char) := none
  more : List Char := []

/-- Whether the gap has a line break. -/
def Gap.hasBreak (g : Gap) : Bool := g.first.isSome

/-- What the gap stands for. -/
def Gap.fold (g : Gap) : List Char :=
  match g.first with
  | none => g.spaces
  | some first => if first = ['\n'] then (if g.more.isEmpty then [' '] else g.more) else first ++ g.more

/-- The rest of a gap and the place behind it. Behind a line break no tab may stand left of the limit. -/
def readGap (limit : Int) : Nat → Gap → Cursor → Option (Gap × Cursor)
  | 0, _, _ => none
  | n + 1, g, c =>
    if c.meets isSpace then
      if g.hasBreak && (c.column : Int) < limit && c.sees '\t' then none
      else
        let spaces := if g.hasBreak then g.spaces else g.spaces ++ c.rest.take 1
        readGap limit n { g with spaces } (c.skip 1)
    else
      match c.lineBreak? with
      | some (char, next) =>
        let g := if g.hasBreak then { g with more := g.more ++ [char] } else { g with first := some [char] }
        readGap limit n g next
      | none => some (g, c)

/-! ### Plain scalars -/

/-- Whether a character has a meaning of its own inside brackets. -/
def isFlowMark (c : Char) : Bool := c == ',' || c == '[' || c == ']' || c == '\x7b' || c == '\x7d'

/-- The word at the start of the text; none if a colon stands where it may not. -/
def plainWord? (inFlow : Bool) : List Char → Option (List Char)
  | [] => some []
  | c :: rest =>
    if isGap c then some []
    else if inFlow && c == ':' && (rest.head?.map fun d => isFlowMark d || d == '?').getD false then none
    else if (c == ':' && endsWord rest) || (inFlow && isFlowMark c) then some []
    else (plainWord? inFlow rest).map (c :: ·)

/-- A plain scalar from one of its words on: its text after what has been taken, the place behind it, and
whether a line break stands before that place. -/
def plainFrom (inFlow : Bool) (limit : Int) :
    Nat → List Char → Gap → Cursor → Option (List Char × Cursor × Bool)
  | 0, _, _, _ => none
  | n + 1, taken, g, c =>
    if c.seesDocumentMark || c.sees '#' then some (taken, c, g.hasBreak)
    else
      match plainWord? inFlow c.rest with
      | none => none
      | some [] => some (taken, c, g.hasBreak)
      | some word =>
        let taken := taken ++ g.fold ++ word
        let c := c.skip word.length
        if c.meets isGap then
          match readGap limit (c.rest.length + 1) {} c with
          | none => none
          | some (g, c) =>
            if !inFlow && (c.column : Int) < limit then some (taken, c, g.hasBreak)
            else plainFrom inFlow limit n taken g c
        else some (taken, c, false)

/-- A plain scalar in a collection of the given indentation. -/
def readPlain (inFlow : Bool) (indent : Int) (c : Cursor) : Option (List Char × Cursor × Bool) :=
  plainFrom inFlow (indent + 1) (c.rest.length + 1) [] {} c

/-! ### Quoted scalars -/

/-- The value of a digit in base 16. -/
def hexDigit? (c : Char) : Option Nat :=
  if c.isDigit then some (c.toNat - '0'.toNat)
  else if 'a' ≤ c && c ≤ 'f' then some (c.toNat - 'a'.toNat + 10)
  else if 'A' ≤ c && c ≤ 'F' then some (c.toNat - 'A'.toNat + 10)
  else none

/-- The character whose number so many digits in base 16 give. -/
def numbered? (digits : Nat) (cs : List Char) : Option (Char × Nat) :=
  let shown := cs.take digits
  if shown.length < digits then none
  else
    match shown.foldlM (fun n d => (hexDigit? d).map (n * 16 + ·)) 0 with
    | some n => if (0xD800 ≤ n && n ≤ 0xDFFF) || n > 0x10FFFF then none else some (Char.ofNat n, digits + 1)
    | none => none

/-- The character that stands behind a backslash, and how many characters give it. -/
def escaped? : List Char → Option (Char × Nat)
  | [] => none
  | c :: rest =>
    match c with
    | '0' => some ('\x00', 1)
    | 'a' => some ('\x07', 1)
    | 'b' => some ('\x08', 1)
    | 't' => some ('\t', 1)
    | '\t' => some ('\t', 1)
    | 'n' => some ('\n', 1)
    | 'v' => some ('\x0b', 1)
    | 'f' => some ('\x0c', 1)
    | 'r' => some ('\r', 1)
    | 'e' => some ('\x1b', 1)
    | ' ' => some (' ', 1)
    | '\x22' => some ('\x22', 1)
    | '/' => some ('/', 1)
    | '\\' => some ('\\', 1)
    | 'N' => some ('\u0085', 1)
    | '_' => some ('\u00a0', 1)
    | 'L' => some ('\u2028', 1)
    | 'P' => some ('\u2029', 1)
    | 'x' => numbered? 2 rest
    | 'u' => numbered? 4 rest
    | 'U' => numbered? 8 rest
    | _ => none

/-- The rest of a scalar between quotes, last character first, and the place behind it. -/
def quotedFrom (quote : Char) : Nat → List Char → Cursor → Option (List Char × Cursor)
  | 0, _, _ => none
  | n + 1, taken, c =>
    if c.seesDocumentMark then none
    else
      match c.rest with
      | [] => none
      | char :: rest =>
        if char = quote then
          if quote = '\x27' && rest.head? == some quote then quotedFrom quote n (quote :: taken) (c.skip 2)
          else some (taken, c.skip 1)
        else if char = '\\' && quote = '\x22' then
          match (c.skip 1).lineBreak? with
          | some (_, next) =>
            match readGap (-1) (next.rest.length + 1) { first := some [] } next with
            | some (g, next) => quotedFrom quote n (g.fold.reverse ++ taken) next
            | none => none
          | none =>
            match escaped? rest with
            | some (e, width) => quotedFrom quote n (e :: taken) (c.skip (width + 1))
            | none => none
        else if isGap char then
          match readGap (-1) (c.rest.length + 1) {} c with
          | some (g, next) => quotedFrom quote n (g.fold.reverse ++ taken) next
          | none => none
        else quotedFrom quote n (char :: taken) (c.skip 1)

/-- The scalar between quotes that starts here. -/
def readQuoted (quote : Char) (c : Cursor) : Option (List Char × Cursor) :=
  (quotedFrom quote (c.rest.length + 1) [] (c.skip 1)).map fun (taken, next) => (taken.reverse, next)

/-! ### Block scalars -/

/-- What becomes of the line breaks at the end of a block. -/
inductive Chomping where
  | strip
  | clip
  | keep
  deriving DecidableEq

/-- The mark for the end of a block. -/
def chomping? : Option Char → Option Chomping
  | some '+' => some .keep
  | some '-' => some .strip
  | _ => none

/-- The width of indentation that a header gives; zero is none. -/
def indentation? (c : Cursor) : Option Nat :=
  (c.peek?.filter Char.isDigit).map fun d => d.toNat - '0'.toNat

/-- The header of a block: its indentation, if given, how it ends, and the place behind. -/
def blockHeader (c : Cursor) : Option (Option Nat × Chomping × Cursor) :=
  let refuseZero (header : Option Nat × Chomping × Cursor) : Option (Option Nat × Chomping × Cursor) :=
    if header.1 = some 0 then none else some header
  match chomping? c.peek? with
  | some chomping =>
    let c := c.skip 1
    match indentation? c with
    | some width => refuseZero (some width, chomping, c.skip 1)
    | none => some (none, chomping, c)
  | none =>
    match indentation? c with
    | some width =>
      let c := c.skip 1
      match chomping? c.peek? with
      | some chomping => refuseZero (some width, chomping, c.skip 1)
      | none => refuseZero (some width, .clip, c)
    | none => some (none, .clip, c)

/-- The empty lines before a line of a block, whose indentation they may have to tell: the indentation,
the line breaks, and the place where the line starts. No tab may stand in the indentation. -/
def blockGap (parent : Int) :
    Nat → Option Nat → Nat → List Char → Cursor → Option (Nat × List Char × Cursor)
  | 0, _, _, _, _ => none
  | n + 1, indent, deepest, breaks, c =>
    let isWithin (column : Nat) : Bool := indent.all (column < ·)
    let spaces := (c.rest.takeWhile (· == ' ')).length
    let c := c.skip ((indent.map fun i => min spaces (i - c.column)).getD spaces)
    let deepest := max deepest c.column
    if isWithin c.column && c.sees '\t' then none
    else
      match c.lineBreak? with
      | some (char, next) => blockGap parent n indent deepest (breaks ++ [char]) next
      | none => some (indent.getD (max (max deepest (parent + 1).toNat) 1), breaks, c)

/-- The lines of a block: the text, the last line break, and the breaks after it. -/
def blockLines (folded : Bool) (parent : Int) (indent : Nat) :
    Nat → List Char → Bool → Option Char → List Char → Cursor →
      Option (List Char × Option Char × List Char × Cursor)
  | 0, _, _, _, _, _ => none
  | n + 1, taken, afterBlank, last, breaks, c =>
    if c.column = indent && !c.rest.isEmpty then
      let startsBlank := c.meets isSpace
      let joint :=
        if folded && last = some '\n' && !afterBlank && !startsBlank then
          if breaks.isEmpty then [' '] else []
        else last.toList
      let (line, c) := c.takeWhile fun char => !isBreak char
      let taken := taken ++ joint ++ breaks ++ line
      let (last, c) := match c.lineBreak? with
        | some (char, next) => (some char, next)
        | none => (none, c)
      match blockGap parent (c.rest.length + 1) (some indent) 0 [] c with
      | some (_, breaks, c) => blockLines folded parent indent n taken startsBlank last breaks c
      | none => none
    else some (taken, last, breaks, c)

/-- The block whose mark has been read, in a collection of the given indentation. -/
def readBlock (folded : Bool) (parent : Int) (c : Cursor) : Option (List Char × Cursor) :=
  match blockHeader c with
  | none => none
  | some (width, chomping, c) =>
    let c := c.skipWhile isSpace
    let c := if c.sees '#' then c.skipWhile fun char => !isBreak char else c
    let start? : Option Cursor := match c.lineBreak? with
      | some (_, next) => some next
      | none => if c.rest.isEmpty then some c else none
    match start? with
    | none => none
    | some c =>
      let indent := width.map fun w => if 0 ≤ parent then parent.toNat + w else w
      match blockGap parent (c.rest.length + 1) indent 0 [] c with
      | none => none
      | some (indent, breaks, c) =>
        match blockLines folded parent indent (c.rest.length + 1) [] false none breaks c with
        | none => none
        | some (taken, last, breaks, c) =>
          let text := match chomping with
            | .strip => taken
            | .clip => taken ++ last.toList
            | .keep => taken ++ last.toList ++ breaks
          some (text, c)

end Warehouse.Yaml
