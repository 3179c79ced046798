import Warehouse.Yaml.Text

/-!
The tokens of YAML text: marks of collections and their entries, properties of nodes, and scalars. In
block style indentation opens and closes collections. What stands before a colon on one line may turn
out to be a key; then the token for a key is put in front of it afterwards, and in front of that the
start of a mapping if the key opens one.
-/

namespace Warehouse.Yaml

/-- A token of YAML text. -/
inductive Token where
  | versionDirective (major minor : Nat)
  | tagDirective (handle tagPrefix : List Char)
  | documentStart
  | documentEnd
  | blockSequenceStart
  | blockMappingStart
  | blockEnd
  | flowSequenceStart
  | flowSequenceEnd
  | flowMappingStart
  | flowMappingEnd
  | blockEntry
  | flowEntry
  | key
  | value
  | reference (name : List Char)
  | anchor (name : List Char)
  | tag (handle suffix : List Char)
  | scalar (style : ScalarStyle) (text : List Char)
  deriving DecidableEq

/-- A place that may turn out to start a key: how many tokens stand before it, whether a key is needed
there, and where it is. -/
structure KeyStart where
  tokens : Nat
  isNeeded : Bool
  line : Nat
  column : Nat
  index : Nat

/-- The state of reading tokens. The innermost level of brackets comes first in `keys`, and the
innermost of the enclosing indentations first in `indents`. -/
structure Scanner where
  cursor : Cursor
  tokens : Array Token := #[]
  indent : Int := -1
  indents : List Int := []
  keys : List (Option KeyStart) := [none]
  keyAllowed : Bool := true

namespace Scanner

/-- Whether the place is inside brackets. -/
def inFlow (s : Scanner) : Bool := s.keys.length > 1

/-- The state with one more token, and behind the text of it. -/
def emit (s : Scanner) (t : Token) (cursor : Cursor) : Scanner :=
  { s with tokens := s.tokens.push t, cursor }

/-! ### Keys and indentation -/

/-- The state without a start of a key on this level; none if a key is needed there. -/
def dropKey (s : Scanner) : Option Scanner :=
  match s.keys with
  | some k :: rest => if k.isNeeded then none else some { s with keys := none :: rest }
  | _ => some s

/-- Whether a start of a key is too far back: a key ends on its line, within 1024 characters. -/
def isStale (c : Cursor) (k : KeyStart) : Bool := k.line < c.line || k.index + 1024 < c.index

/-- The state without the starts of keys that are too far back; none if a key is needed at one. -/
def dropStaleKeys (s : Scanner) : Option Scanner :=
  if s.keys.any fun k => k.any fun k => isStale s.cursor k && k.isNeeded then none
  else some { s with keys := s.keys.map fun k => k.filter fun k => !isStale s.cursor k }

/-- The state in which a key may start here, where keys are allowed. -/
def saveKey (s : Scanner) : Option Scanner :=
  if s.keyAllowed then
    s.dropKey.map fun t =>
      let c := s.cursor
      let start : KeyStart :=
        { tokens := s.tokens.size
          isNeeded := !s.inFlow && s.indent == c.column
          line := c.line
          column := c.column
          index := c.index }
      { t with keys := some start :: t.keys.tail }
  else some s

/-- The state in which the collections indented further than the column are closed. -/
def unroll (column : Int) : List Int → Scanner → Scanner
  | [], s => s
  | outer :: rest, s =>
    if s.indent > column then
      unroll column rest { s with tokens := s.tokens.push .blockEnd, indent := outer, indents := rest }
    else s

/-- The state in which the collections indented further than the column are closed; brackets keep them
open. -/
def unrollTo (s : Scanner) (column : Int) : Scanner :=
  if s.inFlow then s else unroll column s.indents s

/-- The state in which a collection starts at the column, if it is indented further than the one around
it; its token stands in front of the given number of tokens. -/
def roll (s : Scanner) (column : Nat) (position : Nat) (start : Token) : Scanner :=
  if s.inFlow || s.indent ≥ column then s
  else
    { s with
      tokens := s.tokens.insertIdxIfInBounds position start
      indents := s.indent :: s.indents
      indent := column }

/-! ### Marks -/

/-- The state behind blanks, comments and line breaks. Tabs count as blanks where no key may start. -/
def skipBlanks : Nat → Scanner → Scanner
  | 0, s => s
  | n + 1, s =>
    let c := s.cursor
    let c := if c.column == 0 && c.sees '\ufeff' then c.skip 1 else c
    let c := c.skipWhile fun char => char == ' ' || ((s.inFlow || !s.keyAllowed) && char == '\t')
    let c := if c.sees '#' then c.skipWhile fun char => !isBreak char else c
    match c.lineBreak? with
    | some (_, next) => skipBlanks n { s with cursor := next, keyAllowed := s.keyAllowed || !s.inFlow }
    | none => { s with cursor := c }

/-- All collections closed, before a mark between documents or a directive. -/
def closeAll (s : Scanner) : Option Scanner :=
  (s.unrollTo (-1)).dropKey.map fun s => { s with keyAllowed := false }

/-- A mark between documents. -/
def scanDocumentMark (s : Scanner) (t : Token) : Option Scanner :=
  s.closeAll.map fun s => s.emit t (s.cursor.skip 3)

/-- A bracket that opens a collection. -/
def scanFlowStart (s : Scanner) (t : Token) : Option Scanner :=
  s.saveKey.map fun s => { s.emit t (s.cursor.skip 1) with keys := none :: s.keys, keyAllowed := true }

/-- A bracket that closes a collection. -/
def scanFlowEnd (s : Scanner) (t : Token) : Option Scanner :=
  s.dropKey.map fun s =>
    { s.emit t (s.cursor.skip 1) with
      keys := if s.inFlow then s.keys.tail else s.keys
      keyAllowed := false }

/-- A comma between entries. -/
def scanFlowEntry (s : Scanner) : Option Scanner :=
  s.dropKey.map fun s => { s.emit .flowEntry (s.cursor.skip 1) with keyAllowed := true }

/-- Where an entry, a key or a value is marked in block style, a collection may start. -/
def rollHere (s : Scanner) (start : Token) : Option Scanner :=
  if s.inFlow then some s
  else if s.keyAllowed then some (s.roll s.cursor.column s.tokens.size start)
  else none

/-- A dash before an entry. -/
def scanBlockEntry (s : Scanner) : Option Scanner :=
  (s.rollHere .blockSequenceStart).bind fun s =>
    s.dropKey.map fun s => { s.emit .blockEntry (s.cursor.skip 1) with keyAllowed := true }

/-- A question mark before a key. -/
def scanKey (s : Scanner) : Option Scanner :=
  (s.rollHere .blockMappingStart).bind fun s =>
    s.dropKey.map fun s => { s.emit .key (s.cursor.skip 1) with keyAllowed := !s.inFlow }

/-- A colon before a value: behind a key on the same line, or behind one marked as such. -/
def scanValue (s : Scanner) : Option Scanner :=
  match s.keys with
  | some k :: rest =>
    let s := { s with tokens := s.tokens.insertIdxIfInBounds k.tokens .key, keys := none :: rest }
    let s := s.roll k.column k.tokens .blockMappingStart
    some { s.emit .value (s.cursor.skip 1) with keyAllowed := false }
  | _ =>
    (s.rollHere .blockMappingStart).map fun s =>
      { s.emit .value (s.cursor.skip 1) with keyAllowed := !s.inFlow }

/-! ### Directives and properties -/

/-- Whether a character may stand in a name. -/
def isNameChar (c : Char) : Bool := c.isAlphanum || c == '_' || c == '-'

/-- A number of at most nine digits. -/
def versionNumber? (c : Cursor) : Option (Nat × Cursor) :=
  let (digits, next) := c.takeWhile Char.isDigit
  if digits.isEmpty || digits.length > 9 then none
  else some (digits.foldl (fun n d => n * 10 + (d.toNat - '0'.toNat)) 0, next)

/-- Whether a character may stand in a tag; more may where the tag is between angle brackets or in a
directive. -/
def isTagChar (wide : Bool) (c : Char) : Bool :=
  isNameChar c || ";/?:@&=+$.%!~*'()".toList.contains c || (wide && (c == ',' || c == '[' || c == ']'))

/-- A byte that two digits in base 16 give behind a percent sign. -/
def escapedByte? : List Char → Option (Nat × List Char)
  | '%' :: a :: b :: rest =>
    match hexDigit? a, hexDigit? b with
    | some a, some b => some (a * 16 + b, rest)
    | _, _ => none
  | _ => none

/-- The bytes that continue a character. -/
def continuation? : Nat → Nat → List Char → Option (Nat × List Char)
  | 0, n, cs => some (n, cs)
  | k + 1, n, cs =>
    match escapedByte? cs with
    | some (b, rest) =>
      if 0x80 ≤ b && b < 0xC0 then continuation? k (n * 64 + (b - 0x80)) rest else none
    | none => none

/-- The character that escaped bytes give, first byte first. -/
def escapedChar? (cs : List Char) : Option (Char × List Char) :=
  match escapedByte? cs with
  | none => none
  | some (b, rest) =>
    let decoded? :=
      if b < 0x80 then some (b, rest)
      else if 0xC0 ≤ b && b < 0xE0 then continuation? 1 (b - 0xC0) rest
      else if 0xE0 ≤ b && b < 0xF0 then continuation? 2 (b - 0xE0) rest
      else if 0xF0 ≤ b && b < 0xF8 then continuation? 3 (b - 0xF0) rest
      else none
    decoded?.map fun (n, rest) => (Char.ofNat n, rest)

/-- A tag with its escaped bytes decoded. -/
def decodeTag : Nat → List Char → Option (List Char)
  | _, [] => some []
  | 0, _ => none
  | n + 1, c :: rest =>
    if c = '%' then
      (escapedChar? (c :: rest)).bind fun (d, rest) => (decodeTag n rest).map (d :: ·)
    else (decodeTag n rest).map (c :: ·)

/-- The characters of a tag and the place behind them. -/
def tagText? (wide : Bool) (c : Cursor) : Option (List Char × Cursor) :=
  let (shown, next) := c.takeWhile (isTagChar wide)
  (decodeTag shown.length shown).map fun text => (text, next)

/-- A handle at the start of a tag, with the exclamation marks around it: the second is missing when it
is no handle. -/
def tagHandle? (c : Cursor) : Option (List Char × Cursor) :=
  if c.sees '!' then
    let (name, next) := (c.skip 1).takeWhile isNameChar
    if next.sees '!' then some ('!' :: (name ++ ['!']), next.skip 1) else some ('!' :: name, next)
  else none

/-- The place behind the rest of a directive's line, on which only a comment may stand. -/
def endOfDirective? (c : Cursor) : Option Cursor :=
  let c := c.skipWhile isSpace
  let c := if c.sees '#' then c.skipWhile fun char => !isBreak char else c
  match c.lineBreak? with
  | some (_, next) => some next
  | none => if c.rest.isEmpty then some c else none

/-- The version that a directive asks for. -/
def version? (c : Cursor) : Option (Token × Cursor) :=
  (versionNumber? (c.skipWhile isSpace)).bind fun (major, c) =>
    if c.sees '.' then
      (versionNumber? (c.skip 1)).map fun (minor, c) => (.versionDirective major minor, c)
    else none

/-- The handle that a directive defines. -/
def tagDefinition? (c : Cursor) : Option (Token × Cursor) :=
  (tagHandle? (c.skipWhile isSpace)).bind fun (handle, c) =>
    if (handle.getLast? == some '!') && c.meets isSpace then
      (tagText? true (c.skipWhile isSpace)).bind fun (text, c) =>
        if !text.isEmpty && endsWord c.rest then some (.tagDirective handle text, c) else none
    else none

/-- A directive. -/
def scanDirective (s : Scanner) : Option Scanner :=
  s.closeAll.bind fun s =>
    let (name, c) := (s.cursor.skip 1).takeWhile isNameChar
    let directive? :=
      if !endsWord c.rest then none
      else if name = "YAML".toList then version? c
      else if name = "TAG".toList then tagDefinition? c
      else none
    directive?.bind fun (t, c) => (endOfDirective? c).map fun c => s.emit t c

/-- Whether a name of an anchor ends before these characters. -/
def endsName : List Char → Bool
  | [] => true
  | c :: _ => isGap c || "?:,]\x7d%@\x60".toList.contains c

/-- An anchor, or a reference to one. -/
def scanAnchor (s : Scanner) (t : List Char → Token) : Option Scanner :=
  s.saveKey.bind fun s =>
    let (name, c) := (s.cursor.skip 1).takeWhile isNameChar
    if name.isEmpty || !endsName c.rest then none
    else some { s.emit (t name) c with keyAllowed := false }

/-- The parts of a tag: its handle and what follows it. -/
def tagParts? (c : Cursor) : Option (List Char × List Char × Cursor) :=
  match c.rest with
  | '!' :: '<' :: _ =>
    (tagText? true (c.skip 2)).bind fun (text, c) =>
      if !text.isEmpty && c.sees '>' then some ([], text, c.skip 1) else none
  | _ =>
    (tagHandle? c).bind fun (handle, c) =>
      (tagText? false c).bind fun (text, c) =>
        if handle.length > 1 && handle.getLast? == some '!' then
          if text.isEmpty then none else some (handle, text, c)
        else
          let suffix := handle.tail ++ text
          if suffix.isEmpty then some ([], ['!'], c) else some (['!'], suffix, c)

/-- A tag. -/
def scanTag (s : Scanner) : Option Scanner :=
  s.saveKey.bind fun s =>
    (tagParts? s.cursor).bind fun (handle, suffix, c) =>
      if endsWord c.rest || (s.inFlow && c.sees ',') then
        some { s.emit (.tag handle suffix) c with keyAllowed := false }
      else none

/-! ### Scalars -/

/-- A block scalar. -/
def scanBlock (s : Scanner) (folded : Bool) : Option Scanner :=
  s.dropKey.bind fun s =>
    (readBlock folded s.indent (s.cursor.skip 1)).map fun (text, c) =>
      { s.emit (.scalar (if folded then .other else .literal) text) c with keyAllowed := true }

/-- A scalar between quotes. -/
def scanQuoted (s : Scanner) (quote : Char) : Option Scanner :=
  s.saveKey.bind fun s =>
    (readQuoted quote s.cursor).map fun (text, c) =>
      { s.emit (.scalar .other text) c with keyAllowed := false }

/-- A plain scalar. -/
def scanPlain (s : Scanner) : Option Scanner :=
  s.saveKey.bind fun s =>
    (readPlain s.inFlow s.indent s.cursor).map fun (text, c, hasBreak) =>
      { s.emit (.scalar .plain text) c with keyAllowed := hasBreak }

/-- Whether a plain scalar can start with these characters. -/
def startsPlain (inFlow : Bool) : List Char → Bool
  | [] => false
  | c :: rest =>
    !(isGap c || "-?:,[]\x7b\x7d#&*!|>'\"%@\x60".toList.contains c) ||
      (c == '-' && !(rest.head?.map isSpace).getD false) ||
      (!inFlow && (c == '?' || c == ':') && !endsWord rest)

/-- The state behind the next token, at whose first character it is. -/
def scanToken (s : Scanner) : Option Scanner :=
  let c := s.cursor
  match c.rest with
  | [] => none
  | char :: rest =>
    if c.column == 0 && char == '%' then s.scanDirective
    else if c.seesDocumentMark then
      s.scanDocumentMark (if char == '-' then .documentStart else .documentEnd)
    else if char == '[' then s.scanFlowStart .flowSequenceStart
    else if char == '\x7b' then s.scanFlowStart .flowMappingStart
    else if char == ']' then s.scanFlowEnd .flowSequenceEnd
    else if char == '\x7d' then s.scanFlowEnd .flowMappingEnd
    else if char == ',' then s.scanFlowEntry
    else if char == '-' && endsWord rest then s.scanBlockEntry
    else if char == '?' && (s.inFlow || endsWord rest) then s.scanKey
    else if char == ':' && (s.inFlow || endsWord rest) then s.scanValue
    else if char == '*' then s.scanAnchor .reference
    else if char == '&' then s.scanAnchor .anchor
    else if char == '!' then s.scanTag
    else if char == '|' && !s.inFlow then s.scanBlock false
    else if char == '>' && !s.inFlow then s.scanBlock true
    else if char == '\x27' || char == '\x22' then s.scanQuoted char
    else if startsPlain s.inFlow c.rest then s.scanPlain
    else none

/-- The state at the end of the text. Each step reads a token of at least one character. -/
def scanAll : Nat → Scanner → Option Scanner
  | 0, _ => none
  | n + 1, s =>
    (skipBlanks (s.cursor.rest.length + 1) s).dropStaleKeys.bind fun s =>
      if s.cursor.rest.isEmpty then (s.unrollTo (-1)).dropKey
      else (s.unrollTo s.cursor.column).scanToken.bind (scanAll n)

end Scanner

/-- The tokens of a text; a mark of the byte order may stand in front. -/
def tokens? (cs : List Char) : Option (List Token) :=
  if cs.all isAllowed then
    let text := match cs with
      | '\ufeff' :: rest => rest
      | _ => cs
    (Scanner.scanAll (text.length + 1) { cursor := { rest := text } }).map (·.tokens.toList)
  else none

end Warehouse.Yaml
