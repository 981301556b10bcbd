import PoolExit.Yaml.Scalar
import PoolExit.Yaml.Token

/-!
# From text to tokens

The scanner goes through a text once.  Outside of flow collections it keeps the columns of the open
block collections.  A scalar may turn out to be the key of a mapping only when a colon follows, so
the place where its key token would go is remembered until then: the key has to end on the line where
it starts, within 1024 bytes.
-/

namespace PoolExit.Yaml

/-- A place where a key may have started. -/
structure KeySlot where
  /-- Whether there is nothing else that could stand there. -/
  required : Bool
  /-- The number of tokens before the key. -/
  place : Nat
  start : Cursor

/-- The state of the scanner. -/
structure Scanner where
  cursor : Cursor
  /-- The tokens so far. -/
  tokens : Array Token := #[]
  /-- The columns of the open block collections, innermost first. -/
  indents : List Nat := []
  /-- Whether a key may start here. -/
  keyAllowed : Bool := true
  /-- Where a key may have started, outside of flow collections. -/
  slot : Option KeySlot := none
  /-- Where a key may have started, for each open flow collection, innermost first. -/
  flowSlots : List (Option KeySlot) := []

namespace Scanner

/-- Whether a flow collection is open. -/
def inFlow (s : Scanner) : Bool := !s.flowSlots.isEmpty

/-- The column of the innermost open block collection; -1 where none is open. -/
def indent (s : Scanner) : Int :=
  match s.indents with
  | [] => -1
  | n :: _ => n

/-- The place where a key may have started, in the innermost open collection. -/
def currentSlot (s : Scanner) : Option KeySlot :=
  match s.flowSlots with
  | [] => s.slot
  | slot :: _ => slot

/-- Sets the place where a key may have started, in the innermost open collection. -/
def withSlot (s : Scanner) (slot : Option KeySlot) : Scanner :=
  match s.flowSlots with
  | [] => { s with slot }
  | _ :: rest => { s with flowSlots := slot :: rest }

/-- Appends a token. -/
def emit (s : Scanner) (t : Token) : Scanner := { s with tokens := s.tokens.push t }

/-- A fault at the scanner's place. -/
def fault {α : Type} (s : Scanner) (reason : String) : Except Fault α := s.cursor.fault reason

/-- Forgets the place where a key may have started. -/
def dropSlot (s : Scanner) : Except Fault Scanner :=
  match s.currentSlot with
  | some slot =>
    if slot.required then s.fault "could not find expected ':'" else .ok (s.withSlot none)
  | none => .ok s

/-- Remembers that a key may start here. -/
def saveSlot (s : Scanner) : Except Fault Scanner :=
  if s.keyAllowed then do
    let s ← s.dropSlot
    let required := !s.inFlow && s.indent == (s.cursor.column : Int)
    return s.withSlot (some ⟨required, s.tokens.size, s.cursor⟩)
  else .ok s

/-- The greatest length of a key, in bytes. -/
def maxKeyLength : Nat := 1024

/-- Whether a key that started at a place would have to have ended. -/
def isStale (s : Scanner) (slot : KeySlot) : Bool :=
  slot.start.line < s.cursor.line || slot.start.index + maxKeyLength < s.cursor.index

/-- Forgets a place where a key started too far back. -/
def refresh (s : Scanner) : Option KeySlot → Except Fault (Option KeySlot)
  | none => .ok none
  | some slot =>
    if s.isStale slot then
      if slot.required then s.fault "could not find expected ':'" else .ok none
    else .ok (some slot)

/-- Forgets all places where a key started too far back. -/
def dropStale (s : Scanner) : Except Fault Scanner := do
  let slot ← s.refresh s.slot
  let flowSlots ← s.flowSlots.mapM s.refresh
  return { s with slot, flowSlots }

/-- Opens a block collection at a column, if none is open there or further to the right; its start
goes to the given place. -/
def openBlock (s : Scanner) (column place : Nat) (start : Token) : Scanner :=
  if s.inFlow || (column : Int) ≤ s.indent then s
  else { s with
    indents := column :: s.indents
    tokens := s.tokens.insertIdxIfInBounds place start }

/-- Closes the block collections to the right of a column, given those that are open. -/
def closeAll (column : Int) (s : Scanner) : List Nat → Scanner
  | [] => { s with indents := [] }
  | n :: rest =>
    if column < (n : Int) then closeAll column (s.emit .blockEnd) rest
    else { s with indents := n :: rest }

/-- Closes the block collections to the right of a column. -/
def closeBlocks (s : Scanner) (column : Int) : Scanner :=
  if s.inFlow then s else closeAll column s s.indents

/-- Goes past blanks, comments, ends of lines and byte order marks at the start of lines.  A tab counts
as a blank only where it cannot be taken for indentation. -/
def skipToToken : (fuel : Nat) → Scanner → Scanner
  | 0, s => s
  | fuel + 1, s =>
    let tabs := s.inFlow || !s.keyAllowed
    let blank := fun d => d == ' ' || (tabs && d == '\t')
    let c := (s.cursor.skipByteOrderMark.span blank).2.skipComment
    if c.head?.any isBreak then
      skipToToken fuel
        { s with cursor := c.skipBreak, keyAllowed := s.keyAllowed || !s.inFlow }
    else { s with cursor := c }

/-! ## Single tokens -/

/-- Takes a token of `n` characters after which a key may or may not start. -/
def take (s : Scanner) (t : Token) (n : Nat) (keyAllowed : Bool) : Scanner :=
  { s.emit t with cursor := s.cursor.skip n, keyAllowed }

/-- The end of the text. -/
def streamEnd (s : Scanner) : Except Fault Scanner := do
  let s := s.closeBlocks (-1)
  let s ← s.dropSlot
  return { s.emit .streamEnd with keyAllowed := false }

/-- A mark between documents. -/
def documentMark (s : Scanner) (t : Token) : Except Fault Scanner := do
  let s ← (s.closeBlocks (-1)).dropSlot
  return s.take t 3 false

/-- The start of a flow collection. -/
def flowStart (s : Scanner) (t : Token) : Except Fault Scanner := do
  let s ← s.saveSlot
  return { s.take t 1 true with flowSlots := none :: s.flowSlots }

/-- The end of a flow collection. -/
def flowEnd (s : Scanner) (t : Token) : Except Fault Scanner := do
  let s ← s.dropSlot
  return { s.take t 1 false with flowSlots := s.flowSlots.drop 1 }

/-- The comma between the entries of a flow collection. -/
def flowEntry (s : Scanner) : Except Fault Scanner := do
  let s ← s.dropSlot
  return s.take .flowEntry 1 true

/-- The sign of an entry of a block sequence. -/
def blockEntry (s : Scanner) : Except Fault Scanner := do
  if !s.inFlow && !s.keyAllowed then
    s.fault "block sequence entries are not allowed in this context"
  let s := s.openBlock s.cursor.column s.tokens.size .blockSequenceStart
  let s ← s.dropSlot
  return s.take .blockEntry 1 true

/-- The sign of a key. -/
def key (s : Scanner) : Except Fault Scanner := do
  if !s.inFlow && !s.keyAllowed then s.fault "mapping keys are not allowed in this context"
  let s := s.openBlock s.cursor.column s.tokens.size .blockMappingStart
  let s ← s.dropSlot
  return s.take .key 1 (!s.inFlow)

/-- The sign of a value: the key before it may have no sign of its own. -/
def value (s : Scanner) : Except Fault Scanner :=
  match s.currentSlot with
  | some slot =>
    let s := { s with tokens := s.tokens.insertIdxIfInBounds slot.place .key }
    let s := (s.openBlock slot.start.column slot.place .blockMappingStart).withSlot none
    .ok (s.take .value 1 false)
  | none => do
    if !s.inFlow && !s.keyAllowed then s.fault "mapping values are not allowed in this context"
    let s := s.openBlock s.cursor.column s.tokens.size .blockMappingStart
    return s.take .value 1 (!s.inFlow)

/-- Puts a token behind which the text goes on at a cursor. -/
def put (s : Scanner) (t : Token) (cursor : Cursor) (keyAllowed : Bool) : Scanner :=
  { s.emit t with cursor, keyAllowed }

/-- The characters that may follow a name without a blank between. -/
def endsName (c : Option Char) : Bool :=
  endsWord c || c.any fun d => ['?', ':', ',', ']', '\x7d', '%', '@', '\x60'].contains d

/-- An anchor or an alias. -/
def anchor (s : Scanner) (make : String → Token) : Except Fault Scanner := do
  let s ← s.saveSlot
  let (name, c) := s.cursor.skip.span isNameChar
  if name.isEmpty || !endsName c.head? then
    s.fault "did not find expected alphabetic or numeric character"
  return s.put (make (String.ofList name)) c false

/-- A tag. -/
def tag (s : Scanner) : Except Fault Scanner := do
  let s ← s.saveSlot
  let (handle, rest, c) ← Tag.read s.cursor
  if !endsWord c.head? && !(s.inFlow && c.holds ',') then
    c.fault "did not find expected whitespace or line break"
  return s.put (.tag handle rest) c false

/-- A block scalar. -/
def blockScalar (s : Scanner) (literal : Bool) : Except Fault Scanner := do
  let s ← s.dropSlot
  let (text, c) ← readBlock literal s.indent s.cursor.skip
  return s.put (.scalar (String.ofList text) (if literal then .literal else .folded)) c true

/-- A quoted scalar. -/
def quotedScalar (s : Scanner) (single : Bool) : Except Fault Scanner := do
  let s ← s.saveSlot
  let c := s.cursor.skip
  let (text, c) ← readQuoted single (c.rest.length + 1) [] c
  return s.put (.scalar (String.ofList text) .quoted) c false

/-- A plain scalar. -/
def plainScalar (s : Scanner) : Except Fault Scanner := do
  let s ← s.saveSlot
  let c := s.cursor
  let (text, lineEnded, c) ← readPlain s.inFlow (s.indent + 1) (c.rest.length + 1) [] {} c
  return s.put (.scalar (String.ofList text) .plain) c lineEnded

/-- Reads the number of a version. -/
def readVersionNumber (c : Cursor) : Except Fault (Nat × Cursor) :=
  let (digits, c) := c.span Char.isDigit
  if digits.isEmpty then c.fault "did not find expected version number"
  else if 9 < digits.length then c.fault "found extremely long version number"
  else .ok (digits.foldl (fun acc d => 10 * acc + (d.toNat - 48)) 0, c)

/-- Reads what stands behind the name of a directive. -/
def readDirective (name : String) (c : Cursor) : Except Fault (Token × Cursor) := do
  if name == "YAML" then
    let (major, c) ← readVersionNumber c.skipBlanks
    if !c.holds '.' then c.fault "did not find expected digit or '.' character"
    let (minor, c) ← readVersionNumber c.skip
    return (.versionDirective major minor, c)
  else if name == "TAG" then
    let c := c.skipBlanks
    if !c.holds '!' then c.fault "did not find expected '!'"
    let (handle, c) := Tag.readHandle c
    if handle ≠ ['!'] && handle.getLast? ≠ some '!' then c.fault "did not find expected '!'"
    if !(c.head?.any isBlank) then c.fault "did not find expected whitespace"
    let (content, c) ← Tag.readRest true [] c.skipBlanks
    if !endsWord c.head? then c.fault "did not find expected whitespace or line break"
    return (.tagDirective (String.ofList handle) content, c)
  else c.fault "found unknown directive name"

/-- A directive. -/
def directive (s : Scanner) : Except Fault Scanner := do
  let s ← (s.closeBlocks (-1)).dropSlot
  let (name, c) := s.cursor.skip.span isNameChar
  if name.isEmpty then c.fault "could not find expected directive name"
  if !endsWord c.head? then c.fault "found unexpected non-alphabetical character"
  let (token, c) ← readDirective (String.ofList name) c
  let c := c.skipBlanks.skipComment
  match c.head? with
  | none => return s.put token c false
  | some d =>
    if isBreak d then return s.put token c.skipBreak false
    else c.fault "did not find expected comment or line break"

/-! ## All tokens -/

/-- Characters that cannot start a plain scalar. -/
def isIndicator (c : Char) : Bool :=
  "-?:,[]\x7b\x7d#&*!|>'\"%@\x60".toList.contains c

/-- Whether a plain scalar starts with a character, given the one behind it. -/
def startsPlain (inFlow : Bool) (c : Char) (behind : Option Char) : Bool :=
  (!isIndicator c && !endsWord (some c))
    || (c == '-' && !(behind.any isBlank))
    || (!inFlow && (c == '?' || c == ':') && !endsWord behind)

/-- Takes the token that starts here. -/
def token (s : Scanner) : Except Fault Scanner :=
  let c := s.cursor
  let behind := c.peek? 1
  match c.head? with
  | none => s.streamEnd
  | some d =>
    if c.column == 0 && d == '%' then s.directive
    else if c.atMark '-' then s.documentMark .documentStart
    else if c.atMark '.' then s.documentMark .documentEnd
    else match d with
      | '[' => s.flowStart .flowSequenceStart
      | '\x7b' => s.flowStart .flowMappingStart
      | ']' => s.flowEnd .flowSequenceEnd
      | '\x7d' => s.flowEnd .flowMappingEnd
      | ',' => s.flowEntry
      | '*' => s.anchor .alias
      | '&' => s.anchor .anchor
      | '!' => s.tag
      | '\'' => s.quotedScalar true
      | '"' => s.quotedScalar false
      | d =>
        if d == '-' && endsWord behind then s.blockEntry
        else if d == '?' && (s.inFlow || endsWord behind) then s.key
        else if d == ':' && (s.inFlow || endsWord behind) then s.value
        else if d == '|' && !s.inFlow then s.blockScalar true
        else if d == '>' && !s.inFlow then s.blockScalar false
        else if startsPlain s.inFlow d behind then s.plainScalar
        else s.fault "found character that cannot start any token"

/-- Takes the next token, with whatever lies before it. -/
def step (s : Scanner) : Except Fault Scanner := do
  let s := skipToToken (s.cursor.rest.length + 1) s
  let s ← s.dropStale
  (s.closeBlocks s.cursor.column).token

/-- Takes the remaining tokens. -/
def run : (fuel : Nat) → Scanner → Except Fault (Array Token)
  | 0, s => .ok s.tokens
  | fuel + 1, s =>
    if s.tokens.back? == some .streamEnd then .ok s.tokens
    else match s.step with
      | .ok s => run fuel s
      | .error e => .error e

end Scanner

/-- Characters that may stand in a YAML text. -/
def isPrintable (c : Char) : Bool :=
  let n := c.toNat
  n == 0x9 || n == 0xA || n == 0xD || (0x20 ≤ n && n ≤ 0x7E) || n == 0x85
    || (0xA0 ≤ n && n ≤ 0xD7FF) || (0xE000 ≤ n && n ≤ 0xFFFD) || 0x10000 ≤ n

/-- The tokens of a text. -/
def tokens (text : String) : Except Fault (Array Token) :=
  let cs := text.toList
  if cs.all isPrintable then Scanner.run (cs.length + 2) { cursor := { rest := cs } }
  else .error ⟨"control characters are not allowed", 0, 0⟩

end PoolExit.Yaml
