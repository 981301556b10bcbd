import PoolExit.Text.Digits
import PoolExit.Yaml.Cursor

/-!
# The text of scalars

How the text of a scalar is put together from its lines.  In plain and quoted scalars a single end of
line counts as a space, and of several the first is left out; in block scalars the indentation is
taken off, and in folded ones single ends of lines between lines that do not start with a blank count
as spaces.
-/

namespace PoolExit.Yaml

/-- Blanks and ends of lines between two words of a scalar. -/
structure Gap where
  blanks : List Char := []
  /-- The first end of a line, if there is any. -/
  first : List Char := []
  further : List Char := []
  broken : Bool := false

namespace Gap

/-- What counts of a gap. -/
def text (g : Gap) : List Char :=
  if !g.broken then g.blanks
  else if g.first == ['\n'] then (if g.further.isEmpty then [' '] else g.further)
  else g.first ++ g.further

/-- Reads blanks and ends of lines on to a gap.  In a plain scalar no tab may stand left of the
indentation. -/
def read (tabLimit : Option Int) : (fuel : Nat) → Gap → Cursor → Except Fault (Gap × Cursor)
  | 0, g, c => .ok (g, c)
  | fuel + 1, g, c =>
    match c.head? with
    | none => .ok (g, c)
    | some d =>
      if isBlank d then
        let tooFarLeft := match tabLimit with
          | some limit => g.broken && (c.column : Int) < limit && d == '\t'
          | none => false
        if tooFarLeft then c.fault "found a tab character that violates indentation"
        else
          let g := if g.broken then g else { g with blanks := g.blanks ++ [d] }
          read tabLimit fuel g c.skip
      else if isBreak d then
        let g := if g.broken then { g with further := g.further ++ c.breakText }
          else { g with blanks := [], first := c.breakText, broken := true }
        read tabLimit fuel g c.skipBreak
      else .ok (g, c)

end Gap

/-! ## Plain scalars -/

/-- Characters that stand for themselves only outside of flow collections. -/
def isFlowIndicator (c : Char) : Bool :=
  c == ',' || c == '[' || c == ']' || c == '\x7b' || c == '\x7d'

/-- The number of characters of the word of a plain scalar that starts here; none where a colon in a
flow collection is followed by an indicator. -/
def plainWordLength (inFlow : Bool) : List Char → Option Nat
  | [] => some 0
  | c :: rest =>
    if isBlank c || isBreak c then some 0
    else if inFlow && c == ':' && (rest.head?.any fun d => isFlowIndicator d || d == '?') then none
    else if c == ':' && endsWord rest.head? then some 0
    else if inFlow && isFlowIndicator c then some 0
    else (plainWordLength inFlow rest).map (· + 1)

/-- Reads the remaining words of a plain scalar behind a gap.  Gives the text, and whether a line
ended behind its last word. -/
def readPlain (inFlow : Bool) (indent : Int) :
    (fuel : Nat) → List Char → Gap → Cursor → Except Fault (List Char × Bool × Cursor)
  | 0, acc, g, c => .ok (acc, g.broken, c)
  | fuel + 1, acc, g, c =>
    if c.atDocumentMark || c.holds '#' then .ok (acc, g.broken, c)
    else match plainWordLength inFlow c.rest with
      | none => c.fault "found unexpected ':'"
      | some 0 => .ok (acc, g.broken, c)
      | some n =>
        let acc := acc ++ g.text ++ c.rest.take n
        let c := c.skip n
        if (c.head?.any fun d => isBlank d || isBreak d) then
          match Gap.read (some indent) c.rest.length {} c with
          | .error e => .error e
          | .ok (g, c) =>
            if !inFlow && (c.column : Int) < indent then .ok (acc, g.broken, c)
            else readPlain inFlow indent fuel acc g c
        else .ok (acc, false, c)

/-! ## Quoted scalars -/

/-- What a character behind a backslash stands for. -/
def escape? : Char → Option Char
  | '0' => some '\x00'
  | 'a' => some '\x07'
  | 'b' => some '\x08'
  | 't' | '\t' => some '\t'
  | 'n' => some '\n'
  | 'v' => some '\x0b'
  | 'f' => some '\x0c'
  | 'r' => some '\r'
  | 'e' => some '\x1b'
  | ' ' => some ' '
  | '"' => some '"'
  | '/' => some '/'
  | '\\' => some '\\'
  | 'N' => some '\u0085'
  | '_' => some '\u00a0'
  | 'L' => some '\u2028'
  | 'P' => some '\u2029'
  | _ => none

/-- The number of hexadecimal digits behind a backslash and a letter. -/
def escapeWidth? : Char → Option Nat
  | 'x' => some 2
  | 'u' => some 4
  | 'U' => some 8
  | _ => none

/-- The number that hexadecimal digits stand for. -/
def hexNumber? (digits : List Char) : Option Nat :=
  digits.foldlM (fun acc d => (Text.digitValue? 16 d).map (acc * 16 + ·)) 0

/-- Reads what a backslash, which lies behind, stands for together with what follows it. -/
def readEscape (c : Cursor) : Except Fault (Char × Cursor) :=
  match c.head? with
  | none => c.fault "found unexpected end of stream"
  | some d => match escape? d with
    | some e => .ok (e, c.skip)
    | none => match escapeWidth? d with
      | none => c.fault "found unknown escape character"
      | some width =>
        let digits := (c.rest.drop 1).take width
        if digits.length < width then c.fault "did not find expected hexdecimal number"
        else match hexNumber? digits with
          | none => c.fault "did not find expected hexdecimal number"
          | some n =>
            if h : n.isValidChar then .ok (Char.ofNatAux n h, c.skip (width + 1))
            else c.fault "found invalid Unicode character escape code"

/-- What ended a word of a quoted scalar. -/
inductive WordEnd where
  | quote
  | gap
  /-- The end of a line behind a backslash, which counts for nothing. -/
  | escapedBreak
deriving DecidableEq

/-- Reads a word of a quoted scalar. -/
def readQuotedWord (single : Bool) :
    (fuel : Nat) → List Char → Cursor → Except Fault (List Char × WordEnd × Cursor)
  | 0, _, c => c.fault "found unexpected end of stream"
  | fuel + 1, acc, c =>
    match c.head? with
    | none => .ok (acc, .gap, c)
    | some d =>
      if isBlank d || isBreak d then .ok (acc, .gap, c)
      else if single && d == '\'' then
        if c.peek? 1 == some '\'' then readQuotedWord single fuel (acc ++ ['\'']) (c.skip 2)
        else .ok (acc, .quote, c.skip)
      else if !single && d == '"' then .ok (acc, .quote, c.skip)
      else if !single && d == '\\' then
        if ((c.peek? 1).any isBreak) then .ok (acc, .escapedBreak, c.skip.skipBreak)
        else match readEscape c.skip with
          | .error e => .error e
          | .ok (e, c) => readQuotedWord single fuel (acc ++ [e]) c
      else readQuotedWord single fuel (acc ++ [d]) c.skip

/-- Reads the remaining text of a quoted scalar, up to and past the quote at its end. -/
def readQuoted (single : Bool) :
    (fuel : Nat) → List Char → Cursor → Except Fault (List Char × Cursor)
  | 0, _, c => c.fault "found unexpected end of stream"
  | fuel + 1, acc, c =>
    if c.atDocumentMark then c.fault "found unexpected document indicator"
    else if c.rest.isEmpty then c.fault "found unexpected end of stream"
    else match readQuotedWord single (c.rest.length + 1) acc c with
      | .error e => .error e
      | .ok (acc, .quote, c) => .ok (acc, c)
      | .ok (acc, ended, c) =>
        match Gap.read none c.rest.length { broken := ended == .escapedBreak } c with
        | .error e => .error e
        | .ok (g, c) => readQuoted single fuel (acc ++ g.text) c

/-! ## Block scalars -/

/-- What becomes of the ends of lines behind a block scalar. -/
inductive Chomping where
  | strip
  | clip
  | keep
deriving DecidableEq

/-- Reads the header of a block scalar: the chomping and the indentation, in either order. -/
def readBlockHeader (c : Cursor) : Except Fault (Chomping × Option Nat × Cursor) :=
  let chomping? := fun (c : Cursor) =>
    match c.head? with
    | some '+' => some Chomping.keep
    | some '-' => some Chomping.strip
    | _ => none
  let digit? := fun (c : Cursor) => (c.head?.filter Char.isDigit).map fun d => d.toNat - 48
  let (chomping, increment, c) :=
    match chomping? c, digit? c with
    | some ch, _ => match digit? c.skip with
      | some d => (ch, some d, c.skip 2)
      | none => (ch, none, c.skip)
    | none, some d => match chomping? c.skip with
      | some ch => (ch, some d, c.skip 2)
      | none => (.clip, some d, c.skip)
    | none, none => (.clip, none, c)
  if increment == some 0 then c.fault "found an indentation indicator equal to 0"
  else
    let c := c.skipBlanks.skipComment
    match c.head? with
    | none => .ok (chomping, increment, c)
    | some d =>
      if isBreak d then .ok (chomping, increment, c.skipBreak)
      else c.fault "did not find expected comment or line break"

/-- Goes past the indentation of empty lines and past their ends.  Without a known indentation all
spaces belong to it; the widest indentation is given, too. -/
def readEmptyLines (indent : Nat) :
    (fuel : Nat) → List Char → Nat → Cursor → Except Fault (List Char × Nat × Cursor)
  | 0, acc, widest, c => .ok (acc, widest, c)
  | fuel + 1, acc, widest, c =>
    let spaces := (c.rest.takeWhile (· == ' ')).length
    let c := c.skip (if indent == 0 then spaces else min spaces (indent - c.column))
    let widest := max widest c.column
    if (indent == 0 || c.column < indent) && c.holds '\t' then
      c.fault "found a tab character where an indentation space is expected"
    else if (c.head?.any isBreak) then
      readEmptyLines indent fuel (acc ++ c.breakText) widest c.skipBreak
    else .ok (acc, widest, c)

/-- The lines of a block scalar read so far. -/
structure BlockText where
  text : List Char := []
  /-- The end of the last line. -/
  lineBreak : List Char := []
  /-- The ends of empty lines behind the last line. -/
  emptyLines : List Char := []
  /-- Whether the last line started with a blank. -/
  afterBlank : Bool := false

/-- Reads the lines of a block scalar of a known indentation. -/
def readBlockLines (literal : Bool) (indent : Nat) :
    (fuel : Nat) → BlockText → Cursor → Except Fault (BlockText × Cursor)
  | 0, b, c => .ok (b, c)
  | fuel + 1, b, c =>
    if c.column ≠ indent || c.rest.isEmpty then .ok (b, c)
    else
      let startsBlank := c.head?.any isBlank
      let folded := !literal && b.lineBreak == ['\n'] && !b.afterBlank && !startsBlank
      let between :=
        if folded then (if b.emptyLines.isEmpty then [' '] else b.emptyLines)
        else b.lineBreak ++ b.emptyLines
      let (line, c) := c.span fun d => !isBreak d
      let lineBreak := c.breakText
      match readEmptyLines indent (c.rest.length + 1) [] 0 c.skipBreak with
      | .error e => .error e
      | .ok (emptyLines, _, c) =>
        readBlockLines literal indent fuel
          { text := b.text ++ between ++ line, lineBreak, emptyLines, afterBlank := startsBlank } c

/-- Reads a block scalar behind its sign; `parent` is the indentation around it. -/
def readBlock (literal : Bool) (parent : Int) (c : Cursor) : Except Fault (List Char × Cursor) :=
  match readBlockHeader c with
  | .error e => .error e
  | .ok (chomping, increment, c) =>
    let known := match increment with
      | some n => (if 0 ≤ parent then parent.toNat else 0) + n
      | none => 0
    match readEmptyLines known (c.rest.length + 1) [] 0 c with
    | .error e => .error e
    | .ok (emptyLines, widest, c) =>
      let indent := if known = 0 then max (max widest (parent + 1).toNat) 1 else known
      match readBlockLines literal indent (c.rest.length + 1) { emptyLines } c with
      | .error e => .error e
      | .ok (b, c) =>
        let text := match chomping with
          | .strip => b.text
          | .clip => b.text ++ b.lineBreak
          | .keep => b.text ++ b.lineBreak ++ b.emptyLines
        .ok (text, c)

end PoolExit.Yaml
