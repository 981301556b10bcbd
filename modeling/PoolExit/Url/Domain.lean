import PoolExit.Text.Cut
import PoolExit.Unicode.Mark
import PoolExit.Unicode.Normal
import PoolExit.Url.Domain.Bidi
import PoolExit.Url.Domain.Joiner
import PoolExit.Url.Domain.Mapping
import PoolExit.Url.Punycode

/-!
# Domain names

A domain name is made plain before it is used, by the rules of UTS #46: percent signs are resolved,
each character is kept, left out or replaced, and the result is brought into its normal form.  A label
in Punycode has to stand for a text that is plain already.  No label may hold any of the characters
that mean something in a URL.
-/

namespace PoolExit.Url

open Text Unicode

/-- Resolves percent signs in a byte string; one without two digits behind it stays. -/
def percentDecode : List UInt8 → List UInt8
  | [] => []
  | 0x25 :: a :: b :: rest =>
    match digitValue? 16 (Char.ofNat a.toNat), digitValue? 16 (Char.ofNat b.toNat) with
    | some high, some low => UInt8.ofNat (16 * high + low) :: percentDecode rest
    | _, _ => 0x25 :: percentDecode (a :: b :: rest)
  | b :: rest => b :: percentDecode rest

/-- Characters of ASCII that no domain name holds. -/
def isForbidden (c : Char) : Bool :=
  c.toNat ≤ 0x20 || c.toNat == 0x7F || "%#/:<>?@[\\]^|".toList.contains c

/-- What becomes of a character of a domain name; none where it is refused. -/
def mapChar (c : Char) : Option (List Char) :=
  match Treatment.of c with
  | .kept => some [c]
  | .leftOut => some []
  | .replaced text => some text
  | .refused => none

/-- The plain form of a text, in which some characters may still be forbidden. -/
def plainForm (cs : List Char) : Option (List Char) :=
  (cs.mapM mapChar).map fun texts => normalize texts.flatten

/-- Whether a text is plain already. -/
def isPlain (cs : List Char) : Bool :=
  cs.all (fun c => Treatment.of c == .kept) && normalize cs == cs

/-- Cuts a text at each point. -/
def labels (cs : List Char) : List (List Char) := cutAt '.' cs

/-- Whether a text is a label with the mark of Punycode, and what stands behind the mark. -/
def punycoded? : List Char → Option (List Char)
  | 'x' :: 'n' :: '-' :: '-' :: rest => some rest
  | _ => none

/-- The greatest length of a label in Punycode, without its mark. -/
def maxPunycode : Nat := 2000

/-- The greatest length of a label that has to be written in Punycode. -/
def maxWide : Nat := 1000

/-- Whether a text is ASCII. -/
def isAscii (cs : List Char) : Bool := cs.all fun c => c.toNat < 0x80

/-- The text that a label stands for.  A label in Punycode is ASCII and stands for a plain text with at
least one character that is not, so a hyphen cannot be the last of it. -/
def labelText? (label : List Char) : Option (List Char) :=
  match punycoded? label with
  | none => some label
  | some rest =>
    if rest.isEmpty || rest.getLast? == some '-' || maxPunycode < rest.length || !isAscii rest then
      none
    else match Punycode.decode rest with
      | some text =>
        if isPlain text && !text.any fun c => c == '.' || isForbidden c then some text else none
      | none => none

/-- Whether the text of a label may stand in a domain name. -/
def isLabelText (text : List Char) : Bool :=
  !text.head?.any isMark && placesJoiners [] text
    && (isAscii text || text.length ≤ maxWide)

/-- The plain form of a domain name. -/
def plainDomain? (s : String) : Option (List Char) := do
  let text ← String.fromUTF8? ⟨(percentDecode s.toUTF8.toList).toArray⟩
  let plain ← plainForm text.toList
  if plain.any isForbidden then none
  let texts ← (labels plain).mapM labelText?
  if texts.all isLabelText && areReadable texts then some plain else none

end PoolExit.Url
