import PoolExit.Url.Host

/-!
# URLs

A URL starts with a scheme and a colon.  For some schemes a host follows, whatever the number of
slashes before it; for others it follows two slashes.  `Url.scheme` gives the scheme of a URL, or says
why a text is none.
-/

namespace PoolExit.Url

open Text

/-- The sorts of schemes. -/
inductive SchemeSort where
  | hosted
  | file
  | other
deriving DecidableEq, Repr

/-- The sort of a scheme. -/
def SchemeSort.of (scheme : String) : SchemeSort :=
  if ["http", "https", "ws", "wss", "ftp"].contains scheme then .hosted
  else if scheme == "file" then .file
  else .other

/-- Takes control characters and spaces off both ends and tabs and ends of lines out of the middle. -/
def tidy (s : String) : List Char :=
  let outer := fun (c : Char) => c.toNat ≤ 0x20
  let cs := ((s.toList.dropWhile outer).reverse.dropWhile outer).reverse
  cs.filter fun c => c != '\t' && c != '\n' && c != '\r'

/-- Characters of schemes behind the first one. -/
def isSchemeChar (c : Char) : Bool := c.isAlphanum || c == '+' || c == '-' || c == '.'

/-- The scheme at the start of a text, in small letters, and what follows its colon. -/
def readScheme (cs : List Char) : Option (String × List Char) :=
  if !(cs.head?.any Char.isAlpha) then none
  else match cs.dropWhile isSchemeChar with
    | ':' :: rest =>
      some (String.ofList ((cs.takeWhile isSchemeChar).map Char.toLower), rest)
    | _ => none

/-- Whether a character ends the host. -/
def endsHost (backslash : Bool) (c : Char) : Bool :=
  c == '/' || c == '?' || c == '#' || (backslash && c == '\\')

/-- Drops everything up to the last sign for "at" in a host part; `some` if there is one. -/
def afterLastAt? (authority : List Char) : Option (List Char) :=
  if authority.contains '@' then
    some (authority.reverse.takeWhile (· != '@')).reverse
  else none

/-- Whether anything of a user name or a password is left once an empty password is taken off. -/
def hasUser (authority : List Char) : Bool :=
  let user := ((authority.reverse.dropWhile (· != '@')).drop 1).reverse
  !user.isEmpty && user != [':']

/-- Cuts a host at the colon before its port; colons in brackets do not count. -/
def splitPort (inBrackets : Bool) : List Char → List Char × Option (List Char)
  | [] => ([], none)
  | c :: rest =>
    if c == ':' && !inBrackets then ([], some rest)
    else
      let inside := if c == '[' then true else if c == ']' then false else inBrackets
      let (host, port) := splitPort inside rest
      (c :: host, port)

/-- Looks over a port; what follows a backslash does not count. -/
def portFault? (port : List Char) : Option Fault :=
  let digits := port.takeWhile (· != '\\')
  if !digits.all Char.isDigit then some .port
  else match readDigits 10 maxUInt16 0 digits with
    | .ok _ => none
    | .error _ => some .port

/-- Looks over user, host and port; `followed` tells whether anything follows them. -/
def authorityFault? (sort : SchemeSort) (authority : List Char) (followed : Bool) :
    Option Fault :=
  let hosted := sort == .hosted
  let user := afterLastAt? authority
  let (host, port) := splitPort false (user.getD authority)
  if authority == ['@'] && followed then some .emptyHost
  else if host.isEmpty && (hosted || port.isSome) then some .emptyHost
  else match if hosted then hostFault? host else opaqueHostFault? host with
    | some fault => some fault
    | none => match port.bind portFault? with
      | some fault => some fault
      | none => if host.isEmpty && hasUser authority then some .emptyHost else none

/-- Whether a text is a letter and a colon or a bar, as disks are named. -/
def isDriveLetter : List Char → Bool
  | [c, d] => c.isAlpha && (d == ':' || d == '|')
  | _ => false

/-- Looks over what follows the scheme of a file. -/
def fileFault? (cs : List Char) : Option Fault :=
  let slash := fun (c : Char) => c == '/' || c == '\\'
  match cs with
  | a :: b :: rest =>
    if slash a && slash b then
      let host := rest.takeWhile fun c => !endsHost true c
      if host.isEmpty || isDriveLetter host then none else hostFault? host
    else none
  | _ => none

/-- The scheme of a URL. -/
def scheme (s : String) : Except Fault String :=
  match readScheme (tidy s) with
  | none => .error .relative
  | some (scheme, rest) =>
    let fault := match SchemeSort.of scheme with
      | .hosted =>
        let rest := rest.dropWhile fun c => c == '/' || c == '\\'
        let authority := rest.takeWhile fun c => !endsHost true c
        authorityFault? .hosted authority (authority.length < rest.length)
      | .file => fileFault? rest
      | .other => match rest with
        | '/' :: '/' :: rest =>
          let authority := rest.takeWhile fun c => !endsHost false c
          authorityFault? .other authority (authority.length < rest.length)
        | _ => none
    match fault with
    | some f => .error f
    | none => .ok scheme

end PoolExit.Url
