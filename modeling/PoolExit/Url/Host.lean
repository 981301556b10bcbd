import PoolExit.Url.Domain

/-!
# Hosts

A host is an address in brackets, an address of four numbers, or a domain name.  A name whose last
label is a number has to be an address.
-/

namespace PoolExit.Url

open Text

/-- Why a text is no URL. -/
inductive Fault where
  | emptyHost
  | domainName
  | domainCharacter
  | port
  | addressV4
  | addressV6
  /-- There is no scheme. -/
  | relative
deriving DecidableEq, Repr

/-- The wording of a fault. -/
def Fault.message : Fault → String
  | .emptyHost => "empty host"
  | .domainName => "invalid international domain name"
  | .domainCharacter => "invalid domain character"
  | .port => "invalid port number"
  | .addressV4 => "invalid IPv4 address"
  | .addressV6 => "invalid IPv6 address"
  | .relative => "relative URL without a base"

/-! ## Addresses of four numbers -/

/-- The digits of a number in an address, and their base: hexadecimal behind `0x`, octal behind a
zero. -/
def numberDigits : List Char → Nat × List Char
  | '0' :: 'x' :: rest | '0' :: 'X' :: rest => (16, rest)
  | '0' :: d :: rest => (8, d :: rest)
  | cs => (10, cs)

/-- Whether a text is a number as it stands in an address. -/
def isNumber (cs : List Char) : Bool :=
  let (base, digits) := numberDigits cs
  !cs.isEmpty && digits.all fun d => (digitValue? base d).isSome

/-- The number that a text stands for, if it is one of 32 bits. -/
def number? (cs : List Char) : Option Nat :=
  let (base, digits) := numberDigits cs
  if !isNumber cs then none
  else
    let value := digits.foldlM (fun acc d => (digitValue? base d).map (acc * base + ·)) 0
    value.filter (· ≤ maxUInt32)

/-- The labels of a name without an empty one at its end. -/
def ownLabels (name : List Char) : List (List Char) :=
  let parts := labels name
  if 1 < parts.length && parts.getLast? == some [] then parts.dropLast else parts

/-- Whether the last label of a name is a number. -/
def endsInNumber (name : List Char) : Bool :=
  match (ownLabels name).getLast? with
  | some last => (!last.isEmpty && last.all Char.isDigit) || isNumber last
  | none => false

/-- Whether a name is an address: up to four numbers, the last of which fills the remaining bytes. -/
def isAddressV4 (name : List Char) : Bool :=
  let parts := ownLabels name
  match parts.mapM number? with
  | none => false
  | some numbers =>
    parts.length ≤ 4 && numbers.dropLast.all (· ≤ maxUInt8)
      && (numbers.getLast?.any fun last => last < Nat.pow 256 (5 - parts.length))

/-! ## Addresses in brackets -/

/-- Reads a decimal number of at most 255 without zeros in front. -/
def readByte (cs : List Char) : Option (List Char) :=
  let digits := cs.takeWhile Char.isDigit
  let value := digits.foldl (fun acc d => 10 * acc + (d.toNat - 48)) 0
  if digits.isEmpty || (digits.head? == some '0' && 1 < digits.length) || maxUInt8 < value then none
  else some (cs.drop digits.length)

/-- Whether a text is `count` numbers of one byte with points between them. -/
def areBytes : (count : Nat) → List Char → Bool
  | 0, cs => cs.isEmpty
  | count + 1, cs => match readByte cs with
    | none => false
    | some rest => match count, rest with
      | 0, rest => rest.isEmpty
      | count, '.' :: rest => areBytes count rest
      | _, _ => false

/-- Reads the remaining groups of an address; `groups` have been read, and `gap` tells whether the
two colons that stand for a run of zeros have been met. -/
def readPieces : (fuel : Nat) → (groups : Nat) → (gap : Bool) → List Char → Bool
  | 0, _, _, _ => false
  | fuel + 1, groups, gap, cs =>
    match cs with
    | [] => gap || groups == 8
    | c :: rest =>
      if groups == 8 then false
      else if c == ':' then !gap && readPieces fuel (groups + 1) true rest
      else
        let digits := ((c :: rest).take 4).takeWhile fun d => (digitValue? 16 d).isSome
        match (c :: rest).drop digits.length with
        | '.' :: _ =>
          !digits.isEmpty && groups ≤ 6 && areBytes 4 (c :: rest) && (gap || groups + 2 == 8)
        | ':' :: after => !after.isEmpty && readPieces fuel (groups + 1) gap after
        | [] => readPieces fuel (groups + 1) gap []
        | _ => false

/-- Whether a text is an address of eight groups. -/
def isAddressV6 (cs : List Char) : Bool :=
  match cs with
  | ':' :: ':' :: rest => readPieces (cs.length + 2) 1 true rest
  | ':' :: _ => false
  | _ => 2 ≤ cs.length && readPieces (cs.length + 2) 0 false cs

/-- Looks over an address in brackets, whose first bracket has been taken off. -/
def bracketFault? (cs : List Char) : Option Fault :=
  if cs.getLast? == some ']' && isAddressV6 cs.dropLast then none else some .addressV6

/-- Looks over a host of a scheme whose hosts are domain names. -/
def hostFault? (host : List Char) : Option Fault :=
  match host with
  | '[' :: rest => bracketFault? rest
  | _ => match plainDomain? (String.ofList host) with
    | none => some .domainName
    | some [] => some .emptyHost
    | some name => if endsInNumber name && !isAddressV4 name then some .addressV4 else none

/-- Looks over a host of a scheme that gives hosts a meaning of its own. -/
def opaqueHostFault? (host : List Char) : Option Fault :=
  match host with
  | '[' :: rest => bracketFault? rest
  | _ =>
    if host.any fun c => "\x00\t\n\r #/:<>?@[\\]^|".toList.contains c then some .domainCharacter
    else none

end PoolExit.Url
