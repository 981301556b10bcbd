import PoolExit.Exit.Question
import PoolExit.Exit.Retry

/-!
# Asking the wallet for signatures

A wallet that can sign several transactions at once is asked for all of them first.  What it returns
counts only if it is as many transactions with the same messages; if not, the wallet is asked for one
after the other.
-/

namespace PoolExit

/-- The signed transactions, in the order of the ones to sign.  Where signing failed, the
transaction is the one to sign. -/
structure Signatures where
  transactions : List Transaction
  errors : List (Option SignerError)
  path : SigningPath
deriving DecidableEq

/-- How many transactions were not signed. -/
def Signatures.failed (s : Signatures) : Nat := s.errors.countP Option.isSome

namespace Signing

/-- The position of the first transaction whose message differs from the one it was made from. -/
def firstChanged (drafts signed : List Transaction) : Option Nat :=
  (drafts.zip signed).findIdx? fun (a, b) => a.message ≠ b.message

/-- Asks for all signatures at once. -/
def together (bulk : Bool) (drafts : List Transaction) :
    Talk (Except SignerError (List Transaction)) := do
  if !bulk then return .error .unsupported
  match ← Talk.call (.signAll drafts) with
  | .error e =>
    Talk.note (.bulkFailed drafts.length e)
    return .error e
  | .ok signed =>
    if signed.length ≠ drafts.length then
      Talk.note (.bulkLengthMismatch drafts.length signed.length)
      return .error (.lengthMismatch drafts.length signed.length)
    match firstChanged drafts signed with
    | some index =>
      Talk.note (.bulkMessageChanged index)
      return .error (.messageChanged index)
    | none => return .ok signed

/-- Asks for one signature after the other; the first transaction has the index `index`. -/
def oneByOne (index : Nat) : List Transaction → Talk (List (Transaction × Option SignerError))
  | [] => return []
  | draft :: rest => do
    let slot ← match ← Talk.call (.signOne draft) with
      | .ok signed =>
        if signed.message = draft.message then pure (signed, none)
        else pure (draft, some (.messageChanged index))
      | .error e =>
        Talk.note (.singleFailed index e)
        pure (draft, some e)
    return slot :: (← oneByOne (index + 1) rest)

/-- The reason where no way of signing was tried. -/
def noPath : SignerError := .failed "签名路径耗尽"

/-- The two ways of signing, in the order in which they are tried. -/
def paths : List SigningPath := [.bulk, .sequential]

/-- Asks for the signatures of several transactions. -/
def batch (bulk : Bool) (drafts : List Transaction) : Talk Signatures := do
  if drafts.isEmpty then return ⟨[], [], .bulk⟩
  let result ← firstSuccess paths none fun _ path =>
    match path with
    | .bulk => do
      match ← together bulk drafts with
      | .ok signed => return .ok ⟨signed, signed.map fun _ => none, .bulk⟩
      | .error e => return .error e
    | .sequential => do
      let slots ← oneByOne 0 drafts
      return .ok ⟨slots.map Prod.fst, slots.map Prod.snd, .sequential⟩
  match result with
  | .ok success => return success.value
  | .error exhausted =>
    let reason := exhausted.last?.getD noPath
    return ⟨drafts, drafts.map fun _ => some reason, .sequential⟩

/-- Asks for the signature of one transaction. -/
def single (bulk : Bool) (draft : Transaction) : Talk (Except SignerError Transaction) := do
  let result ← firstSuccess paths none fun _ path =>
    match path with
    | .bulk => do
      match ← together bulk [draft] with
      | .ok signed => return match signed.getLast? with
        | some t => .ok t
        | none => .error (.lengthMismatch 1 0)
      | .error e => return .error e
    | .sequential => Talk.call (.signOne draft)
  match result with
  | .ok success => return .ok success.value
  | .error exhausted => return .error (exhausted.last?.getD noPath)

end Signing

end PoolExit
