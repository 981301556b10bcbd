import PoolExit.Json.Value

/-!
# How failed transactions are named

A node names the failure of a transaction in JSON: a failure without details by its name, one with
details by an object with the name as its only member.  The text shown has the details in
parentheses, or in braces where they have names.  A name that is not known, or that comes with other
details than its own, names no failure.
-/

namespace PoolExit.Ledger

/-- The failures of transactions that have no details. -/
def plainFailures : List String :=
  ["AccountInUse", "AccountLoadedTwice", "AccountNotFound", "ProgramAccountNotFound",
    "InsufficientFundsForFee", "InvalidAccountForFee", "AlreadyProcessed", "BlockhashNotFound",
    "CallChainTooDeep", "MissingSignatureForFee", "InvalidAccountIndex", "SignatureFailure",
    "InvalidProgramForExecution", "SanitizeFailure", "ClusterMaintenance",
    "AccountBorrowOutstanding", "WouldExceedMaxBlockCostLimit", "UnsupportedVersion",
    "InvalidWritableAccount", "WouldExceedMaxAccountCostLimit", "WouldExceedAccountDataBlockLimit",
    "TooManyAccountLocks", "AddressLookupTableNotFound", "InvalidAddressLookupTableOwner",
    "InvalidAddressLookupTableData", "InvalidAddressLookupTableIndex", "InvalidRentPayingAccount",
    "WouldExceedMaxVoteCostLimit", "WouldExceedAccountDataTotalLimit",
    "MaxLoadedAccountsDataSizeExceeded", "InvalidLoadedAccountsDataSizeLimit",
    "ResanitizationNeeded", "UnbalancedTransaction", "ProgramCacheHitMaxLimit", "CommitCancelled"]

/-- The failures of transactions that are about one account. -/
def accountFailures : List String :=
  ["InsufficientFundsForRent", "ProgramExecutionTemporarilyRestricted"]

/-- The failures of instructions that have no details. -/
def plainInstructionFailures : List String :=
  ["GenericError", "InvalidArgument", "InvalidInstructionData", "InvalidAccountData",
    "AccountDataTooSmall", "InsufficientFunds", "IncorrectProgramId", "MissingRequiredSignature",
    "AccountAlreadyInitialized", "UninitializedAccount", "UnbalancedInstruction",
    "ModifiedProgramId", "ExternalAccountLamportSpend", "ExternalAccountDataModified",
    "ReadonlyLamportChange", "ReadonlyDataModified", "DuplicateAccountIndex", "ExecutableModified",
    "RentEpochModified", "NotEnoughAccountKeys", "AccountDataSizeChanged", "AccountNotExecutable",
    "AccountBorrowFailed", "AccountBorrowOutstanding", "DuplicateAccountOutOfSync", "InvalidError",
    "ExecutableDataModified", "ExecutableLamportChange", "ExecutableAccountNotRentExempt",
    "UnsupportedProgramId", "CallDepth", "MissingAccount", "ReentrancyNotAllowed",
    "MaxSeedLengthExceeded", "InvalidSeeds", "InvalidRealloc", "ComputationalBudgetExceeded",
    "PrivilegeEscalation", "ProgramEnvironmentSetupFailure", "ProgramFailedToComplete",
    "ProgramFailedToCompile", "Immutable", "IncorrectAuthority", "BorshIoError",
    "AccountNotRentExempt", "InvalidAccountOwner", "ArithmeticOverflow", "UnsupportedSysvar",
    "IllegalOwner", "MaxAccountsDataAllocationsExceeded", "MaxAccountsExceeded",
    "MaxInstructionTraceLengthExceeded", "BuiltinProgramsMustConsumeComputeUnits"]

/-- A number below a bound. -/
def below? (bound : Nat) (v : Json) : Option Nat := (v.uint64?.map UInt64.toNat).filter (· < bound)

/-- One of the given names, alone or as the name of an empty member. -/
def named? (names : List String) : Json → Option String
  | .string name | .object [(name, .null)] => if name ∈ names then some name else none
  | _ => none

/-- The text of the failure of an instruction. -/
def instructionFailureText? : Json → Option String
  | .object [("Custom", code)] => (below? UInt32.size code).map fun n => s!"Custom({n})"
  | .object [("BorshIoError", .string _)] => some "BorshIoError"
  | other => named? plainInstructionFailures other

/-- The text of a failure. -/
def failureText? : Json → Option String
  | .object [("InstructionError", .array [place, failure])] => do
    let n ← below? 256 place
    let text ← instructionFailureText? failure
    return s!"InstructionError({n}, {text})"
  | .object [("DuplicateInstruction", place)] =>
    (below? 256 place).map fun n => s!"DuplicateInstruction({n})"
  | .object [(name, .object [("account_index", place)])] =>
    if name ∈ accountFailures then
      (below? 256 place).map fun n => name ++ s!" \x7b account_index: {n} \x7d"
    else none
  | other => named? plainFailures other

end PoolExit.Ledger
