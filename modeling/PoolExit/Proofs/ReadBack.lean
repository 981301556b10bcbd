import PoolExit.Proofs.Absence
import PoolExit.Proofs.Base58
import PoolExit.Proofs.Basic
import PoolExit.Proofs.Decimals

/-!
# Positions read back

What a venue has understood of a listing can be written out as a listing again: the keys for the
builder, the fees under the name of the first fee, and the balance.  The venue understands this
listing as the same position (`Venue.position_read_back`), since addresses and numbers read back and
the names that are written are the first ones under which the fields are looked up.
-/

namespace PoolExit

open Text

/-- The value writes an amount: as decimal text, or as a number where it fits 64 bits. -/
def Json.Writes (value : Json) (n : Nat) : Prop :=
  value = .string (toString n) ∨ n < 2 ^ 64 ∧ value = .ofNat n

lemma Json.Writes.isNull {value : Json} {n : Nat} (writes : value.Writes n) :
    value.isNull = false := by
  rcases writes with rfl | ⟨-, rfl⟩ <;> rfl

/-! ## Fields -/

namespace Field

variable {f : Field} {members : List (String × Json)} {n : Nat} {v : Json}

/-- What stands under the first name of a field is its value. -/
lemma value?_of_lookup {name : String} (first : f.names.head? = some name)
    (found : members.lookup name = some v) (some : v.isNull = false) :
    f.value? members = Option.some v := by
  obtain ⟨rest, names⟩ := List.head?_eq_some_iff.1 first
  have kept : (Option.some v).filter (!·.isNull) = Option.some v := by
    rw [Option.filter_some, if_pos (by simpa using some)]
  rw [value?_eq, names, said, List.filterMap_cons, found, kept, List.head?_cons]

/-- A field none of whose names is there counts as not given. -/
lemma unread_of_missing (missing : ∀ name ∈ f.names, members.lookup name = none) :
    f.Unread members := by
  have said_eq : said f.names members = [] :=
    List.filterMap_eq_nil_iff.2 fun name mem => by simp [missing name mem]
  exact unread_of_none (by rw [value?_eq, said_eq, List.head?_nil])

/-- The members give an amount: none at all for zero, decimal text, or a number of 64 bits. -/
def Gives (f : Field) (members : List (String × Json)) (n : Nat) : Prop :=
  (f.Unread members ∧ n = 0) ∨
    (∃ s, f.value? members = some (.string s) ∧ Text.Decimal (trimChars s.toList) n ∧
      n ≤ maxUInt128) ∨
    f.value? members = some (.ofNat n) ∧ n < 2 ^ 64

lemma amount_of_decimal {s : String} (value : f.value? members = some (.string s))
    (writing : Text.Decimal (trimChars s.toList) n) (small : n ≤ maxUInt128) :
    f.amount members = .ok n := by
  have unblank : blank s = false := by
    by_contra all
    have none := congrArg String.toList (trim_blank (by simpa using all))
    rw [trim, String.toList_ofList] at none
    obtain ⟨ds, rfl | same, some, -⟩ := none ▸ writing
    · exact some rfl
    · cases same
  rw [amount, value]
  simp only [unblank, Bool.false_eq_true, if_false, readUnsigned_eq_ok.2 ⟨writing, small⟩]

lemma amount_of_number {m : UInt64} (value : f.value? members = some v)
    (number : v.uint64? = some m) : f.amount members = .ok m.toNat := by
  rw [amount, value]
  cases v with
  | string s => cases number
  | _ => simp only [number]

/-- What the members give is read. -/
lemma amount_of_gives (gives : f.Gives members n) : f.amount members = .ok n := by
  rcases gives with ⟨unread, rfl⟩ | ⟨s, value, writing, small⟩ | ⟨value, small⟩
  · exact unread.amount
  · exact amount_of_decimal value writing small
  · obtain ⟨m, rfl⟩ : ∃ m : UInt64, n = m.toNat :=
      ⟨.ofNatLT n small, UInt64.toNat_ofNatLT.symm⟩
    exact amount_of_number value (Json.uint64?_eq_some.2 rfl)

lemma gives_of_amount (read : f.amount members = .ok n) : f.Gives members n := by
  rw [amount] at read
  cases value : f.value? members with
  | none =>
      rw [value] at read
      exact .inl ⟨unread_of_none value, (Except.ok.inj read).symm⟩
  | some v =>
      rw [value] at read
      cases v with
      | string s =>
          dsimp only at read
          split at read
          next blank =>
            refine .inl ⟨?_, (Except.ok.inj read).symm⟩
            intro v found
            rw [value] at found
            exact ⟨s, (Option.some.inj found).symm, blank⟩
          next =>
            split at read
            next m number =>
              obtain rfl := Except.ok.inj read
              exact .inr (.inl ⟨s, value, readUnsigned_eq_ok.1 number⟩)
            next => cases read
      | int i =>
          dsimp only at read
          split at read
          next m number =>
            obtain rfl := Except.ok.inj read
            rw [Json.uint64?_eq_some.1 number] at value
            exact .inr (.inr ⟨value, m.toNat_lt⟩)
          next => cases read
      | _ => cases read

/-- Amounts have 128 bits at most. -/
lemma Gives.le (gives : f.Gives members n) : n ≤ maxUInt128 := by
  rcases gives with ⟨-, rfl⟩ | ⟨s, -, -, small⟩ | ⟨-, small⟩
  · exact Nat.zero_le _
  · exact small
  · exact Nat.le_trans (Nat.le_of_lt small) (by decide)

/-- A written amount reads back. -/
lemma gives_of_writes (value : f.value? members = some v) (writes : v.Writes n)
    (small : n ≤ maxUInt128) : f.Gives members n := by
  rcases writes with rfl | ⟨fits, rfl⟩
  · exact .inr (.inl ⟨_, value, by rw [trimChars_toString]; exact decimal_toString n, small⟩)
  · exact .inr (.inr ⟨value, fits⟩)

/-- A written address reads back. -/
lemma address?_of_text {key : Pubkey} (value : f.value? members = some (.string key.text)) :
    f.address? members = .ok (some key) := by
  have trimmed : trim key.text = key.text := Base58.trim_encode key.bytes
  rw [address?, value]
  simp only [key.blank_text, Bool.false_eq_true, if_false, trimmed, key.read_text]

end Field

/-! ## Positions -/

namespace Venue

variable {venue : Venue} {p : Position} {members : List (String × Json)} {mint : Option Pubkey}

/-- The members list the position, with this mint and these two fees. -/
structure Lists (venue : Venue) (members : List (String × Json)) (p : Position)
    (mint : Option Pubkey) (a b : Nat) : Prop where
  own : p.venue = venue
  pool : venue.layout.pool.address members = .ok p.pool
  companion : venue.layout.companion.address members = .ok p.companion
  minted : venue.layout.mint.address? members = .ok mint
  feeA : venue.layout.feeA.Gives members a
  feeB : venue.layout.feeB.Gives members b
  balance : venue.layout.balance.Gives members p.liquidity
  fees : p.feesOwed = saturatingSum a b
  keys : p.buildKeys = venue.buildKeys p.pool p.companion mint

/-- A venue understands a listing as the position that it lists. -/
lemma resolve_eq_ok :
    venue.resolve (.object members) = .ok p ↔ ∃ mint a b, venue.Lists members p mint a b := by
  simp only [resolve, pure_bind, bind_eq_ok]
  constructor
  · rintro ⟨pool, pooled, companion, accompanied, mint, minted, a, feeA, b, feeB, n, balance, made⟩
    obtain rfl := Except.ok.inj made
    exact ⟨mint, a, b, rfl, pooled, accompanied, minted, Field.gives_of_amount feeA,
      Field.gives_of_amount feeB, Field.gives_of_amount balance, rfl, rfl⟩
  · rintro ⟨mint, a, b, lists⟩
    refine ⟨p.pool, lists.pool, p.companion, lists.companion, mint, lists.minted,
      a, Field.amount_of_gives lists.feeA, b, Field.amount_of_gives lists.feeB,
      p.liquidity, Field.amount_of_gives lists.balance, ?_⟩
    rw [← lists.fees, ← lists.keys]
    cases lists.own
    rfl

/-- A listing of what has been understood of a position, with these values for the fees and the
balance. -/
def written (venue : Venue) (p : Position) (fees balance : Json) : Json :=
  Json.ofMembers ((p.buildKeys.map fun key => (key.1, .string key.2)) ++
    [(venue.layout.feeA.title, fees), (venue.layout.balance.title, balance)])

lemma lookup_written (fees balance : Json)
    (keys : p.buildKeys = venue.buildKeys p.pool p.companion mint) :
    ∃ members, venue.written p fees balance = .object members ∧
      members.lookup venue.layout.pool.title = some (.string p.pool.text) ∧
      members.lookup venue.layout.companion.title = some (.string p.companion.text) ∧
      (∀ key, mint = some key → members.lookup venue.layout.mint.title = some (.string key.text)) ∧
      (mint = none → ∀ name ∈ venue.layout.mint.names, members.lookup name = none) ∧
      members.lookup venue.layout.feeA.title = some fees ∧
      (∀ name ∈ venue.layout.feeB.names, members.lookup name = none) ∧
      members.lookup venue.layout.balance.title = some balance := by
  refine ⟨_, rfl, ?_⟩
  rw [keys]
  cases venue <;> cases mint <;> simp [buildKeys, layout]

/-- Every field has its title as its first name. -/
lemma head_names {f : Field} (listed : f ∈ venue.layout.fields) :
    f.names.head? = some f.title := by
  have all : ∀ f ∈ venue.layout.fields, f.names.head? = some f.title := by
    cases venue <;> decide
  exact all f listed

lemma lists_written {fees balance : Json} {a b : Nat} (lists : venue.Lists members p mint a b)
    (feesOwed : fees.Writes p.feesOwed) (liquidity : balance.Writes p.liquidity) :
    ∃ members, venue.written p fees balance = .object members ∧
      venue.Lists members p mint p.feesOwed 0 := by
  obtain ⟨members', written, pool, companion, mint_some, mint_none, feeA, feeB, balanced⟩ :=
    lookup_written fees balance lists.keys
  have capped : p.feesOwed ≤ maxUInt128 := lists.fees ▸ Nat.min_le_right _ _
  have titled : ∀ f ∈ venue.layout.fields, ∀ v : Json, members'.lookup f.title = some v →
      v.isNull = false → f.value? members' = some v := fun f listed v found some =>
    Field.value?_of_lookup (head_names listed) found some
  simp only [Layout.fields, List.forall_mem_cons] at titled
  obtain ⟨poolValue, companionValue, mintValue, feeAValue, -, balanceValue, -⟩ := titled
  refine ⟨members', written, ?_⟩
  constructor
  case own => exact lists.own
  case pool => rw [Field.address, Field.address?_of_text (poolValue _ pool rfl)]
  case companion => rw [Field.address, Field.address?_of_text (companionValue _ companion rfl)]
  case minted =>
    cases mint with
    | none => exact (Field.unread_of_missing (mint_none rfl)).address?
    | some key => exact Field.address?_of_text (mintValue _ (mint_some key rfl) rfl)
  case feeA => exact Field.gives_of_writes (feeAValue _ feeA feesOwed.isNull) feesOwed capped
  case feeB => exact .inl ⟨Field.unread_of_missing feeB, rfl⟩
  case balance =>
    exact Field.gives_of_writes (balanceValue _ balanced liquidity.isNull) liquidity
      lists.balance.le
  case fees => rw [saturatingSum, Nat.add_zero, Nat.min_eq_left capped]
  case keys => exact lists.keys

/-- **Positions read back.**  Whatever a venue understands of a listing, it understands as the same
position when it is written out as a listing, the fees under the title of the first fee, and both
amounts as decimal text or, below 64 bits, as numbers.  The fees of the position are the sum of the
two fees that are listed, or the largest number of 128 bits where the sum is above it, so there is
something to claim just if one of the two is not zero. -/
theorem position_read_back {value : Json} (resolved : venue.resolve value = .ok p) :
    (∀ fees balance : Json, fees.Writes p.feesOwed → balance.Writes p.liquidity →
      venue.resolve (venue.written p fees balance) = .ok p) ∧
    ∃ members a b, value = .object members ∧
      venue.layout.feeA.Gives members a ∧ venue.layout.feeB.Gives members b ∧
      p.feesOwed = (if a + b < 2 ^ 128 then a + b else 2 ^ 128 - 1) ∧
      (p.available .claim = true ↔ a ≠ 0 ∨ b ≠ 0) := by
  obtain ⟨members, rfl⟩ : ∃ members, value = .object members := by
    cases value with
    | object members => exact ⟨members, rfl⟩
    | _ => cases resolved
  obtain ⟨mint, a, b, lists⟩ := resolve_eq_ok.1 resolved
  have sum : p.feesOwed = if a + b < 2 ^ 128 then a + b else 2 ^ 128 - 1 := by
    have fees := lists.fees
    rw [saturatingSum, maxUInt128] at fees
    split <;> omega
  constructor
  · intro fees balance feesOwed liquidity
    obtain ⟨members', written, relists⟩ := lists_written lists feesOwed liquidity
    rw [written, resolve_eq_ok]
    exact ⟨mint, p.feesOwed, 0, relists⟩
  · refine ⟨members, a, b, rfl, lists.feeA, lists.feeB, sum, ?_⟩
    rw [Position.available, decide_eq_true_iff, sum]
    split <;> omega

/-- Fees above 128 bits read back as the largest number, and a balance of three as a number. -/
theorem position_read_back_capped :
    let key := Json.string "11111111111111111111111111111111"
    let value := Json.ofMembers [("poolId", key), ("position", key), ("nftMint", key),
      ("feeOwedA", .string "340282366920938463463374607431768211455"), ("tokenFeesOwedB", .ofNat 7),
      ("liquidity", .string " 3 ")]
    ∃ p, Venue.clmm.resolve value = .ok p ∧ p.buildKeys.length = 3 ∧
      Venue.clmm.resolve (Venue.clmm.written p
        (.string "340282366920938463463374607431768211455") (.ofNat 3)) = .ok p := by
  intro key value
  let zero : Pubkey := .zero 32
  let p : Position := {
    venue := .clmm, pool := zero, companion := zero
    feesOwed := 340282366920938463463374607431768211455, liquidity := 3
    buildKeys := Venue.clmm.buildKeys zero zero (some zero) }
  have resolved : Venue.clmm.resolve value = .ok p := by decide +kernel
  have fees : "340282366920938463463374607431768211455" = toString p.feesOwed := by decide +kernel
  exact ⟨p, resolved, rfl, (position_read_back resolved).1 _ _ (.inl (congrArg Json.string fees))
    (.inr ⟨by decide, rfl⟩)⟩

end Venue

end PoolExit
