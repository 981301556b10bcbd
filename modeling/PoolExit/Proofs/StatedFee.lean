import Mathlib.Algebra.Group.Nat.Defs
import PoolExit.Chain.ComputeBudget

/-!
# The fee that a message states

A message states two figures in its instructions to the compute-budget program: the price of a unit
and the limit of units.  Each has a mark of its own, and the little-endian bytes of the number
follow it (`ComputeBudget.Figure.Writes`).  What a message tells of a figure is the number in the
first instruction that states one (`Message.first_stated_counts`).  All other instructions can be
put in anywhere, those that state the other figure too.
-/

namespace PoolExit

namespace ComputeBudget

/-! ## Numbers in bytes -/

/-- The bytes of a number, the lowest first. -/
def littleEndianBytes : (size : Nat) → Nat → List UInt8
  | 0, _ => []
  | size + 1, n => UInt8.ofNat n :: littleEndianBytes size (n / 256)

lemma length_littleEndianBytes (size n : Nat) : (littleEndianBytes size n).length = size := by
  induction size generalizing n with
  | zero => rfl
  | succ size ih => rw [littleEndianBytes, List.length_cons, ih]

lemma littleEndian_cons (b : UInt8) (bytes : List UInt8) :
    littleEndian (b :: bytes) = b.toNat + 256 * littleEndian bytes := rfl

/-- The bytes of a number that fits are those of this number. -/
lemma littleEndian_bytes {size n : Nat} (fits : n < 256 ^ size) :
    littleEndian (littleEndianBytes size n) = n := by
  induction size generalizing n with
  | zero =>
      obtain rfl : n = 0 := by simpa using fits
      rfl
  | succ size ih =>
      have further : n / 256 < 256 ^ size := by
        rw [Nat.pow_succ] at fits
        exact Nat.div_lt_of_lt_mul (by rwa [Nat.mul_comm])
      have lowest : (UInt8.ofNat n).toNat = n % 256 := UInt8.toNat_ofNat' ..
      rw [littleEndianBytes, littleEndian_cons, ih further, lowest]
      exact Nat.mod_add_div n 256

/-- Bytes are those of one number, and it fits. -/
lemma bytes_littleEndian (bytes : List UInt8) :
    littleEndian bytes < 256 ^ bytes.length ∧
      littleEndianBytes bytes.length (littleEndian bytes) = bytes := by
  induction bytes with
  | nil => exact ⟨Nat.one_pos, rfl⟩
  | cons b bytes ih =>
      have small := b.toNat_lt
      obtain ⟨fits, same⟩ := ih
      rw [List.length_cons, littleEndian_cons, Nat.pow_succ, littleEndianBytes]
      refine ⟨by omega, congrArg₂ _ ?_ ?_⟩
      · refine UInt8.toNat_inj.1 ?_
        rw [UInt8.toNat_ofNat']
        omega
      · rwa [show (b.toNat + 256 * littleEndian bytes) / 256 = littleEndian bytes by omega]

/-! ## Figures -/

/-- A number that instructions can state: the byte that marks it, and how many bytes it takes. -/
structure Figure where
  tag : UInt8
  size : Nat
deriving DecidableEq

namespace Figure

/-- The price of a compute unit. -/
def price : Figure := ⟨3, 8⟩

/-- The limit of compute units. -/
def limit : Figure := ⟨2, 4⟩

/-- Data that writes a number: the mark, the bytes of the number, and anything behind them. -/
def Writes (f : Figure) (n : Nat) (data : List UInt8) : Prop :=
  n < 256 ^ f.size ∧ ∃ rest, data = f.tag :: (littleEndianBytes f.size n ++ rest)

/-- Data is decoded just if it writes a number, and as this number. -/
lemma decodeTagged_eq_some {f : Figure} {data : List UInt8} {n : Nat} :
    decodeTagged f.tag f.size data = some n ↔ f.Writes n data := by
  constructor
  · intro decoded
    cases data with
    | nil => cases decoded
    | cons t rest =>
        rw [decodeTagged] at decoded
        split at decoded
        next whole =>
          obtain ⟨rfl, long⟩ := whole
          obtain rfl := Option.some.inj decoded
          have taken : (rest.take f.size).length = f.size := List.length_take_of_le long
          obtain ⟨fits, same⟩ := bytes_littleEndian (rest.take f.size)
          rw [taken] at fits same
          exact ⟨fits, rest.drop f.size, by rw [same, List.take_append_drop]⟩
        next => cases decoded
  · rintro ⟨fits, rest, rfl⟩
    have bytes := length_littleEndianBytes f.size n
    rw [decodeTagged, if_pos ⟨rfl, by simp [bytes]⟩, List.take_left' bytes, littleEndian_bytes fits]

end Figure

end ComputeBudget

open ComputeBudget (Figure littleEndianBytes)

/-! ## Instructions -/

namespace Instruction

/-- The instruction states the number: it goes to the compute-budget program, one of the accounts
that the message names itself, and its data writes the number. -/
structure States (keys : List Pubkey) (f : Figure) (n : Nat) (i : Instruction) : Prop where
  program : keys[i.program.toNat]? = some ComputeBudget.program
  data : f.Writes n i.data

/-- Why an instruction states nothing: it goes to another program, the message does not name its
program, or its data has too few bytes behind a mark, or no mark at all. -/
inductive Mute (keys : List Pubkey) (i : Instruction) : Prop
  | elsewhere {key} (goes : keys[i.program.toNat]? = some key)
      (other : key ≠ ComputeBudget.program) : Mute keys i
  | outside (beyond : keys.length ≤ i.program.toNat) : Mute keys i
  | short (short : ∀ f ∈ [Figure.price, Figure.limit], ∀ rest,
      i.data = f.tag :: rest → rest.length < f.size) : Mute keys i

/-- The number that an instruction states, as it is decoded. -/
def stated? (keys : List Pubkey) (f : Figure) (i : Instruction) : Option Nat :=
  if keys[i.program.toNat]? = some ComputeBudget.program then
    ComputeBudget.decodeTagged f.tag f.size i.data
  else none

variable {keys : List Pubkey} {f g : Figure} {n : Nat} {i : Instruction}

lemma stated?_eq_some : i.stated? keys f = some n ↔ i.States keys f n := by
  unfold stated?
  split
  next goes => exact Figure.decodeTagged_eq_some.trans ⟨.mk goes, States.data⟩
  next elsewhere => exact ⟨nofun, fun states => absurd states.program elsewhere⟩

lemma stated?_eq_none : i.stated? keys f = none ↔ ∀ n, ¬ i.States keys f n := by
  simp only [← stated?_eq_some, Option.eq_none_iff_forall_ne_some, ne_eq]

/-- A mute instruction states neither figure. -/
lemma Mute.stated? (mute : i.Mute keys) (known : f ∈ [Figure.price, Figure.limit]) :
    i.stated? keys f = none := by
  refine stated?_eq_none.2 fun n states => ?_
  have program := states.program
  cases mute with
  | elsewhere goes other => exact other (Option.some.inj (goes.symm.trans program))
  | outside beyond =>
      rw [List.getElem?_eq_none beyond] at program
      cases program
  | short short =>
      obtain ⟨-, rest, data⟩ := states.data
      have few := short f known _ data
      rw [List.length_append, ComputeBudget.length_littleEndianBytes] at few
      omega

/-- An instruction states one figure at most, as figures have different marks. -/
lemma States.stated?_other (states : i.States keys g n) (apart : f.tag ≠ g.tag) :
    i.stated? keys f = none := by
  refine stated?_eq_none.2 fun m states' => apart ?_
  obtain ⟨-, rest, data⟩ := states.data
  obtain ⟨-, rest', data'⟩ := states'.data
  exact (List.cons.inj (data'.symm.trans data)).1

end Instruction

/-- The second list is the first one with elements of a kind put in, anywhere and as many as there
may be. -/
inductive Inserted {α : Type} (P : α → Prop) : List α → List α → Prop
  | nil : Inserted P [] []
  | keep (a) {as bs} (rest : Inserted P as bs) : Inserted P (a :: as) (a :: bs)
  | insert {a as bs} (new : P a) (rest : Inserted P as bs) : Inserted P as (a :: bs)

/-- Elements that give nothing may be put in without any difference. -/
lemma Inserted.findSome?_eq {α β : Type} {P : α → Prop} {read : α → Option β} {as bs : List α}
    (inserted : Inserted P as bs) (silent : ∀ a, P a → read a = none) :
    bs.findSome? read = as.findSome? read := by
  induction inserted with
  | nil => rfl
  | keep a rest ih => simp only [List.findSome?_cons, ih]
  | insert new rest ih => rw [List.findSome?_cons, silent _ new, ih]

/-! ## Messages -/

namespace Message

/-- The first of the instructions to state the figure states this number. -/
def FirstStates (keys : List Pubkey) (f : Figure) (is : List Instruction) (n : Nat) : Prop :=
  ∃ before i after, is = before ++ i :: after ∧ i.States keys f n ∧
    ∀ j ∈ before, ∀ k, ¬ j.States keys f k

/-- What is told of a figure is what the first instruction states that states it.  `told` is what
messages tell. -/
structure Tells (m : Message) (f : Figure) (told : Message → Option Nat) : Prop where
  first : ∀ n, told m = some n ↔ FirstStates m.keys f m.instructions n
  none : told m = none ↔ ∀ i ∈ m.instructions, ∀ n, ¬ i.States m.keys f n
  /-- Instructions that state nothing, or the other figure, make no difference. -/
  inserted : ∀ g ∈ [Figure.price, Figure.limit], g ≠ f → ∀ is,
    Inserted (fun i => i.Mute m.keys ∨ ∃ n, i.States m.keys g n) m.instructions is →
    told { m with instructions := is } = told m
  /-- Every number that fits is read back, whatever stands behind it. -/
  written : ∀ n program accounts rest is, n < 256 ^ f.size →
    m.keys[program.toNat]? = some ComputeBudget.program →
    told { m with instructions :=
      ⟨program, accounts, f.tag :: (littleEndianBytes f.size n ++ rest)⟩ :: is } = some n

/-- The number that the instructions of a message state first. -/
def stated? (f : Figure) (m : Message) : Option Nat :=
  m.instructions.findSome? fun i => i.stated? m.keys f

lemma findSome?_computeBudgetData (m : Message) (f : Figure) :
    m.computeBudgetData.findSome? (ComputeBudget.decodeTagged f.tag f.size) = m.stated? f := by
  unfold computeBudgetData stated?
  induction m.instructions with
  | nil => rfl
  | cons i is ih =>
      rw [List.findSome?_cons, ← ih, List.filter_cons, Instruction.stated?]
      by_cases goes : m.keys[i.program.toNat]? = some ComputeBudget.program
      · rw [if_pos (beq_iff_eq.2 goes), if_pos goes]
        rfl
      · rw [if_neg (by simpa using goes), if_neg goes]

lemma computeUnitPrice_eq (m : Message) :
    m.computeUnitPrice = (m.stated? .price).map UInt64.ofNat := by
  rw [← findSome?_computeBudgetData, List.map_findSome?]
  rfl

lemma computeUnitLimit_eq (m : Message) :
    m.computeUnitLimit = (m.stated? .limit).map UInt32.ofNat := by
  rw [← findSome?_computeBudgetData, List.map_findSome?]
  rfl

lemma firstStates_of_stated? {m : Message} {f : Figure} {n : Nat} :
    m.stated? f = some n ↔ FirstStates m.keys f m.instructions n := by
  simp only [stated?, List.findSome?_eq_some_iff, Instruction.stated?_eq_some,
    Instruction.stated?_eq_none, FirstStates]

lemma tells_stated? {f : Figure} (known : f ∈ [Figure.price, Figure.limit]) (m : Message) :
    m.Tells f (stated? f) where
  first _ := firstStates_of_stated?
  none := by simp only [stated?, List.findSome?_eq_none_iff, Instruction.stated?_eq_none]
  inserted g known' other is inserted := by
    have apart : f.tag ≠ g.tag := by
      have marks : ∀ f ∈ [Figure.price, Figure.limit], ∀ g ∈ [Figure.price, Figure.limit],
          g ≠ f → f.tag ≠ g.tag := by
        decide
      exact marks f known g known' other
    refine inserted.findSome?_eq fun i silent => ?_
    rcases silent with mute | ⟨n, states⟩
    · exact mute.stated? known
    · exact states.stated?_other apart
  written n program accounts rest is fits goes :=
    firstStates_of_stated?.2 ⟨[], _, is, rfl, ⟨goes, fits, rest, rfl⟩, by simp⟩

/-- What is stated of a figure fits the bytes that it takes. -/
lemma lt_of_stated? {m : Message} {f : Figure} {n : Nat} (stated : m.stated? f = some n) :
    n < 256 ^ f.size := by
  obtain ⟨-, i, -, -, states, -⟩ := firstStates_of_stated?.1 stated
  exact states.data.1

lemma toNat_computeUnitPrice (m : Message) :
    m.computeUnitPrice.map UInt64.toNat = m.stated? .price := by
  rw [computeUnitPrice_eq]
  cases stated : m.stated? .price with
  | none => rfl
  | some n => exact congrArg some (UInt64.toNat_ofNat_of_lt' (lt_of_stated? stated))

lemma toNat_computeUnitLimit (m : Message) :
    m.computeUnitLimit.map UInt32.toNat = m.stated? .limit := by
  rw [computeUnitLimit_eq]
  cases stated : m.stated? .limit with
  | none => rfl
  | some n => exact congrArg some (UInt32.toNat_ofNat_of_lt' (lt_of_stated? stated))

/-- **The first statement counts.**  For every message of either format, the price and the limit of
units are the numbers in the first instruction that states a price and in the first that states a
limit, and there is none where no instruction does so.  Instructions that state nothing may be put
in anywhere, a price makes no difference to the limit and a limit none to the price, and every
number that fits is read back. -/
theorem first_stated_counts (m : Message) :
    m.Tells .price (fun m => m.computeUnitPrice.map UInt64.toNat) ∧
      m.Tells .limit (fun m => m.computeUnitLimit.map UInt32.toNat) := by
  have price : (fun m : Message => m.computeUnitPrice.map UInt64.toNat) = stated? .price :=
    funext toNat_computeUnitPrice
  have limit : (fun m : Message => m.computeUnitLimit.map UInt32.toNat) = stated? .limit :=
    funext toNat_computeUnitLimit
  rw [price, limit]
  exact ⟨tells_stated? (by simp) m, tells_stated? (by simp) m⟩

/-- A price that is cut short, one that goes to an account beyond the message's own, and a limit do
not keep the fourth instruction from stating the price. -/
example :
    let price : List UInt8 := [3, 0xE8, 3, 0, 0, 0, 0, 0, 0, 255]
    ({ Message.empty with
        keys := [ComputeBudget.program]
        instructions := [⟨0, [], [3, 1]⟩, ⟨1, [], price⟩, ⟨0, [], [2, 7, 0, 0, 0]⟩, ⟨0, [], price⟩]
      } : Message).computeUnitPrice = some 1000 := by
  decide

end Message

end PoolExit
