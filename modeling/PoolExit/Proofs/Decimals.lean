import PoolExit.Endpoint.Answer
import PoolExit.Proofs.Base64

/-!
# Decimal numbers in text

`readUnsigned` reads exactly the decimal writings of the numbers within its bound: digits, perhaps
behind a plus sign (`Text.readUnsigned_eq_ok`).  A number that is written out is such a writing of
itself (`Text.decimal_toString`), and so it reads back.
-/

namespace PoolExit

namespace Text

/-- The text is digits, perhaps behind a plus sign, and their value is the number. -/
def Decimal (cs : List Char) (n : Nat) : Prop :=
  ∃ ds, (cs = ds ∨ cs = '+' :: ds) ∧ ds ≠ [] ∧ (∀ d ∈ ds, d.isDigit = true) ∧
    Nat.ofDigitChars 10 ds 0 = n

/-! ## Reading -/

lemma toNat_le_toNat {a b : Char} (le : a ≤ b) : a.toNat ≤ b.toNat := by
  rw [Char.le_def, UInt32.le_iff_toNat_le] at le
  exact le

/-- The digits of base ten are the ASCII digits: a letter is worth ten at least. -/
lemma digitValue?_eq_some {c : Char} {d : Nat} :
    digitValue? 10 c = some d ↔ c.isDigit = true ∧ d = c.toNat - '0'.toNat := by
  have isDigit_iff : c.isDigit = true ↔ '0' ≤ c ∧ c ≤ '9' := by simp [Char.isDigit, Char.le_def]
  simp only [digitValue?, isDigit_iff, Bool.and_eq_true, decide_eq_true_eq]
  split
  next digit =>
    have low : 48 ≤ c.toNat := toNat_le_toNat digit.1
    have high : c.toNat ≤ 57 := toNat_le_toNat digit.2
    rw [Option.filter_some, if_pos (by simpa using by omega)]
    simp [digit, eq_comm]
  next other =>
    split
    next letter =>
      have low : 97 ≤ c.toNat := toNat_le_toNat letter.1
      rw [Option.filter_some, if_neg (by simpa using by omega)]
      simp [other]
    next =>
      split
      next letter =>
        have low : 65 ≤ c.toNat := toNat_le_toNat letter.1
        rw [Option.filter_some, if_neg (by simpa using by omega)]
        simp [other]
      next => simp [other]

lemma le_ofDigitChars (cs : List Char) (acc : Nat) : acc ≤ Nat.ofDigitChars 10 cs acc := by
  induction cs generalizing acc with
  | nil => exact Nat.le_refl acc
  | cons c cs ih =>
    rw [Nat.ofDigitChars_cons]
    exact Nat.le_trans (by omega) (ih _)

/-- Digits are read as their value, if this stays within the bound; what is read so far never
exceeds it. -/
lemma readDigits_eq_ok {bound n : Nat} {cs : List Char} {acc : Nat} (small : acc ≤ bound) :
    readDigits 10 bound acc cs = .ok n ↔
      (∀ c ∈ cs, c.isDigit = true) ∧ Nat.ofDigitChars 10 cs acc = n ∧ n ≤ bound := by
  induction cs generalizing acc with
  | nil =>
    simp only [readDigits, Nat.ofDigitChars_nil, Except.ok.injEq, List.not_mem_nil, false_imp_iff,
      implies_true, true_and]
    constructor
    · rintro rfl
      exact ⟨rfl, small⟩
    · exact And.left
  | cons c cs ih =>
    rw [readDigits, Nat.ofDigitChars_cons, List.forall_mem_cons]
    split
    next none =>
      have other : c.isDigit = false := by
        by_contra digit
        have value := digitValue?_eq_some.2 ⟨by simpa using digit, rfl⟩
        rw [none] at value
        cases value
      simp [other]
    next d some =>
      obtain ⟨digit, rfl⟩ := digitValue?_eq_some.1 some
      simp only [Nat.mul_comm acc]
      split
      next next_le => simp only [ih next_le, digit, true_and]
      next exceeds =>
        have above := le_ofDigitChars cs (10 * acc + (c.toNat - '0'.toNat))
        simp only [reduceCtorEq, false_iff]
        rintro ⟨-, rfl, within⟩
        exact exceeds (Nat.le_trans above within)

/-- A text reads as a number if it is a decimal writing of this number, which is within the
bound. -/
theorem readUnsigned_eq_ok {bound n : Nat} {cs : List Char} :
    readUnsigned 10 bound cs = .ok n ↔ Decimal cs n ∧ n ≤ bound := by
  have sign : ('+').isDigit = false := by decide
  unfold readUnsigned
  split
  next => simp [Decimal]
  next => simp [Decimal, sign]
  next rest nonempty =>
    rw [readDigits_eq_ok (Nat.zero_le bound)]
    constructor
    · rintro ⟨digits, value, within⟩
      exact ⟨⟨rest, .inr rfl, by rintro rfl; exact nonempty rfl, digits, value⟩, within⟩
    · rintro ⟨⟨ds, rfl | same, -, digits, value⟩, within⟩
      · simp [sign] at digits
      · obtain rfl := List.tail_eq_of_cons_eq same
        exact ⟨digits, value, within⟩
  next nonempty _ unsigned =>
    rw [readDigits_eq_ok (Nat.zero_le bound)]
    constructor
    · rintro ⟨digits, value, within⟩
      exact ⟨⟨cs, .inl rfl, nonempty, digits, value⟩, within⟩
    · rintro ⟨⟨ds, rfl | rfl, -, digits, value⟩, within⟩
      · exact ⟨digits, value, within⟩
      · exact absurd rfl (unsigned ds)

/-- A text reads as a 64-bit number if it is a decimal writing of this number. -/
lemma readUInt64_eq_ok {s : String} {n : UInt64} :
    readUInt64 s = .ok n ↔ Decimal s.toList n.toNat := by
  rw [readUInt64]
  constructor
  · intro read
    cases found : readUnsigned 10 maxUInt64 s.toList with
    | error e => simp [found, Except.map] at read
    | ok m =>
      obtain ⟨writing, within⟩ := readUnsigned_eq_ok.1 found
      have small : m < 2 ^ 64 := Nat.lt_succ_of_le within
      rw [found] at read
      obtain rfl := Except.ok.inj read
      rwa [UInt64.toNat_ofNat_of_lt' small]
  · intro writing
    have within : n.toNat ≤ maxUInt64 := Nat.le_of_lt_succ n.toNat_lt
    rw [readUnsigned_eq_ok.2 ⟨writing, within⟩]
    simp [Except.map]

/-! ## Writing -/

/-- A number that is written out is a decimal writing of itself. -/
theorem decimal_toString (n : Nat) : Decimal (toString n).toList n := by
  rw [Nat.toString_eq_repr, Nat.toList_repr]
  exact ⟨_, .inl rfl, Nat.toDigits_ne_nil,
    fun d => Nat.isDigit_of_mem_toDigits (by omega) (Nat.le_refl 10),
    Nat.ofDigitChars_toDigits (by omega) (Nat.le_refl 10)⟩

lemma isBlank_of_isDigit {c : Char} (digit : c.isDigit = true) : isBlank c = false := by
  rw [Char.isDigit_iff_toNat] at digit
  have low : 48 ≤ c.toNat := digit.1
  have high : c.toNat ≤ 57 := digit.2
  simp [isBlank]
  omega

lemma isBlank_toString {n : Nat} {c : Char} (mem : c ∈ (toString n).toList) :
    isBlank c = false := by
  rw [Nat.toString_eq_repr, Nat.toList_repr] at mem
  exact isBlank_of_isDigit (Nat.isDigit_of_mem_toDigits (by omega) (Nat.le_refl 10) mem)

lemma trimChars_toString (n : Nat) : trimChars (toString n).toList = (toString n).toList := by
  have trimmed : trimChars ([] ++ (toString n).toList ++ []) = (toString n).toList :=
    Base64.trimChars_surrounded (by simp) (by simp) fun c mem => isBlank_toString mem
  simpa using trimmed

end Text

/-! ## Numbers in JSON -/

namespace Json

lemma uint64?_eq_some {v : Json} {n : UInt64} : v.uint64? = some n ↔ v = .int n.toNat := by
  constructor
  · intro number
    unfold uint64? at number
    split at number
    next i =>
      split at number
      next fits =>
        obtain rfl := Option.some.inj number
        rw [UInt64.toNat_ofNat_of_lt' (by simpa [UInt64.size] using by omega)]
        rw [Int.toNat_of_nonneg fits.1]
      next => cases number
    next => cases number
  · rintro rfl
    have small := n.toNat_lt
    rw [uint64?, if_pos (by omega)]
    simp

/-- A 64-bit number may also stand in a text as a decimal writing of it, with blanks around. -/
lemma looseUInt64?_eq_some {v : Json} {n : UInt64} :
    v.looseUInt64? = some n ↔ v = .int n.toNat ∨
      ∃ s, v = .string s ∧ Text.Decimal (Text.trimChars s.toList) n.toNat := by
  unfold looseUInt64?
  split
  next s =>
    have text : (Text.trim s).toList = Text.trimChars s.toList := String.toList_ofList
    simp only [Except.toOption, reduceCtorEq, false_or,
      Json.string.injEq, exists_eq_left', ← text, ← Text.readUInt64_eq_ok]
    cases Text.readUInt64 (Text.trim s) <;> simp
  next other textless =>
    rw [uint64?_eq_some, or_iff_left]
    rintro ⟨s, rfl, -⟩
    exact textless s rfl

end Json

end PoolExit
