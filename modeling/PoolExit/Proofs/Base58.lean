import Mathlib.Data.Nat.Digits.Lemmas
import PoolExit.Bytes
import PoolExit.Proofs.Base64

/-!
# Base 58 reads back

The text of a byte string is read as this byte string (`Text.Base58.decodeChars_encodeChars`).  Its
leading ones are the leading zero bytes; behind them stand the digits of one number, and the bytes
behind the zeros are the digits of the same number in base 256.  Neither begins with a zero, so both
are given by the number.

The text of an address is never too long for the reader of addresses, so an address reads back too
(`Pubkey.read_text`).
-/

namespace PoolExit

namespace Text.Base58

/-! ## Numbers and their digits -/

lemma digitsOf_eq {base : Nat} (two : 2 ≤ base) (n : Nat) (acc : List Nat) :
    digitsOf base n acc = (Nat.digits base n).reverse ++ acc := by
  induction n using Nat.strong_induction_on generalizing acc with
  | _ n ih =>
    rw [digitsOf]
    split
    next stop =>
      obtain rfl : n = 0 := by omega
      simp
    next go =>
      have positive : 0 < n := by omega
      have smaller : n / base < n := Nat.div_lt_self positive two
      rw [ih _ smaller, Nat.digits_def' two positive]
      simp

lemma foldl_eq_ofDigits (base : Nat) (ds : List Nat) :
    ds.foldl (fun acc d => acc * base + d) 0 = Nat.ofDigits base ds.reverse := by
  rw [List.foldl_eq_foldr_reverse, Nat.ofDigits_eq_foldr]
  congr 1
  funext d acc
  simp [Nat.mul_comm, Nat.add_comm]

lemma toNat_eq_ofDigits (bytes : List UInt8) :
    toNat bytes = Nat.ofDigits 256 (bytes.map UInt8.toNat).reverse := by
  rw [← foldl_eq_ofDigits, List.foldl_map, toNat]

lemma toNat_lt_of_mem (bytes : List UInt8) :
    ∀ d ∈ (bytes.map UInt8.toNat).reverse, d < 256 := by
  intro d mem
  obtain ⟨b, -, rfl⟩ := List.mem_map.1 (List.mem_reverse.1 mem)
  exact b.toNat_lt

lemma toNat_lt (bytes : List UInt8) : toNat bytes < 256 ^ bytes.length := by
  have below := Nat.ofDigits_lt_base_pow_length (b := 256) (by omega) (toNat_lt_of_mem bytes)
  rwa [← toNat_eq_ofDigits, List.length_reverse, List.length_map] at below

/-- Most significant digit first, no number but zero begins with a zero. -/
lemma head_digits_ne_zero {base n d : Nat} (first : d ∈ (Nat.digits base n).reverse.head?) :
    d ≠ 0 := by
  rw [List.head?_reverse, Option.mem_def] at first
  have some : n ≠ 0 := by
    rintro rfl
    simp at first
  have nonempty : Nat.digits base n ≠ [] := Nat.digits_ne_nil_iff_ne_zero.2 some
  rw [List.getLast?_eq_some_getLast nonempty] at first
  obtain rfl := Option.some.inj first
  exact Nat.getLast_digit_ne_zero base some

/-- The bytes of a number are given by it, unless they begin with a zero. -/
lemma digits_toNat {bytes : List UInt8} (leads : ∀ b ∈ bytes.head?, b ≠ 0) :
    (Nat.digits 256 (toNat bytes)).reverse.map UInt8.ofNat = bytes := by
  rw [toNat_eq_ofDigits, Nat.digits_ofDigits 256 (by omega) _ (toNat_lt_of_mem bytes)]
  · have same : UInt8.ofNat ∘ UInt8.toNat = id := by
      funext b
      exact UInt8.ofNat_toNat
    rw [List.reverse_reverse, List.map_map, same, List.map_id]
  · intro nonempty
    rw [List.getLast_reverse]
    cases bytes with
    | nil => exact absurd rfl nonempty
    | cons b bytes =>
      intro zero
      exact leads b rfl (UInt8.toNat_inj.1 zero)

/-! ## Digits -/

lemma value?_digit {n : Nat} (small : n < 58) : value? (digit n) = some n := by
  have all : ∀ n : Fin 58, value? (digit n) = some n.val := by decide +kernel
  exact all ⟨n, small⟩

/-- The digits are ASCII characters, and none of them is a blank. -/
lemma digit_plain {n : Nat} (small : n < 58) :
    (digit n).toNat < 128 ∧ (digit n).utf8Size = 1 ∧ isBlank (digit n) = false := by
  have all : ∀ n : Fin 58, (digit n).toNat < 128 ∧ (digit n).utf8Size = 1 ∧
      isBlank (digit n) = false := by
    decide +kernel
  exact all ⟨n, small⟩

lemma digitValues_digits (offset : Nat) {vs : List Nat} (small : ∀ v ∈ vs, v < 58) :
    digitValues offset (vs.map digit) = .ok vs := by
  induction vs generalizing offset with
  | nil => rfl
  | cons v vs ih =>
    obtain ⟨here, further⟩ := List.forall_mem_cons.1 small
    have ascii := (digit_plain here).1
    rw [List.map_cons, digitValues, if_neg (by omega), value?_digit here]
    simp only [ih _ further, Except.map]

/-! ## Texts -/

/-- The values of the digits of a byte string: zeros, and then a number without leading zeros. -/
def values (bytes : List UInt8) : List Nat :=
  (bytes.takeWhile (· == 0)).map (fun _ => 0) ++
    (Nat.digits 58 (toNat (bytes.dropWhile (· == 0)))).reverse

lemma encodeChars_eq (bytes : List UInt8) : encodeChars bytes = (values bytes).map digit := by
  have one : digit 0 = '1' := by decide
  simp only [encodeChars, values, digitsOf_eq (Nat.le_add_left 2 56), List.append_nil,
    List.map_append, List.map_map, Function.comp_def, one]

lemma values_lt (bytes : List UInt8) : ∀ v ∈ values bytes, v < 58 := by
  intro v mem
  rcases List.mem_append.1 mem with mem | mem
  · obtain ⟨_, -, rfl⟩ := List.mem_map.1 mem
    omega
  · exact Nat.digits_lt_base (by omega) (List.mem_reverse.1 mem)

/-- **Base 58 reads back.**  The text of a byte string is read as this byte string. -/
theorem decodeChars_encodeChars (bytes : List UInt8) :
    decodeChars (encodeChars bytes) = .ok bytes := by
  have zeros : (values bytes).takeWhile (· == 0) =
      (bytes.takeWhile (· == 0)).map (fun _ => 0) := by
    rw [values, List.takeWhile_append_of_pos (by simp)]
    cases digits : (Nat.digits 58 (toNat (bytes.dropWhile (· == 0)))).reverse with
    | nil => rw [List.takeWhile_nil, List.append_nil]
    | cons d ds =>
      have first : d ≠ 0 := head_digits_ne_zero (by rw [digits]; rfl)
      rw [List.takeWhile_cons_of_neg (by simpa using first), List.append_nil]
  have number : (values bytes).foldl (fun acc v => acc * 58 + v) 0 =
      toNat (bytes.dropWhile (· == 0)) := by
    rw [foldl_eq_ofDigits, values, List.reverse_append, List.reverse_reverse, List.map_const',
      List.reverse_replicate, Nat.ofDigits_append_replicate_zero, Nat.ofDigits_digits]
  have leads : ∀ b ∈ (bytes.dropWhile (· == 0)).head?, b ≠ 0 := by
    intro b first
    have behind := List.head?_dropWhile_not (· == (0 : UInt8)) bytes
    rw [first] at behind
    simpa using behind
  have cleared : (bytes.takeWhile (· == 0)).map (fun _ => (0 : UInt8)) =
      bytes.takeWhile (· == 0) := by
    conv_rhs => rw [← List.map_id (bytes.takeWhile (· == 0))]
    refine List.map_congr_left fun b mem => ?_
    have zero : (b == 0) = true :=
      List.all_eq_true.1 (List.all_takeWhile (p := (· == 0)) (l := bytes)) b mem
    exact (beq_iff_eq.1 zero).symm
  rw [encodeChars_eq, decodeChars, digitValues_digits 0 (values_lt bytes)]
  change Except.ok _ = Except.ok _
  rw [zeros, number, digitsOf_eq (Nat.le_add_left 2 254), List.append_nil, digits_toNat leads,
    List.map_map, Function.comp_def, cleared, List.takeWhile_append_dropWhile]

/-- The text of 32 bytes has 44 digits at most: with twelve digits to spare, there is a digit for
every byte. -/
lemma length_values_le {bytes : List UInt8} (whole : bytes.length = 32) :
    (values bytes).length ≤ 44 := by
  have room : ∀ m : Fin 33, 256 ^ m.val ≤ 58 ^ (m.val + 12) := by decide +kernel
  have parts : (bytes.takeWhile (· == 0)).length + (bytes.dropWhile (· == 0)).length = 32 := by
    rw [← List.length_append, List.takeWhile_append_dropWhile, whole]
  have digits : (Nat.digits 58 (toNat (bytes.dropWhile (· == 0)))).length ≤
      (bytes.dropWhile (· == 0)).length + 12 := by
    rw [Nat.digits_length_le_iff (by omega)]
    exact (toNat_lt _).trans_le (room ⟨(bytes.dropWhile (· == 0)).length, by omega⟩)
  rw [values, List.length_append, List.length_map, List.length_reverse]
  omega

lemma utf8ByteSize_encode (bytes : List UInt8) :
    (encode bytes).utf8ByteSize = (values bytes).length := by
  have ascii : ∀ {vs : List Nat}, (∀ v ∈ vs, v < 58) →
      (String.ofList (vs.map digit)).utf8ByteSize = vs.length := by
    intro vs small
    induction vs with
    | nil => rfl
    | cons v vs ih =>
      obtain ⟨here, further⟩ := List.forall_mem_cons.1 small
      rw [List.map_cons, String.ofList_cons, String.utf8ByteSize_append,
        String.utf8ByteSize_singleton, ih further, List.length_cons, (digit_plain here).2.1,
        Nat.add_comm]
  rw [encode, encodeChars_eq, ascii (values_lt bytes)]

lemma isBlank_encodeChars (bytes : List UInt8) :
    ∀ c ∈ encodeChars bytes, isBlank c = false := by
  rw [encodeChars_eq]
  intro c mem
  obtain ⟨v, listed, rfl⟩ := List.mem_map.1 mem
  exact (digit_plain (values_lt bytes v listed)).2.2

lemma trim_encode (bytes : List UInt8) : trim (encode bytes) = encode bytes := by
  have trimmed : trimChars ([] ++ encodeChars bytes ++ []) = encodeChars bytes :=
    Base64.trimChars_surrounded (by simp) (by simp) (isBlank_encodeChars bytes)
  rw [List.nil_append, List.append_nil] at trimmed
  rw [trim, encode, String.toList_ofList, trimmed]

/-- Only the empty byte string has an empty text. -/
lemma encodeChars_ne_nil {bytes : List UInt8} (some : bytes ≠ []) : encodeChars bytes ≠ [] := by
  intro none
  have reads := decodeChars_encodeChars bytes
  have empty : decodeChars [] = .ok [] := by decide +kernel
  rw [none, empty] at reads
  exact some (Except.ok.inj reads).symm

lemma blank_encode {bytes : List UInt8} (some : bytes ≠ []) : blank (encode bytes) = false := by
  obtain ⟨c, cs, split⟩ := List.exists_cons_of_ne_nil (encodeChars_ne_nil some)
  have plain := isBlank_encodeChars bytes c (by simp [split])
  simp [blank, encode, split, plain]

end Text.Base58

/-- **Addresses read back.** -/
theorem Pubkey.read_text (key : Pubkey) : Pubkey.read key.text = .ok key := by
  have short : ¬ addressTextLimit < key.text.utf8ByteSize := by
    rw [FixedBytes.text, Text.Base58.utf8ByteSize_encode]
    exact Nat.not_lt.2 (Text.Base58.length_values_le key.length_eq)
  have decoded : Text.Base58.decode key.text = .ok key.bytes := by
    rw [Text.Base58.decode, FixedBytes.text, Text.Base58.encode, String.toList_ofList,
      Text.Base58.decodeChars_encodeChars]
  rw [Pubkey.read, if_neg short, decoded]
  simp [FixedBytes.ofBytes?, key.length_eq]

lemma Pubkey.blank_text (key : Pubkey) : Text.blank key.text = false := by
  refine Text.Base58.blank_encode fun none => ?_
  have whole := key.length_eq
  rw [none] at whole
  cases whole

end PoolExit
