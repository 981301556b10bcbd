import Mathlib.Data.List.TakeWhile
import Mathlib.Tactic.Common
import PoolExit.Proofs.Basic
import PoolExit.Text.Base64
import PoolExit.Text.Blank

/-!
# Base 64 is canonical

A byte string has one base-64 text, and no other text is read as this byte string
(`Text.Base64.decode_eq_ok`).  Groups of three bytes and four digits are compared as numbers of
twenty-four bits.  The last group is taken apart into its digits and its padding first, so that the
reader, which goes through it sign by sign, is met by induction only once in each direction.
-/

namespace PoolExit.Text.Base64

/-! ## Digits -/

lemma value?_digit {n : Nat} (small : n < 64) : value? (digit n) = some n := by
  have all : ∀ n : Fin 64, value? (digit n) = some n.val := by decide +kernel
  exact all ⟨n, small⟩

/-- A digit has one value, and this value has no other digit. -/
lemma value?_eq_some {c : Char} {v : Nat} : value? c = some v ↔ v < 64 ∧ c = digit v := by
  constructor
  · intro value
    have all : ∀ n : Fin 128, ∀ v ∈ value? (Char.ofNat n), v < 64 ∧ Char.ofNat n = digit v := by
      decide +kernel
    have ascii : c.toNat < 128 := by
      by_contra other
      simp only [value?] at value
      rw [if_neg (by omega), if_neg (by omega), if_neg (by omega), if_neg (by omega),
        if_neg (by omega)] at value
      cases value
    have found := all ⟨c.toNat, ascii⟩ v
    rw [Char.ofNat_toNat] at found
    exact found value
  · rintro ⟨small, rfl⟩
    exact value?_digit small

lemma digit_ne_padding {n : Nat} (small : n < 64) : digit n ≠ '=' := by
  intro same
  have value := value?_digit small
  rw [same] at value
  cases value

/-- A sign of a base-64 text. -/
def Sign (c : Char) : Prop := c = '=' ∨ ∃ n < 64, c = digit n

lemma Sign.ascii {c : Char} (sign : Sign c) : c.toNat < 128 := by
  have all : ∀ n : Fin 64, (digit n).toNat < 128 := by decide +kernel
  rcases sign with rfl | ⟨n, small, rfl⟩
  · decide
  · exact all ⟨n, small⟩

lemma Sign.not_blank {c : Char} (sign : Sign c) : isBlank c = false := by
  have all : ∀ n : Fin 64, isBlank (digit n) = false := by decide +kernel
  rcases sign with rfl | ⟨n, small, rfl⟩
  · decide
  · exact all ⟨n, small⟩

/-! ## Groups -/

lemma toNat_bytes {n : Nat} (small : n < 16777216) :
    (UInt8.ofNat (n / 65536)).toNat = n / 65536 ∧
      (UInt8.ofNat (n / 256)).toNat = n / 256 % 256 ∧ (UInt8.ofNat n).toNat = n % 256 := by
  refine ⟨?_, by simp, by simp⟩
  simpa using Nat.mod_eq_of_lt (show n / 65536 < 256 by omega)

/-- Three bytes are written with the digits that they were made from. -/
lemma encodeChars_bytesOf {a b c d : Nat} (ha : a < 64) (hb : b < 64) (hc : c < 64) (hd : d < 64)
    (rest : List UInt8) : encodeChars (bytesOf a b c d ++ rest) =
      digit a :: digit b :: digit c :: digit d :: encodeChars rest := by
  generalize number : ((a * 64 + b) * 64 + c) * 64 + d = n
  obtain ⟨first, second, third⟩ := toNat_bytes (n := n) (by omega)
  have whole : (n / 65536 * 256 + n / 256 % 256) * 256 + n % 256 = n := by omega
  have one : n / 262144 = a := by omega
  have two : n / 4096 % 64 = b := by omega
  have three : n / 64 % 64 = c := by omega
  have four : n % 64 = d := by omega
  simp only [bytesOf, number, List.cons_append, List.nil_append, encodeChars, first, second, third,
    whole, one, two, three, four]

/-- Three bytes are made from the digits that they are written with. -/
lemma bytesOf_digits (a b c : UInt8) :
    let n := (a.toNat * 256 + b.toNat) * 256 + c.toNat
    bytesOf (n / 262144) (n / 4096 % 64) (n / 64 % 64) (n % 64) = [a, b, c] := by
  intro n
  have ha := a.toNat_lt
  have hb := b.toNat_lt
  have hc := c.toNat_lt
  have number : (a.toNat * 256 + b.toNat) * 256 + c.toNat = n := rfl
  have whole : ((n / 262144 * 64 + n / 4096 % 64) * 64 + n / 64 % 64) * 64 + n % 64 = n := by omega
  obtain ⟨first, second, third⟩ := toNat_bytes (n := n) (by omega)
  simp only [bytesOf, whole, List.cons.injEq, and_true]
  refine ⟨UInt8.toNat_inj.1 ?_, UInt8.toNat_inj.1 ?_, UInt8.toNat_inj.1 ?_⟩ <;> omega

/-- One byte is written with two digits, the second of which has four bits to spare. -/
lemma encodeChars_one {a b : Nat} (ha : a < 64) (hb : b < 64) (spare : b % 16 = 0) :
    encodeChars ((bytesOf a b 0 0).take 1) = [digit a, digit b, '=', '='] := by
  generalize number : ((a * 64 + b) * 64 + 0) * 64 + 0 = n
  obtain ⟨first, -, -⟩ := toNat_bytes (n := n) (by omega)
  have one : n / 65536 * 16 / 64 = a := by omega
  have two : n / 65536 * 16 % 64 = b := by omega
  simp only [bytesOf, number, List.take_succ_cons, List.take_zero, encodeChars, first, one, two]

/-- Two bytes are written with three digits, the last of which has two bits to spare. -/
lemma encodeChars_two {a b c : Nat} (ha : a < 64) (hb : b < 64) (hc : c < 64)
    (spare : c % 4 = 0) :
    encodeChars ((bytesOf a b c 0).take 2) = [digit a, digit b, digit c, '='] := by
  generalize number : ((a * 64 + b) * 64 + c) * 64 + 0 = n
  obtain ⟨first, second, -⟩ := toNat_bytes (n := n) (by omega)
  have one : (n / 65536 * 256 + n / 256 % 256) * 4 / 4096 = a := by omega
  have two : (n / 65536 * 256 + n / 256 % 256) * 4 / 64 % 64 = b := by omega
  have three : (n / 65536 * 256 + n / 256 % 256) * 4 % 64 = c := by omega
  simp only [bytesOf, number, List.take_succ_cons, List.take_zero, encodeChars, first, second, one,
    two, three]

lemma take_one_digits (a : UInt8) :
    (bytesOf (a.toNat * 16 / 64) (a.toNat * 16 % 64) 0 0).take 1 = [a] := by
  have ha := a.toNat_lt
  generalize number :
    ((a.toNat * 16 / 64 * 64 + a.toNat * 16 % 64) * 64 + 0) * 64 + 0 = n
  obtain ⟨first, -, -⟩ := toNat_bytes (n := n) (by omega)
  simp only [bytesOf, number, List.take_succ_cons, List.take_zero, List.cons.injEq, and_true]
  exact UInt8.toNat_inj.1 (by omega)

lemma take_two_digits (a b : UInt8) :
    let n := (a.toNat * 256 + b.toNat) * 4
    (bytesOf (n / 4096) (n / 64 % 64) (n % 64) 0).take 2 = [a, b] := by
  intro n
  have ha := a.toNat_lt
  have hb := b.toNat_lt
  have value : (a.toNat * 256 + b.toNat) * 4 = n := rfl
  generalize number : ((n / 4096 * 64 + n / 64 % 64) * 64 + n % 64) * 64 + 0 = m
  obtain ⟨first, second, -⟩ := toNat_bytes (n := m) (by omega)
  simp only [bytesOf, number, List.take_succ_cons, List.take_zero, List.cons.injEq, and_true]
  exact ⟨UInt8.toNat_inj.1 (by omega), UInt8.toNat_inj.1 (by omega)⟩

/-! ## The last group -/

/-- What is read of a last group is digits first and then padding. -/
lemma signs_of_readTail {start : Nat} : ∀ {cs : List Char} {index : Nat} {tail tail' : Tail},
    readTail start index tail cs = .ok tail' →
    ∃ vs k, cs = vs.map digit ++ List.replicate k '=' ∧ (∀ v ∈ vs, v < 64) ∧
      tail'.values = tail.values ++ vs ∧ tail'.padding = tail.padding + k ∧
      (0 < tail.padding → vs = [])
  | [], index, tail, tail', h => by
      obtain rfl := Except.ok.inj h
      exact ⟨[], 0, by simp⟩
  | c :: rest, index, tail, tail', h => by
      rw [readTail] at h
      split at h
      next padding =>
        subst padding
        split at h
        · cases h
        · obtain ⟨vs, k, rfl, -, values, count, closed⟩ := signs_of_readTail h
          obtain rfl := closed (Nat.succ_pos _)
          exact ⟨[], k + 1, by simp [List.replicate_succ], by simp, values, by simp [count]; omega,
            fun _ => rfl⟩
      next =>
        split at h
        · cases h
        next opened =>
          split at h
          · cases h
          next v value =>
            unfold valueAt at value
            split at value
            next v' found =>
              obtain rfl := Except.ok.inj value
              obtain ⟨small, rfl⟩ := value?_eq_some.1 found
              obtain ⟨vs, k, rfl, all, values, count, -⟩ := signs_of_readTail h
              exact ⟨v' :: vs, k, rfl, List.forall_mem_cons.2 ⟨small, all⟩, by simp [values],
                count, fun padded => absurd padded opened⟩
            next => cases value

lemma readTail_digits (start : Nat) : ∀ {vs : List Nat} (index : Nat) (tail : Tail)
    (rest : List Char), (∀ v ∈ vs, v < 64) → tail.padding = 0 →
    ∃ last, readTail start index tail (vs.map digit ++ rest) =
      readTail start (index + vs.length) ⟨tail.values ++ vs, last, 0⟩ rest
  | [], index, ⟨values, last, _⟩, rest, _, rfl => ⟨last, by simp⟩
  | v :: vs, index, tail, rest, all, unpadded => by
      obtain ⟨small, all'⟩ := List.forall_mem_cons.1 all
      obtain ⟨last, reads⟩ := readTail_digits start (index + 1)
        { tail with values := tail.values ++ [v], last := (digit v).toNat } rest all' unpadded
      refine ⟨last, ?_⟩
      rw [List.map_cons, List.cons_append, readTail, if_neg (digit_ne_padding small),
        if_neg (by omega)]
      simp only [valueAt, value?_digit small, reads, List.append_assoc, List.singleton_append,
        List.length_cons, Nat.add_assoc, Nat.add_comm 1]

lemma readTail_padding (start : Nat) : ∀ (k : Nat) {index : Nat} (tail : Tail), 2 ≤ index →
    readTail start index tail (List.replicate k '=') =
      .ok { tail with padding := tail.padding + k }
  | 0, _, _, _ => rfl
  | k + 1, index, tail, behind => by
      rw [List.replicate_succ, readTail, if_pos rfl, if_neg (by omega),
        readTail_padding start k _ (by omega)]
      simp only [Nat.add_assoc, Nat.add_comm 1]

/-- A last group of at least two digits with padding is read as it is. -/
lemma readTail_signs (start : Nat) {vs : List Nat} (k : Nat) (all : ∀ v ∈ vs, v < 64)
    (two : 2 ≤ vs.length) : ∃ last,
      readTail start 0 {} (vs.map digit ++ List.replicate k '=') = .ok ⟨vs, last, k⟩ := by
  obtain ⟨last, reads⟩ := readTail_digits start 0 {} (List.replicate k '=') all rfl
  refine ⟨last, ?_⟩
  rw [reads, readTail_padding start k _ (by omega)]
  simp

/-- The bytes of a last group, from its digits and the number of its padding signs. -/
inductive Group : List Nat → Nat → List UInt8 → Prop
  | one {a b k} (spare : b % 16 = 0) (full : (k + 2) % 4 = 0) :
      Group [a, b] k ((bytesOf a b 0 0).take 1)
  | two {a b c k} (spare : c % 4 = 0) (full : (k + 3) % 4 = 0) :
      Group [a, b, c] k ((bytesOf a b c 0).take 2)
  | three {a b c d k} (full : k % 4 = 0) : Group [a, b, c, d] k (bytesOf a b c d)

lemma decodeTail_eq_ok {start : Nat} {cs : List Char} {vs : List Nat} {last k : Nat}
    {bytes : List UInt8} (reads : readTail start 0 {} cs = .ok ⟨vs, last, k⟩) :
    decodeTail start cs = .ok bytes ↔ Group vs k bytes := by
  simp only [decodeTail, reads, bind, Except.bind, throw, throwThe, MonadExceptOf.throw, pure,
    Except.pure]
  constructor
  · intro h
    rcases vs with _ | ⟨a, _ | ⟨b, _ | ⟨c, _ | ⟨d, _ | ⟨e, vs⟩⟩⟩⟩⟩
    · cases h
    · cases h
    · by_cases full : (k + 2) % 4 = 0
      · by_cases spare : b % 16 = 0
        · simp [full, spare] at h
          exact h ▸ .one spare full
        · simp [full, spare] at h
      · simp [full] at h
    · by_cases full : (k + 3) % 4 = 0
      · by_cases spare : c % 4 = 0
        · simp [full, spare] at h
          exact h ▸ .two spare full
        · simp [full, spare] at h
      · simp [full] at h
    · by_cases full : k % 4 = 0
      · simp [full] at h
        exact h ▸ .three full
      · simp [full] at h
    · have many : ¬ (a :: b :: c :: d :: e :: vs).length < 2 := by simp
      rw [if_neg many] at h
      split at h <;> cases h
  · intro group
    cases group with
    | one spare full | two spare full => simp [spare, full]
    | three full => simp [full]

/-- The last group of a text is the only text of its bytes. -/
lemma encodeChars_of_decodeTail {start : Nat} {cs : List Char} {bytes : List UInt8}
    (h : decodeTail start cs = .ok bytes) (short : cs.length ≤ 4) : encodeChars bytes = cs := by
  cases reads : readTail start 0 {} cs with
  | error e =>
      rw [decodeTail, reads] at h
      cases h
  | ok tail =>
      obtain ⟨vs, k, rfl, all, values, padding, -⟩ := signs_of_readTail reads
      obtain ⟨values', last, padding'⟩ := tail
      obtain rfl : vs = values' := values.symm
      obtain rfl : k = padding' := (Nat.zero_add k).symm.trans padding.symm
      -- Four signs at most leave room for one padding only.
      simp only [List.length_append, List.length_map, List.length_replicate] at short
      cases (decodeTail_eq_ok reads).1 h with
      | one spare full =>
          obtain rfl : k = 2 := by simp at short; omega
          exact encodeChars_one (all _ (by simp)) (all _ (by simp)) spare
      | two spare full =>
          obtain rfl : k = 1 := by simp at short; omega
          exact encodeChars_two (all _ (by simp)) (all _ (by simp)) (all _ (by simp)) spare
      | @three a b c d full =>
          obtain rfl : k = 0 := by simp at short; omega
          have written := encodeChars_bytesOf (all a (by simp)) (all b (by simp)) (all c (by simp))
            (all d (by simp)) []
          simpa [encodeChars] using written

/-! ## Texts -/

lemma valueAt_eq_ok {offset v : Nat} {c : Char} :
    valueAt offset c = .ok v ↔ v < 64 ∧ c = digit v := by
  rw [← value?_eq_some, valueAt]
  cases value? c <;> simp

/-- What is read from a place on is the only text of its bytes. -/
lemma encodeChars_of_decodeFrom {start : Nat} {cs : List Char} {bytes : List UInt8}
    (h : decodeFrom start cs = .ok bytes) : encodeChars bytes = cs := by
  induction start, cs using decodeFrom.induct generalizing bytes with
  | case1 start a b c d e rest ih =>
      simp only [decodeFrom, bind_eq_ok, valueAt_eq_ok] at h
      obtain ⟨x, ⟨hx, rfl⟩, y, ⟨hy, rfl⟩, z, ⟨hz, rfl⟩, w, ⟨hw, rfl⟩, more, others, done⟩ := h
      obtain rfl := Except.ok.inj done
      rw [encodeChars_bytesOf hx hy hz hw, ih others]
  | case2 start cs short =>
      have last : cs.length ≤ 4 := by
        rcases cs with _ | ⟨a, _ | ⟨b, _ | ⟨c, _ | ⟨d, _ | ⟨e, rest⟩⟩⟩⟩⟩
        any_goals simp
        exact (short a b c d e rest rfl).elim
      rw [decodeFrom] at h
      · exact encodeChars_of_decodeTail h last
      · exact short

/-- Three bytes are written as four digits that they are made of. -/
lemma exists_digits (a b c : UInt8) (rest : List UInt8) :
    ∃ x y z w, (x < 64 ∧ y < 64 ∧ z < 64 ∧ w < 64) ∧ bytesOf x y z w = [a, b, c] ∧
      encodeChars (a :: b :: c :: rest) =
        digit x :: digit y :: digit z :: digit w :: encodeChars rest := by
  have ha := a.toNat_lt
  have hb := b.toNat_lt
  have hc := c.toNat_lt
  exact ⟨_, _, _, _, by omega, bytesOf_digits a b c, rfl⟩

/-- One to three bytes are written as one group of four signs, which is the group of these bytes. -/
lemma exists_group {bytes : List UInt8} (some : bytes ≠ []) (few : bytes.length ≤ 3) :
    ∃ vs k, Group vs k bytes ∧ (∀ v ∈ vs, v < 64) ∧ vs.length + k = 4 ∧
      encodeChars bytes = vs.map digit ++ List.replicate k '=' := by
  rcases bytes with _ | ⟨a, _ | ⟨b, _ | ⟨c, _ | ⟨d, rest⟩⟩⟩⟩
  · contradiction
  · have ha := a.toNat_lt
    refine ⟨[a.toNat * 16 / 64, a.toNat * 16 % 64], 2, ?_, ?_, rfl, rfl⟩
    · rw [← take_one_digits a]
      exact .one (by omega) rfl
    · simp only [List.mem_cons, List.not_mem_nil, or_false, forall_eq_or_imp, forall_eq]
      omega
  · have ha := a.toNat_lt
    have hb := b.toNat_lt
    generalize number : (a.toNat * 256 + b.toNat) * 4 = n
    refine ⟨[n / 4096, n / 64 % 64, n % 64], 1, ?_, ?_, rfl, by rw [encodeChars, number]; rfl⟩
    · rw [← take_two_digits a b, number]
      exact .two (by omega) rfl
    · simp only [List.mem_cons, List.not_mem_nil, or_false, forall_eq_or_imp, forall_eq]
      omega
  · obtain ⟨x, y, z, w, small, made, written⟩ := exists_digits a b c []
    exact ⟨[x, y, z, w], 0, made ▸ .three rfl, by simpa using small, rfl, written⟩
  · rw [List.length_cons, List.length_cons, List.length_cons, List.length_cons] at few
    omega

lemma Group.two_le {vs : List Nat} {k : Nat} {bytes : List UInt8} (group : Group vs k bytes) :
    2 ≤ vs.length := by
  cases group <;> simp

/-- One to three bytes are read off their text. -/
lemma decodeFrom_of_few (start : Nat) {bytes : List UInt8} (some : bytes ≠ [])
    (few : bytes.length ≤ 3) : decodeFrom start (encodeChars bytes) = .ok bytes := by
  obtain ⟨vs, k, group, all, four, written⟩ := exists_group some few
  obtain ⟨last, reads⟩ := readTail_signs start k all group.two_le
  rw [written, decodeFrom]
  · exact (decodeTail_eq_ok reads).2 group
  · intro a b c d e rest same
    have length := congrArg List.length same
    simp [four] at length

lemma decodeFrom_encodeChars (start : Nat) : ∀ {bytes : List UInt8}, bytes ≠ [] →
    decodeFrom start (encodeChars bytes) = .ok bytes := by
  intro bytes
  induction bytes using encodeChars.induct generalizing start with
  | case1 => simp
  | case2 a => exact fun some => decodeFrom_of_few start some (by simp)
  | case3 a b => exact fun some => decodeFrom_of_few start some (by simp)
  | case4 a b c rest ih =>
      intro some
      rcases rest with _ | ⟨d, rest⟩
      · exact decodeFrom_of_few start some (by simp)
      · obtain ⟨x, y, z, w, ⟨hx, hy, hz, hw⟩, made, written⟩ := exists_digits a b c (d :: rest)
        have others := ih (start + 4) (by simp)
        -- Only the last group is read as a whole, so there has to be a sign behind this one.
        cases text : encodeChars (d :: rest) with
        | nil =>
            rw [text] at others
            cases others
        | cons e more =>
            rw [text] at others
            rw [written, text]
            simp only [decodeFrom, bind_eq_ok, valueAt_eq_ok]
            exact ⟨x, ⟨hx, rfl⟩, y, ⟨hy, rfl⟩, z, ⟨hz, rfl⟩, w, ⟨hw, rfl⟩, _, others,
              by rw [made]; rfl⟩

/-- A text is made of signs, four by four. -/
lemma signs_encodeChars (bytes : List UInt8) :
    (∀ c ∈ encodeChars bytes, Sign c) ∧ (encodeChars bytes).length % 4 = 0 := by
  have groupwise : ∀ bytes : List UInt8, bytes ≠ [] → bytes.length ≤ 3 →
      (∀ c ∈ encodeChars bytes, Sign c) ∧ (encodeChars bytes).length % 4 = 0 := by
    intro bytes some few
    obtain ⟨vs, k, -, all, four, written⟩ := exists_group some few
    rw [written]
    refine ⟨fun c mem => ?_, by simp [four]⟩
    rcases List.mem_append.1 mem with digits | padding
    · obtain ⟨v, mem', rfl⟩ := List.mem_map.1 digits
      exact .inr ⟨v, all v mem', rfl⟩
    · exact .inl (List.eq_of_mem_replicate padding)
  induction bytes using encodeChars.induct with
  | case1 => simp [encodeChars]
  | case2 a => exact groupwise [a] (by simp) (by simp)
  | case3 a b => exact groupwise [a, b] (by simp) (by simp)
  | case4 a b c rest ih =>
      obtain ⟨signs, length⟩ := groupwise [a, b, c] (by simp) (by simp)
      have split : encodeChars (a :: b :: c :: rest) =
          encodeChars [a, b, c] ++ encodeChars rest := by simp [encodeChars]
      rw [split, List.length_append]
      exact ⟨List.forall_mem_append.2 ⟨signs, ih.1⟩, by omega⟩

/-- A byte string is read off its characters, and off no others. -/
lemma decodeChars_eq_ok {cs : List Char} {bytes : List UInt8} :
    decodeChars cs = .ok bytes ↔ cs = encodeChars bytes := by
  constructor
  · intro h
    unfold decodeChars at h
    obtain ⟨-, -, h⟩ := bind_eq_ok.1 h
    cases cs with
    | nil =>
        obtain rfl := Except.ok.inj h
        rfl
    | cons c cs => exact (encodeChars_of_decodeFrom h).symm
  · rintro rfl
    have trailing : checkTrailing (encodeChars bytes).length (encodeChars bytes) = .ok () := by
      unfold checkTrailing
      have whole := (signs_encodeChars bytes).2
      split
      · exact if_neg fun h => by omega
      · rfl
    unfold decodeChars
    refine bind_eq_ok.2 ⟨(), trailing, ?_⟩
    by_cases none : bytes = []
    · subst none
      rfl
    · have reads := decodeFrom_encodeChars 0 none
      split
      next empty =>
        rw [List.isEmpty_iff.1 empty] at reads
        cases reads
      next => exact reads

/-! ## Bytes of a text -/

/-- A text of ASCII characters has these as its bytes. -/
lemma bytewise_of_ascii : ∀ {cs : List Char}, (∀ c ∈ cs, c.toNat < 128) → bytewise cs = cs
  | [], _ => rfl
  | c :: cs, ascii => by
      obtain ⟨here, ascii'⟩ := List.forall_mem_cons.1 ascii
      have others := bytewise_of_ascii ascii'
      unfold bytewise at others ⊢
      rw [List.flatMap_cons, others]
      simp [here]

lemma toNat_ofNat_of_lt {n : Nat} (small : n < 256) : (Char.ofNat n).toNat = n := by
  have all : ∀ n : Fin 256, (Char.ofNat n.val).toNat = n.val := by decide +kernel
  exact all ⟨n, small⟩

/-- A character that is none of ASCII has bytes that are none either, the first for one. -/
lemma ascii_of_bytewise {cs : List Char} (ascii : ∀ c ∈ bytewise cs, c.toNat < 128) :
    ∀ c ∈ cs, c.toNat < 128 := by
  intro c mem
  by_contra other
  have bound : c.toNat < 0x110000 := by
    rcases c.valid with low | high
    · exact Nat.lt_trans low (by decide)
    · exact high.2
  have first : ∃ n, 128 ≤ n ∧ n < 256 ∧ Char.ofNat n ∈ bytewise cs := by
    by_cases two : c.toNat < 0x800
    · exact ⟨0xC0 + c.toNat / 0x40, by omega, by omega,
        List.mem_flatMap.2 ⟨c, mem, by simp [other, two]⟩⟩
    · by_cases three : c.toNat < 0x10000
      · exact ⟨0xE0 + c.toNat / 0x1000, by omega, by omega,
          List.mem_flatMap.2 ⟨c, mem, by simp [other, two, three]⟩⟩
      · exact ⟨0xF0 + c.toNat / 0x40000, by omega, by omega,
          List.mem_flatMap.2 ⟨c, mem, by simp [other, two, three]⟩⟩
  obtain ⟨n, high, small, mem'⟩ := first
  have byte := ascii _ mem'
  rw [toNat_ofNat_of_lt small] at byte
  omega

/-- **Base 64 is canonical.**  A byte string is read off its text, and off no other. -/
theorem decode_eq_ok {s : String} {bytes : List UInt8} :
    decode s = .ok bytes ↔ s = encode bytes := by
  have signs := (signs_encodeChars bytes).1
  rw [decode, decodeChars_eq_ok, encode]
  constructor
  · intro same
    have ascii := ascii_of_bytewise (same ▸ fun c mem => (signs c mem).ascii)
    rw [← same, bytewise_of_ascii ascii, String.ofList_toList]
  · rintro rfl
    rw [String.toList_ofList]
    exact bytewise_of_ascii fun c mem => (signs c mem).ascii

/-! ## Blanks around a text -/

lemma dropWhile_isBlank {blanks cs : List Char} (all : ∀ c ∈ blanks, isBlank c = true)
    (plain : ∀ c ∈ cs.head?, isBlank c = false) : (blanks ++ cs).dropWhile isBlank = cs := by
  rw [List.dropWhile_append_of_pos all]
  cases cs with
  | nil => rfl
  | cons c cs => exact List.dropWhile_cons_of_neg (by simp [plain c rfl])

/-- Blanks come off a text that neither begins nor ends with one. -/
lemma trimChars_between {front cs back : List Char} (before : ∀ c ∈ front, isBlank c = true)
    (behind : ∀ c ∈ back, isBlank c = true) (first : ∀ c ∈ cs.head?, isBlank c = false)
    (last : ∀ c ∈ cs.getLast?, isBlank c = false) : trimChars (front ++ cs ++ back) = cs := by
  cases cs with
  | nil =>
      have all : ∀ c ∈ front ++ back, isBlank c = true := List.forall_mem_append.2 ⟨before, behind⟩
      have none : (front ++ back ++ []).dropWhile isBlank = [] := dropWhile_isBlank all (by simp)
      rw [List.append_nil] at none
      rw [List.append_nil, trimChars, none]
      rfl
  | cons c cs =>
      rw [← List.head?_reverse] at last
      rw [List.append_assoc, trimChars, dropWhile_isBlank before (by simpa using first),
        List.reverse_append, dropWhile_isBlank (by simpa using behind) last, List.reverse_reverse]

lemma trimChars_surrounded {front cs back : List Char} (before : ∀ c ∈ front, isBlank c = true)
    (behind : ∀ c ∈ back, isBlank c = true) (plain : ∀ c ∈ cs, isBlank c = false) :
    trimChars (front ++ cs ++ back) = cs :=
  trimChars_between before behind (fun c mem => plain c (List.mem_of_mem_head? mem))
    fun c mem => plain c (List.mem_of_mem_getLast? mem)

/-- No sign is a blank, so the blanks around a text are trimmed away and nothing else. -/
lemma trim_surrounded {front back : String} (before : blank front = true)
    (behind : blank back = true) (bytes : List UInt8) :
    trim (front ++ encode bytes ++ back) = encode bytes := by
  have plain : ∀ c ∈ encodeChars bytes, isBlank c = false :=
    fun c mem => ((signs_encodeChars bytes).1 c mem).not_blank
  rw [trim, encode, String.toList_append, String.toList_append, String.toList_ofList,
    trimChars_surrounded (List.all_eq_true.1 before) (List.all_eq_true.1 behind) plain]

lemma trim_encode (bytes : List UInt8) : trim (encode bytes) = encode bytes := by
  have trimmed : trim ("" ++ encode bytes ++ "") = encode bytes := trim_surrounded rfl rfl bytes
  simpa using trimmed

end PoolExit.Text.Base64

namespace PoolExit.Text

/-- Of a blank text nothing is left without the blanks at its ends. -/
lemma trim_blank {s : String} (blank : Text.blank s = true) : trim s = "" := by
  have trimmed : trimChars (s.toList ++ [] ++ []) = [] :=
    Base64.trimChars_surrounded (List.all_eq_true.1 blank) (by simp) (by simp)
  rw [List.append_nil, List.append_nil] at trimmed
  rw [trim, trimmed, String.ofList_nil]

lemma blank_of_trimChars {cs : List Char} (none : trimChars cs = []) :
    ∀ c ∈ cs, isBlank c = true := by
  rw [trimChars, List.reverse_eq_nil_iff, List.dropWhile_eq_nil_iff] at none
  have first := List.head?_dropWhile_not isBlank cs
  cases behind : cs.dropWhile isBlank with
  | nil => exact List.dropWhile_eq_nil_iff.1 behind
  | cons c rest =>
    rw [behind] at first none
    simp [none c (by simp)] at first

/-- Of a text that is not blank something is left. -/
lemma isEmpty_trim (s : String) : (trim s).isEmpty = blank s := by
  cases all : blank s with
  | true => rw [trim_blank all]; rfl
  | false =>
    by_contra empty
    have none : trimChars s.toList = [] := by
      rw [Bool.not_eq_false, String.isEmpty_iff, trim, String.ofList_eq_empty_iff] at empty
      exact empty
    rw [blank, List.all_eq_true.2 (blank_of_trimChars none)] at all
    cases all

end PoolExit.Text
