import Mathlib.Data.List.TakeDrop
import PoolExit.Proofs.Basic
import PoolExit.Proofs.Decimals
import PoolExit.Wallet.Secret

/-!
# Enumerations of bytes

Bytes can be enumerated in text: in decimal, with commas between them (`Text.Enumerates`).  Between
brackets such a text is a JSON list, and by itself it is cut at the commas.  Both readers go along
the numbers of the enumeration and find its bytes (`Secret.jsonBytes_of_enumerates`,
`Secret.listedBytes_of_enumerates`).
-/

namespace PoolExit

namespace Text

/-- A byte in decimal. -/
def byteChars (b : UInt8) : List Char := (toString b.toNat).toList

/-- The bytes in decimal, with a comma between two of them and perhaps spaces around the comma. -/
inductive Enumerates (space : Char → Bool) : List UInt8 → List Char → Prop
  | one (b : UInt8) : Enumerates space [b] (byteChars b)
  | more (b : UInt8) {bytes cs l r} (before : ∀ c ∈ l, space c = true)
      (behind : ∀ c ∈ r, space c = true) (others : Enumerates space bytes cs) :
      Enumerates space (b :: bytes) (byteChars b ++ l ++ ',' :: (r ++ cs))

lemma isDigit_of_mem_byteChars {b : UInt8} {c : Char} (mem : c ∈ byteChars b) :
    c.isDigit = true := by
  rw [byteChars, Nat.toString_eq_repr, Nat.toList_repr] at mem
  exact Nat.isDigit_of_mem_toDigits (by omega) (Nat.le_refl 10) mem

/-- A byte is written without leading zeros. -/
lemma byteChars_cases (b : UInt8) :
    ∃ d ds, byteChars b = d :: ds ∧ d.isDigit = true ∧ (d = '0' → ds = []) := by
  have all : ∀ n : Fin 256, (toString n.val).toList.head? = some '0' →
      (toString n.val).toList.length = 1 := by
    decide +kernel
  have short := all ⟨b.toNat, b.toNat_lt⟩
  have digits : ∀ c ∈ byteChars b, c.isDigit = true := fun _ => isDigit_of_mem_byteChars
  have nonempty : byteChars b ≠ [] := by
    rw [byteChars, Nat.toString_eq_repr, Nat.toList_repr]
    exact Nat.toDigits_ne_nil
  obtain ⟨d, ds, split⟩ := List.exists_cons_of_ne_nil nonempty
  refine ⟨d, ds, split, digits d (by simp [split]), ?_⟩
  rintro rfl
  have one : (byteChars b).length = 1 := short (by rw [← byteChars, split]; rfl)
  rw [split] at one
  exact List.length_eq_zero_iff.1 (Nat.succ.inj one)

namespace Enumerates

variable {space : Char → Bool} {bytes : List UInt8} {cs : List Char}

lemma chars (enum : Enumerates space bytes cs) :
    ∀ c ∈ cs, c.isDigit = true ∨ c = ',' ∨ space c = true := by
  induction enum with
  | one b => exact fun c mem => .inl (isDigit_of_mem_byteChars mem)
  | more b before behind others ih =>
      intro c mem
      simp only [List.mem_append, List.mem_cons] at mem
      rcases mem with (number | left) | rfl | right | other
      · exact .inl (isDigit_of_mem_byteChars number)
      · exact .inr (.inr (before c left))
      · exact .inr (.inl rfl)
      · exact .inr (.inr (behind c right))
      · exact ih c other

/-- Nothing but digits, commas and spaces stands in an enumeration. -/
lemma not_mem (enum : Enumerates space bytes cs) {d : Char} (other : d.isDigit = false)
    (uncomma : d ≠ ',') (unspace : space d = false) : d ∉ cs := by
  intro mem
  rcases enum.chars d mem with digit | comma | blank
  · simp [digit] at other
  · exact uncomma comma
  · simp [blank] at unspace

/-- An enumeration begins with a digit. -/
lemma head (enum : Enumerates space bytes cs) :
    ∃ d rest, cs = d :: rest ∧ d.isDigit = true := by
  cases enum with
  | one b =>
      obtain ⟨d, ds, split, digit, -⟩ := byteChars_cases b
      exact ⟨d, ds, split, digit⟩
  | more b before behind others =>
      obtain ⟨d, ds, split, digit, -⟩ := byteChars_cases b
      exact ⟨d, _, by rw [split]; rfl, digit⟩

/-- An enumeration ends with a digit. -/
lemma last (enum : Enumerates space bytes cs) : ∀ c ∈ cs.getLast?, c.isDigit = true := by
  induction enum with
  | one b => exact fun c mem => isDigit_of_mem_byteChars (List.mem_of_mem_getLast? mem)
  | more b before behind others ih =>
      obtain ⟨d, rest, rfl, -⟩ := others.head
      intro c mem
      refine ih c ?_
      simpa [List.getLast?_append, List.getLast?_cons] using mem

lemma length_le (enum : Enumerates space bytes cs) : bytes.length ≤ cs.length := by
  induction enum with
  | one b =>
      obtain ⟨d, ds, split, -⟩ := byteChars_cases b
      simp [split]
  | more b before behind others ih =>
      simp only [List.length_append, List.length_cons]
      omega

/-- Two bytes have a comma between them. -/
lemma comma_mem (enum : Enumerates space bytes cs) (two : 2 ≤ bytes.length) : ',' ∈ cs := by
  cases enum with
  | one b => simp at two
  | more b before behind others => simp

end Enumerates

/-- The bytes in decimal with nothing but a comma between two of them. -/
lemma enumerates_intercalate (space : Char → Bool) : ∀ {bytes : List UInt8}, bytes ≠ [] →
    Enumerates space bytes ([','].intercalate (bytes.map byteChars))
  | [], nonempty => absurd rfl nonempty
  | [b], _ => by
      have single : Enumerates space [b] (byteChars b) := .one b
      simpa using single
  | b :: c :: bytes, _ => by
      have others := enumerates_intercalate space (List.cons_ne_nil c bytes)
      have all := Enumerates.more b (l := []) (r := []) (by simp) (by simp) others
      simpa [List.intercalate_cons_cons] using all

end Text

open Text

/-! ## Numbers in JSON text -/

namespace Json

/-- The text does not go on with a number. -/
def Stops (rest : List Char) : Prop :=
  ∀ c ∈ rest.head?, c.isDigit = false ∧ c ≠ '.' ∧ c ≠ 'e' ∧ c ≠ 'E'

variable {b : UInt8} {rest : List Char}

lemma spanDigits_append {ds : List Char} (digits : ∀ c ∈ ds, c.isDigit = true)
    (stops : Stops rest) : spanDigits (ds ++ rest) = (ds, rest) := by
  have front : rest.takeWhile Char.isDigit = [] := by
    cases rest with
    | nil => rfl
    | cons c rest => exact List.takeWhile_cons_of_neg (by simp [(stops c rfl).1])
  have back : rest.dropWhile Char.isDigit = rest := by
    cases rest with
    | nil => rfl
    | cons c rest => exact List.dropWhile_cons_of_neg (by simp [(stops c rfl).1])
  rw [spanDigits, List.span_eq_takeWhile_dropWhile, List.takeWhile_append_of_pos digits,
    List.dropWhile_append_of_pos digits, front, back, List.append_nil]

lemma readWhole_byteChars (stops : Stops rest) :
    readWhole (byteChars b ++ rest) = .ok (byteChars b, rest) := by
  obtain ⟨d, ds, split, -, single⟩ := byteChars_cases b
  rw [readWhole, spanDigits_append (fun _ => isDigit_of_mem_byteChars) stops, split]
  split
  next none => cases none
  next zero =>
    obtain ⟨whole, -⟩ := Prod.mk.inj zero
    obtain ⟨rfl, rfl⟩ := List.cons.inj whole
    cases single rfl
  next other =>
    obtain ⟨rfl, rfl⟩ := Prod.mk.inj other
    rfl

lemma readFraction_of_stops (stops : Stops rest) : readFraction rest = .ok (none, rest) := by
  unfold readFraction
  split
  next => exact absurd rfl (stops '.' rfl).2.1
  next => rfl

lemma readExponent_of_stops (stops : Stops rest) : readExponent rest = .ok (none, rest) := by
  cases rest with
  | nil => rfl
  | cons c rest =>
      obtain ⟨-, -, small, large⟩ := stops c rfl
      exact if_neg (by simp [small, large])

/-- Digits are taken in as their value, if it fits 64 bits. -/
lemma digits_of_fits {ds : List Char} {s : Significand} (undropped : s.dropped = 0)
    (fits : Nat.ofDigitChars 10 ds s.value ≤ maxUInt64) :
    s.digits ds = ⟨Nat.ofDigitChars 10 ds s.value, s.taken + ds.length, 0⟩ := by
  induction ds generalizing s with
  | nil =>
      obtain ⟨value, taken, dropped⟩ := s
      obtain rfl : dropped = 0 := undropped
      rfl
  | cons c ds ih =>
      rw [Nat.ofDigitChars_cons, Nat.mul_comm] at fits ⊢
      have next : s.value * 10 + (c.toNat - 48) ≤ maxUInt64 :=
        Nat.le_trans (le_ofDigitChars ds _) fits
      have further := ih (s := { s with
        value := s.value * 10 + (c.toNat - 48), taken := s.taken + 1 }) undropped fits
      rw [Significand.digits, if_pos ⟨undropped, next⟩, further, List.length_cons, Nat.add_assoc,
        Nat.add_comm 1]
      rfl

lemma integerOf_byteChars : integerOf false (byteChars b) = .ok (.int b.toNat) := by
  have value : Nat.ofDigitChars 10 (byteChars b) 0 = b.toNat := by
    rw [byteChars, Nat.toString_eq_repr, Nat.toList_repr]
    exact Nat.ofDigitChars_toDigits (by omega) (Nat.le_refl 10)
  have small := b.toNat_lt
  have fits : Nat.ofDigitChars 10 (byteChars b) ({} : Significand).value ≤ maxUInt64 := by
    rw [value, maxUInt64]
    omega
  rw [integerOf, digits_of_fits rfl fits, value]
  rfl

lemma readNumber_byteChars (stops : Stops rest) :
    readNumber false (byteChars b ++ rest) = .ok (.int b.toNat, rest) := by
  refine bind_eq_ok.2 ⟨_, readWhole_byteChars stops, ?_⟩
  refine bind_eq_ok.2 ⟨_, readFraction_of_stops stops, ?_⟩
  refine bind_eq_ok.2 ⟨_, readExponent_of_stops stops, ?_⟩
  exact bind_eq_ok.2 ⟨_, integerOf_byteChars, rfl⟩

/-! ## Lists of numbers in JSON text -/

lemma isSpace_of_isDigit {c : Char} (digit : c.isDigit = true) : isSpace c = false := by
  by_contra space
  simp only [Bool.not_eq_false, isSpace, Bool.or_eq_true, beq_iff_eq] at space
  rcases space with ((rfl | rfl) | rfl) | rfl <;> cases digit

lemma skipSpace_append {l cs : List Char} (spaces : ∀ c ∈ l, isSpace c = true)
    (plain : ∀ c ∈ cs.head?, isSpace c = false) : skipSpace (l ++ cs) = cs := by
  rw [skipSpace, List.dropWhile_append_of_pos spaces]
  cases cs with
  | nil => rfl
  | cons c cs => exact List.dropWhile_cons_of_neg (by simp [plain c rfl])

lemma stops_append {l : List Char} (spaces : ∀ c ∈ l, isSpace c = true) (stops : Stops rest) :
    Stops (l ++ rest) := by
  cases l with
  | nil => exact stops
  | cons c l =>
      rintro _ ⟨⟩
      have space := spaces c List.mem_cons_self
      simp only [isSpace, Bool.or_eq_true, beq_iff_eq] at space
      rcases space with ((rfl | rfl) | rfl) | rfl <;> decide

/-- A value that begins with a digit is a number. -/
lemma readValue_of_isDigit {fuel depth : Nat} {l : List Char} {c : Char}
    (spaces : ∀ c ∈ l, isSpace c = true) (digit : c.isDigit = true) :
    readValue (fuel + 1) depth (l ++ c :: rest) = readNumber false (c :: rest) := by
  have plain : ∀ d ∈ (c :: rest).head?, isSpace d = false := by
    rintro _ ⟨⟩
    exact isSpace_of_isDigit digit
  rw [readValue, skipSpace_append spaces plain]
  split
  case h_9 =>
      next same =>
      obtain ⟨rfl, rfl⟩ := List.cons.inj same
      rw [if_pos digit]
  case h_1 =>
      next none =>
      cases none
  all_goals
    next same =>
    obtain ⟨rfl, -⟩ := List.cons.inj same
    cases digit

lemma readValue_byteChars {fuel depth : Nat} {l : List Char}
    (spaces : ∀ c ∈ l, isSpace c = true) (stops : Stops rest) :
    readValue (fuel + 1) depth (l ++ (byteChars b ++ rest)) = .ok (.int b.toNat, rest) := by
  obtain ⟨d, ds, split, digit, -⟩ := byteChars_cases b
  rw [← readNumber_byteChars stops, split]
  exact readValue_of_isDigit spaces digit

/-- The elements of a list are the bytes of an enumeration: each takes one fuel, and the last one
takes one more to be read. -/
lemma readElements_of_enumerates {bytes : List UInt8} {cs r : List Char}
    (enum : Enumerates isSpace bytes cs) (behind : ∀ c ∈ r, isSpace c = true) (depth : Nat)
    (rest : List Char) :
    ∀ {fuel : Nat} {l : List Char} (acc : List Json), bytes.length < fuel →
      (∀ c ∈ l, isSpace c = true) →
      readElements fuel depth acc (l ++ (cs ++ (r ++ ']' :: rest))) =
        .ok (.array (acc.reverse ++ bytes.map fun b => .int b.toNat), rest) := by
  have closed : ∀ c ∈ (']' :: rest).head?, isSpace c = false := by
    rintro _ ⟨⟩
    decide
  induction enum with
  | one b =>
      intro fuel l acc enough before
      obtain ⟨fuel, rfl⟩ := Nat.exists_eq_add_of_lt enough
      have stops : Stops (r ++ ']' :: rest) := stops_append behind (by rintro _ ⟨⟩; decide)
      simp only [List.length_singleton, readElements]
      rw [Nat.add_comm 1, readValue_byteChars before stops]
      simp only [skipSpace_append behind closed]
      simp
  | @more b bytes cs l' r' spaces spaces' others ih =>
      intro fuel l acc enough before
      obtain ⟨fuel, rfl⟩ : ∃ n, fuel = n + 1 + 1 := ⟨fuel - 2, by
        simp only [List.length_cons] at enough
        omega⟩
      have stops : Stops (l' ++ ',' :: (r' ++ (cs ++ (r ++ ']' :: rest)))) :=
        stops_append spaces (by rintro _ ⟨⟩; decide)
      have comma : ∀ c ∈ (',' :: (r' ++ (cs ++ (r ++ ']' :: rest)))).head?, isSpace c = false := by
        rintro _ ⟨⟩
        decide
      have text : byteChars b ++ l' ++ ',' :: (r' ++ cs) ++ (r ++ ']' :: rest) =
          byteChars b ++ (l' ++ ',' :: (r' ++ (cs ++ (r ++ ']' :: rest)))) := by simp
      rw [text, readElements, readValue_byteChars before stops]
      simp only [skipSpace_append spaces comma]
      rw [ih (.int b.toNat :: acc) (by simpa using enough) spaces']
      simp

/-- A bracket that is not closed at once opens the elements of a list. -/
lemma readValue_list {fuel depth : Nat} {cs : List Char} {c : Char}
    (opened : skipSpace cs = c :: rest) (other : c ≠ ']') :
    readValue (fuel + 1) (depth + 1) ('[' :: cs) = readElements fuel depth [] (c :: rest) := by
  have itself : skipSpace ('[' :: cs) = '[' :: cs := rfl
  rw [readValue, itself]
  simp only [opened]
  split
  next same => exact absurd (List.cons.inj same).1 other
  next => rfl

/-- An enumeration between brackets is read as the list of its numbers. -/
lemma read_of_enumerates {bytes : List UInt8} {cs l r : List Char}
    (enum : Enumerates isSpace bytes cs) (before : ∀ c ∈ l, isSpace c = true)
    (behind : ∀ c ∈ r, isSpace c = true) :
    read (String.ofList ('[' :: (l ++ (cs ++ (r ++ [']']))))) =
      .ok (.array (bytes.map fun b => .int b.toNat)) := by
  have enough : bytes.length < 2 * ('[' :: (l ++ (cs ++ (r ++ [']'])))).length + 1 := by
    have few := enum.length_le
    simp only [List.length_cons, List.length_append]
    omega
  obtain ⟨d, ds, rfl, digit⟩ := enum.head
  rw [List.cons_append] at enough ⊢
  have opened : skipSpace (l ++ d :: (ds ++ (r ++ [']']))) = d :: (ds ++ (r ++ [']'])) := by
    refine skipSpace_append before ?_
    rintro _ ⟨⟩
    exact isSpace_of_isDigit digit
  have other : d ≠ ']' := by
    rintro rfl
    cases digit
  have elements := readElements_of_enumerates enum behind 126 [] (l := []) [] enough (by simp)
  rw [List.nil_append, List.cons_append] at elements
  rw [read, String.toList_ofList, maxDepth]
  simp only [readValue_list opened other, elements]
  rfl

end Json

namespace Secret

lemma jsonByte_int (b : UInt8) : jsonByte (.int b.toNat) = .ok b := by
  have small := b.toNat_lt
  have wide : b.toNat < 2 ^ 64 := by omega
  have number : (Json.int b.toNat).uint64? = some (UInt64.ofNat b.toNat) :=
    Json.uint64?_eq_some.2 (by rw [UInt64.toNat_ofNat_of_lt' wide])
  have fits : UInt64.ofNat b.toNat < 256 := by
    rw [UInt64.lt_iff_toNat_lt, UInt64.toNat_ofNat_of_lt' wide]
    exact small
  rw [jsonByte, number]
  simp only [if_pos fits]
  simp

/-- An enumeration between brackets holds its bytes. -/
theorem jsonBytes_of_enumerates {bytes : List UInt8} {cs l r : List Char}
    (enum : Enumerates Json.isSpace bytes cs) (before : ∀ c ∈ l, Json.isSpace c = true)
    (behind : ∀ c ∈ r, Json.isSpace c = true) :
    jsonBytes (String.ofList ('[' :: (l ++ (cs ++ (r ++ [']']))))) = .ok bytes := by
  have each : ∀ bytes : List UInt8,
      (bytes.map fun b => Json.int b.toNat).mapM jsonByte = .ok bytes := by
    intro bytes
    induction bytes with
    | nil => rfl
    | cons b bytes ih => rw [List.map_cons, List.mapM_cons, jsonByte_int, ih]; rfl
  rw [jsonBytes, Json.read_of_enumerates enum before behind]
  exact each bytes

end Secret

/-! ## Cut at the commas -/

namespace Text

/-- Where the separator stands for the first time, the text is cut. -/
lemma cutAt_append {separator : Char} {piece rest : List Char} (clean : separator ∉ piece) :
    cutAt separator (piece ++ separator :: rest) = piece :: cutAt separator rest := by
  induction piece with
  | nil =>
      obtain ⟨p, ps, split⟩ := List.exists_cons_of_ne_nil (cutAt_ne_nil separator rest)
      rw [List.nil_append, cutAt, List.foldr_cons, ← cutAt, split, cutStep, if_pos rfl]
  | cons c piece ih =>
      rw [List.mem_cons, not_or] at clean
      obtain ⟨here, further⟩ := clean
      rw [List.cons_append, cutAt, List.foldr_cons, ← cutAt, ih further, cutStep,
        if_neg (Ne.symm here)]

lemma cutAt_of_not_mem {separator : Char} {piece : List Char} (clean : separator ∉ piece) :
    cutAt separator piece = [piece] := by
  induction piece with
  | nil => rfl
  | cons c piece ih =>
      rw [List.mem_cons, not_or] at clean
      obtain ⟨here, further⟩ := clean
      rw [cutAt, List.foldr_cons, ← cutAt, ih further, cutStep, if_neg (Ne.symm here)]

end Text

namespace Secret

/-- Between the commas stand the numbers, with blanks around them. -/
lemma parts_of_enumerates {bytes : List UInt8} {cs : List Char}
    (enum : Enumerates isBlank bytes cs) : ∀ {l : List Char}, (∀ c ∈ l, isBlank c = true) →
      (cutAt ',' (l ++ cs)).map trimChars = bytes.map byteChars := by
  have blanks : ∀ {l : List Char}, (∀ c ∈ l, isBlank c = true) → ',' ∉ l := by
    intro l all mem
    cases all _ mem
  have digits : ∀ b : UInt8, ',' ∉ byteChars b := by
    intro b mem
    cases isDigit_of_mem_byteChars mem
  have plain : ∀ b : UInt8, ∀ c ∈ byteChars b, isBlank c = false :=
    fun b c mem => isBlank_of_isDigit (isDigit_of_mem_byteChars mem)
  induction enum with
  | one b =>
      intro l before
      have trimmed : trimChars (l ++ byteChars b ++ []) = byteChars b :=
        Base64.trimChars_surrounded before (by simp) (plain b)
      rw [List.append_nil] at trimmed
      rw [cutAt_of_not_mem (by simp [blanks before, digits b]), List.map_singleton, trimmed,
        List.map_singleton]
  | @more b bytes cs l' r spaces spaces' others ih =>
      intro l before
      have text : l ++ (byteChars b ++ l' ++ ',' :: (r ++ cs)) =
          l ++ byteChars b ++ l' ++ ',' :: (r ++ cs) := by simp
      rw [text, cutAt_append (by simp [blanks before, blanks spaces, digits b]), List.map_cons,
        Base64.trimChars_surrounded before spaces (plain b), ih spaces', List.map_cons]

theorem listedBytes_of_enumerates {bytes : List UInt8} {text : String}
    (enum : Enumerates isBlank bytes text.toList) : listedBytes text = .ok bytes := by
  have parts : (cutAt ',' text.toList).map trimChars = bytes.map byteChars :=
    parts_of_enumerates enum (l := []) (by simp)
  have filled : (bytes.map byteChars).filter (fun part => !part.isEmpty) =
      bytes.map byteChars := by
    refine List.filter_eq_self.2 fun part mem => ?_
    obtain ⟨b, -, rfl⟩ := List.mem_map.1 mem
    obtain ⟨d, ds, split, -⟩ := byteChars_cases b
    rw [split]
    rfl
  have number : ∀ b : UInt8, readUnsigned 10 maxUInt8 (byteChars b) = .ok b.toNat := fun b =>
    readUnsigned_eq_ok.2 ⟨decimal_toString b.toNat, Nat.le_of_lt_succ b.toNat_lt⟩
  simp only [listedBytes, parts, filled]
  clear parts filled enum
  induction bytes with
  | nil => rfl
  | cons b bytes ih =>
      rw [List.map_cons, List.mapM_cons, ih, number]
      simp only [UInt8.ofNat_toNat]
      rfl

end Secret

end PoolExit
