import PoolExit.Json.Writer
import PoolExit.Proofs.Base58
import PoolExit.Proofs.Enumerations
import PoolExit.Settings.Wallet

/-!
# The forms of a secret key agree

A text is taken for a secret key in the form of which it shows the first sign (`Secret.Form.of`): a
bracket in front, or else a comma, or else neither.  The signs are true to the writings: no digit of
base 58 is a bracket or a comma, numbers between commas begin with a digit, and no writing has a
slash or a dot, so none is taken for the path of a file.  Hence two bytes or more that are written
in any of the forms, with blanks around, lead to the same key pair, or to the same refusal
(`Secret.forms_agree`).
-/

namespace PoolExit

open Text

namespace Text

/-- No digit of base 58 is a sign of another form or of a path. -/
lemma Base58.digit_unsigned {n : Nat} (small : n < 58) :
    digit n ≠ '[' ∧ digit n ≠ ',' ∧ digit n ≠ '/' ∧ digit n ≠ '.' := by
  have all : ∀ n : Fin 58, digit n ≠ '[' ∧ digit n ≠ ',' ∧ digit n ≠ '/' ∧ digit n ≠ '.' := by
    decide +kernel
  exact all ⟨n, small⟩

lemma Base58.encodeChars_unsigned {bytes : List UInt8} :
    ∀ c ∈ encodeChars bytes, c ≠ '[' ∧ c ≠ ',' ∧ c ≠ '/' ∧ c ≠ '.' := by
  rw [encodeChars_eq]
  intro c mem
  obtain ⟨v, listed, rfl⟩ := List.mem_map.1 mem
  exact digit_unsigned (values_lt bytes v listed)

end Text

namespace Secret

/-! ## Forms -/

/-- The forms of a secret key in text. -/
inductive Form where
  /-- A JSON list of numbers. -/
  | list
  /-- Numbers with commas between them. -/
  | numbers
  | base58
deriving DecidableEq, Repr

namespace Form

/-- The form whose sign a text shows. -/
def of (text : String) : Form :=
  match text.toList with
  | '[' :: _ => .list
  | cs => if cs.contains ',' then .numbers else .base58

lemma of_bracket {text : String} {rest : List Char} (bracket : text.toList = '[' :: rest) :
    of text = .list := by
  simp only [of, bracket]

lemma of_unbracketed {text : String} (unbracketed : ∀ c ∈ text.toList.head?, c ≠ '[') :
    of text = if text.toList.contains ',' then .numbers else .base58 := by
  unfold of
  split
  next bracket => exact absurd rfl (unbracketed '[' (by rw [bracket]; rfl))
  next => rfl

/-- The reader of a form. -/
def decode : Form → String → Except SecretError (List UInt8)
  | .list, text => jsonBytes text
  | .numbers, text => listedBytes text
  | .base58, text => (Base58.decode text).mapError .base58

/-- The text that a form has for bytes. -/
def text (bytes : List UInt8) : Form → String
  | .list => (Json.array (bytes.map fun b => .int b.toNat)).compact
  | .numbers => ",".intercalate (bytes.map fun b => toString b.toNat)
  | .base58 => Base58.encode bytes

/-- The characters write the bytes in the form; there may be spaces between numbers, commas and
brackets. -/
inductive Writes (bytes : List UInt8) : Form → List Char → Prop
  | list {cs l r} (enum : Enumerates Json.isSpace bytes cs)
      (before : ∀ c ∈ l, Json.isSpace c = true) (behind : ∀ c ∈ r, Json.isSpace c = true) :
      Writes bytes .list ('[' :: (l ++ (cs ++ (r ++ [']']))))
  | numbers {cs} (enum : Enumerates isBlank bytes cs) : Writes bytes .numbers cs
  | base58 : Writes bytes .base58 (Base58.encodeChars bytes)

/-- The text writes the bytes in the form, with blanks around. -/
def Gives (form : Form) (bytes : List UInt8) (text : String) : Prop :=
  ∃ front cs back, text.toList = front ++ cs ++ back ∧ (∀ c ∈ front, isBlank c = true) ∧
    (∀ c ∈ back, isBlank c = true) ∧ form.Writes bytes cs

end Form

/-- What comes of the bytes of a secret key. -/
def judged (bytes : List UInt8) : Except SecretError Keypair :=
  match Keypair.ofBytes? bytes with
  | some k => .ok k
  | none => .error .badKey

/-- What comes of bytes as the secret key in the named place. -/
def settled (field : String) (bytes : List UInt8) : Except SettingsError Keypair :=
  (judged bytes).mapError fun e => .invalid field e.message

/-- A text that is not blank is read in the form whose sign it shows. -/
lemma bytes_eq {text : String} (some : (trim text).toList ≠ []) :
    bytes text = (Form.of (trim text)).decode (trim text) := by
  simp only [bytes]
  split
  next none => exact absurd none some
  next bracket => rw [Form.of_bracket bracket, Form.decode]
  next unbracketed =>
    have first : ∀ c ∈ (trim text).toList.head?, c ≠ '[' := by
      rintro _ mem rfl
      obtain ⟨rest, same⟩ := List.head?_eq_some_iff.1 mem
      exact unbracketed rest same
    rw [Form.of_unbracketed first]
    split
    · rw [Form.decode]
    · rw [Form.decode]
      cases Base58.decode (trim text) <;> rfl

namespace Form

variable {form : Form} {bytes : List UInt8} {cs : List Char} {text : String}

/-- No writing has a sign of a path. -/
lemma Writes.pathless (writes : Writes bytes form cs) : '/' ∉ cs ∧ '.' ∉ cs := by
  cases writes with
  | @list cs l r enum before behind =>
      have others : ∀ d, Json.isSpace d = false → d ∉ l ∧ d ∉ r := fun d other =>
        ⟨fun mem => by simp [before d mem] at other, fun mem => by simp [behind d mem] at other⟩
      have slash := enum.not_mem (d := '/') rfl (by decide) rfl
      have dot := enum.not_mem (d := '.') rfl (by decide) rfl
      constructor
      · simp [slash, others '/' rfl]
      · simp [dot, others '.' rfl]
  | numbers enum => exact ⟨enum.not_mem rfl (by decide) rfl, enum.not_mem rfl (by decide) rfl⟩
  | base58 =>
      exact ⟨fun mem => (Base58.encodeChars_unsigned _ mem).2.2.1 rfl,
        fun mem => (Base58.encodeChars_unsigned _ mem).2.2.2 rfl⟩

/-- A writing begins and ends with a character that is no blank. -/
lemma Writes.unblank_ends (writes : Writes bytes form cs) (some : bytes ≠ []) :
    cs ≠ [] ∧ (∀ c ∈ cs.head?, isBlank c = false) ∧ ∀ c ∈ cs.getLast?, isBlank c = false := by
  cases writes with
  | list enum before behind =>
      refine ⟨List.cons_ne_nil _ _, ?_, ?_⟩
      · rintro _ ⟨⟩
        rfl
      · intro c mem
        simp only [← List.append_assoc, List.getLast?_cons, List.getLast?_concat,
          Option.getD_some, Option.mem_def, Option.some.injEq] at mem
        rw [← mem]
        rfl
  | numbers enum =>
      obtain ⟨d, rest, rfl, digit⟩ := enum.head
      refine ⟨List.cons_ne_nil _ _, ?_, fun c mem => isBlank_of_isDigit (enum.last c mem)⟩
      rintro _ ⟨⟩
      exact isBlank_of_isDigit digit
  | base58 =>
      have plain := Base58.isBlank_encodeChars bytes
      exact ⟨Base58.encodeChars_ne_nil some, fun c mem => plain c (List.mem_of_mem_head? mem),
        fun c mem => plain c (List.mem_of_mem_getLast? mem)⟩

/-- A writing of two bytes shows the sign of its form. -/
theorem Writes.of (writes : Writes bytes form cs) (two : 2 ≤ bytes.length) :
    Form.of (String.ofList cs) = form := by
  cases writes with
  | list enum before behind => exact of_bracket String.toList_ofList
  | numbers enum =>
      have first : ∀ c ∈ (String.ofList cs).toList.head?, c ≠ '[' := by
        obtain ⟨d, rest, rfl, digit⟩ := enum.head
        rw [String.toList_ofList]
        rintro _ ⟨⟩ rfl
        cases digit
      rw [of_unbracketed first, String.toList_ofList,
        if_pos (List.contains_iff_mem.2 (enum.comma_mem two))]
  | base58 =>
      have first : ∀ c ∈ (String.ofList (Base58.encodeChars bytes)).toList.head?, c ≠ '[' := by
        rw [String.toList_ofList]
        exact fun c mem => (Base58.encodeChars_unsigned c (List.mem_of_mem_head? mem)).1
      rw [of_unbracketed first, String.toList_ofList, if_neg]
      intro comma
      exact (Base58.encodeChars_unsigned _ (List.contains_iff_mem.1 comma)).2.1 rfl

/-- The reader of a form reads its writings. -/
lemma Writes.decode (writes : Writes bytes form cs) :
    form.decode (String.ofList cs) = .ok bytes := by
  cases writes with
  | list enum before behind => exact jsonBytes_of_enumerates enum before behind
  | numbers enum => exact listedBytes_of_enumerates (by rwa [String.toList_ofList])
  | base58 =>
      rw [Form.decode, Base58.decode, String.toList_ofList, Base58.decodeChars_encodeChars]
      rfl

/-! ## The texts of a form -/

lemma toList_compactElements : ∀ bytes : List UInt8,
    (Json.compactElements (bytes.map fun b => .int b.toNat)).toList =
      [','].intercalate (bytes.map byteChars)
  | [] => rfl
  | [b] => by
      rw [List.map_singleton, List.map_singleton, Json.compactElements, Json.compact,
        List.intercalate_singleton]
      rfl
  | b :: c :: bytes => by
      have others := toList_compactElements (c :: bytes)
      rw [List.map_cons, List.map_cons] at others ⊢
      rw [Json.compactElements, String.toList_append, others, List.map_cons, List.map_cons,
        List.intercalate_cons_cons, String.toList_append, Json.compact]
      rfl

/-- The text of a form writes the bytes. -/
lemma writes_text (form : Form) (some : bytes ≠ []) :
    form.Writes bytes (form.text bytes).toList := by
  cases form with
  | list =>
      have enum := enumerates_intercalate Json.isSpace some
      have all := Writes.list enum (l := []) (r := []) (by simp) (by simp)
      rw [text, Json.compact, String.toList_append, String.toList_append, toList_compactElements]
      exact all
  | numbers =>
      have enum := enumerates_intercalate isBlank some
      rw [text, String.toList_intercalate, List.map_map]
      exact .numbers enum
  | base58 =>
      rw [text, Base58.encode, String.toList_ofList]
      exact .base58

end Form

/-- A text with neither a slash nor a dot is not taken for a path. -/
lemma looksLikePath_of_pathless {text : String} (slash : '/' ∉ text.toList)
    (dot : '.' ∉ text.toList) : looksLikePath text = false := by
  have ending : text.endsWith ".json" = false := by
    rw [String.endsWith_eq_endsWith_toSlice, String.Slice.endsWith_string_eq_false_iff,
      String.copy_toSlice]
    exact fun suffix => dot (suffix.subset (by decide))
  have unslashed : text.toList.contains '/' = false := by
    rwa [← Bool.not_eq_true, List.contains_iff_mem]
  rw [looksLikePath, ending, unslashed]
  rfl

lemma loadKeypair_of_source {m : Type → Type} [Monad m] [LawfulMonad m]
    {look : String → m FileContents} {environment : Option String} {setting field text : String}
    {bytes : List UInt8} (source : secretSource environment setting = some (field, text))
    (loaded : load look text = pure (judged bytes)) :
    loadKeypair look environment setting = pure (settled field bytes) := by
  simp only [loadKeypair, source, loaded, pure_bind, settled]
  cases judged bytes <;> rfl

namespace Form.Gives

variable {form : Form} {bytes : List UInt8} {text : String}

/-- Behind the blanks that are trimmed away stands a writing. -/
lemma writes_trim (gives : form.Gives bytes text) (some : bytes ≠ []) :
    form.Writes bytes (trim text).toList := by
  obtain ⟨front, cs, back, chars, before, behind, writes⟩ := gives
  obtain ⟨-, first, last⟩ := writes.unblank_ends some
  rwa [trim, String.toList_ofList, chars, Base64.trimChars_between before behind first last]

lemma of_writes (writes : form.Writes bytes text.toList) : form.Gives bytes text :=
  ⟨[], _, [], by simp, by simp, by simp, writes⟩

lemma not_blank (gives : form.Gives bytes text) (some : bytes ≠ []) : blank text = false := by
  obtain ⟨front, cs, back, chars, -, -, writes⟩ := gives
  obtain ⟨nonempty, first, -⟩ := writes.unblank_ends some
  obtain ⟨c, rest, rfl⟩ := List.exists_cons_of_ne_nil nonempty
  have plain := first c rfl
  simp [blank, chars, plain]

/-- A text that gives two bytes shows the sign of the form that it has. -/
lemma of_trim (gives : form.Gives bytes text) (two : 2 ≤ bytes.length) :
    Form.of (trim text) = form := by
  have some : bytes ≠ [] := List.ne_nil_of_length_pos (by omega)
  have shown := (gives.writes_trim some).of two
  rwa [String.ofList_toList] at shown

lemma pathless (gives : form.Gives bytes text) (some : bytes ≠ []) :
    looksLikePath (trim text) = false :=
  looksLikePath_of_pathless (gives.writes_trim some).pathless.1 (gives.writes_trim some).pathless.2

/-- It is read by the reader of this form. -/
lemma bytes_eq (gives : form.Gives bytes text) (two : 2 ≤ bytes.length) :
    Secret.bytes text = form.decode (trim text) := by
  have some : bytes ≠ [] := List.ne_nil_of_length_pos (by omega)
  rw [Secret.bytes_eq ((gives.writes_trim some).unblank_ends some).1, gives.of_trim two]

lemma bytes_ok (gives : form.Gives bytes text) (two : 2 ≤ bytes.length) :
    Secret.bytes text = .ok bytes := by
  have some : bytes ≠ [] := List.ne_nil_of_length_pos (by omega)
  have decoded := (gives.writes_trim some).decode
  rw [String.ofList_toList] at decoded
  rw [gives.bytes_eq two, decoded]

/-- No file is looked at. -/
lemma load_trim (gives : form.Gives bytes text) (two : 2 ≤ bytes.length) {m : Type → Type}
    [Monad m] (look : String → m FileContents) :
    load look (trim text) = pure (judged bytes) := by
  have some : bytes ≠ [] := List.ne_nil_of_length_pos (by omega)
  have trimmed : form.Gives bytes (trim text) := of_writes (gives.writes_trim some)
  rw [load, gives.pathless some, if_neg Bool.false_ne_true, read, trimmed.bytes_ok two]
  rfl

end Form.Gives

/-- **The forms of a secret key agree.** Two bytes or more that are written in any of the forms,
with blanks around, are read in this form and not taken for a path.  Wherever the text stands and
whatever stands in files, the same key pair is loaded, or the bytes are refused in the same way. -/
theorem forms_agree {bytes : List UInt8} (two : 2 ≤ bytes.length) (form : Form) :
    form.Writes bytes (form.text bytes).toList ∧ ∀ text, form.Gives bytes text →
      Form.of (trim text) = form ∧ Secret.bytes text = form.decode (trim text) ∧
      Secret.bytes text = .ok bytes ∧ looksLikePath (trim text) = false ∧
      ∀ {m : Type → Type} [Monad m] [LawfulMonad m] (look : String → m FileContents),
        (∀ setting, loadKeypair look (some text) setting =
          pure (settled privateKeyVariable bytes)) ∧
        ∀ environment : Option String, environment.all blank = true →
          loadKeypair look environment text = pure (settled privateKeySetting bytes) := by
  have nonempty : bytes ≠ [] := List.ne_nil_of_length_pos (by omega)
  refine ⟨form.writes_text nonempty, fun text gives => ⟨gives.of_trim two, gives.bytes_eq two,
    gives.bytes_ok two, gives.pathless nonempty, fun look => ⟨fun setting => ?_, ?_⟩⟩⟩
  · have source : secretSource (some text) setting = some (privateKeyVariable, trim text) := by
      rw [secretSource, Option.filter_some, if_pos (by simp [gives.not_blank nonempty])]
    exact loadKeypair_of_source source (gives.load_trim two look)
  · intro environment absent
    have none : environment.filter (fun s => !blank s) = none := by
      rw [Option.filter_eq_none_iff]
      intro s given
      rw [given, Option.all_some] at absent
      simp [absent]
    have source : secretSource environment text = some (privateKeySetting, trim text) := by
      rw [secretSource, none]
      simp [gives.not_blank nonempty]
    exact loadKeypair_of_source source (gives.load_trim two look)

/-- A single byte has no comma behind it, and its numbers are taken for base 58. -/
example : Form.of (Form.numbers.text [5]) = .base58 := by decide +kernel

/-- Two bytes are no key pair, and the three texts of them are refused in the same way, though no
file can be read. -/
theorem forms_agree_no_pair :
    2 ≤ [0, 58].length ∧ Form.list.Gives [0, 58] "[0, 58]\n" ∧ Form.numbers.Gives [0, 58] " 0 ,58" ∧
      Form.base58.Gives [0, 58] "121" ∧
      (["[0, 58]\n", " 0 ,58", "121"].map fun text => (Form.of (trim text),
        loadKeypair (m := Id) (fun _ => .unreadable "denied") (some text) "")) =
      [Form.list, Form.numbers, Form.base58].map fun form =>
        (form, .error (.invalid "LP_EXIT_PRIVATE_KEY" "私钥格式非法: signature error")) := by
  have two : 2 ≤ [(0 : UInt8), 58].length := Nat.le_refl 2
  have list : Form.list.Gives [0, 58] "[0, 58]\n" := by
    refine ⟨[], _, ['\n'], ?_, by simp, List.forall_mem_singleton.2 rfl, .list (l := []) (r := [])
      (.more 0 (l := []) (r := [' ']) (by simp) (List.forall_mem_singleton.2 rfl) (.one 58))
      (by simp) (by simp)⟩
    decide +kernel
  have numbers : Form.numbers.Gives [0, 58] " 0 ,58" := by
    refine ⟨[' '], _, [], ?_, List.forall_mem_singleton.2 rfl, by simp, .numbers
      (.more 0 (l := [' ']) (r := []) (List.forall_mem_singleton.2 rfl) (by simp) (.one 58))⟩
    decide +kernel
  have base58 : Form.base58.Gives [0, 58] "121" := by
    refine ⟨[], _, [], ?_, by simp, by simp, .base58⟩
    decide +kernel
  have refused : ∀ form text, Form.Gives form [0, 58] text →
      (Form.of (trim text), loadKeypair (m := Id) (fun _ => .unreadable "denied") (some text) "") =
        (form, .error (.invalid "LP_EXIT_PRIVATE_KEY" "私钥格式非法: signature error")) := by
    intro form text gives
    obtain ⟨shown, -, -, -, loaded⟩ := (forms_agree two form).2 text gives
    rw [shown, (loaded _).1]
    rfl
  refine ⟨two, list, numbers, base58, ?_⟩
  simp only [List.map_cons, List.map_nil, refused _ _ list, refused _ _ numbers, refused _ _ base58]

end Secret

end PoolExit
