/-!
# Cutting a text

`cutAt` cuts a text at each of a given character.  The pieces do not hold that character, and there is
one more of them than there are such characters.
-/

namespace PoolExit.Text

/-- Takes a character in front of the pieces of what follows it. -/
def cutStep (separator c : Char) : List (List Char) → List (List Char)
  | [] => [[c]]
  | piece :: others => if c = separator then [] :: piece :: others else (c :: piece) :: others

/-- Cuts a text at each of the given character. -/
def cutAt (separator : Char) (cs : List Char) : List (List Char) :=
  cs.foldr (cutStep separator) [[]]

/-- A text is never cut into no pieces. -/
theorem cutAt_ne_nil (separator : Char) (cs : List Char) : cutAt separator cs ≠ [] := by
  cases cs with
  | nil => simp [cutAt]
  | cons c cs =>
    simp only [cutAt, List.foldr_cons, cutStep]
    split
    · simp
    · split <;> simp

/-- The pieces put together again, with the character between them, are the text. -/
theorem intercalate_cutAt (separator : Char) (cs : List Char) :
    [separator].intercalate (cutAt separator cs) = cs := by
  induction cs with
  | nil => rfl
  | cons c cs ih =>
    change [separator].intercalate (cutStep separator c (cutAt separator cs)) = c :: cs
    match h : cutAt separator cs with
    | [] => exact absurd h (cutAt_ne_nil separator cs)
    | piece :: others =>
      rw [h] at ih
      simp only [cutStep]
      split
      · rename_i hc
        subst hc
        rw [List.intercalate_cons_cons, ih]
        rfl
      · cases others with
        | nil => simpa using ih
        | cons next others =>
          rw [List.intercalate_cons_cons] at ih ⊢
          rw [← ih]
          rfl

/-- No piece holds the character at which the text was cut. -/
theorem not_mem_of_mem_cutAt {separator : Char} {cs piece : List Char}
    (h : piece ∈ cutAt separator cs) : separator ∉ piece := by
  induction cs generalizing piece with
  | nil => simp_all [cutAt]
  | cons c cs ih =>
    change piece ∈ cutStep separator c (cutAt separator cs) at h
    match hp : cutAt separator cs with
    | [] => exact absurd hp (cutAt_ne_nil separator cs)
    | first :: others =>
      rw [hp] at h ih
      simp only [cutStep] at h
      split at h
      · rcases List.mem_cons.1 h with rfl | h
        · simp
        · exact ih h
      · rename_i hc
        rcases List.mem_cons.1 h with rfl | h
        · simpa [Ne.symm hc] using ih (List.mem_cons_self ..)
        · exact ih (List.mem_cons_of_mem _ h)

end PoolExit.Text
