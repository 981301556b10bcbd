import PoolExit.Unicode.CombiningClass
import PoolExit.Unicode.Joining

/-!
# Joiners in domain names

Two characters that cannot be seen tell letters to join or not to join.  In a domain name they may only
stand where they matter: behind a sign that silences a vowel, and the one that keeps letters apart also
between letters that would join otherwise.  These are the rules of RFC 5892.
-/

namespace PoolExit.Url

open Unicode

/-- The character that keeps letters apart. -/
def nonJoiner : Char := '\u200c'

/-- The character that joins letters. -/
def joiner : Char := '\u200d'

/-- Whether the first letter of a text that is not seen through joins in one of the given ways. -/
def startsJoining (ways : List Joining) (cs : List Char) : Bool :=
  match (cs.map Joining.of).dropWhile (· == .transparent) with
  | [] => false
  | way :: _ => ways.contains way

/-- Whether the joiners in a text are in their places; `before` is what lies before the text, from its
end. -/
def placesJoiners (before : List Char) : List Char → Bool
  | [] => true
  | c :: rest =>
    let allowed :=
      (c ≠ nonJoiner && c ≠ joiner) || before.head?.any isVirama
        || (c == nonJoiner && startsJoining [.left, .both] before
          && startsJoining [.right, .both] rest)
    allowed && placesJoiners (c :: before) rest

end PoolExit.Url
