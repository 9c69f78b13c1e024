/-!
# Pieces of a text

`pieces p cs` cuts a list at every element that satisfies `p`. The separators are left out, and a
list without any is one piece.
-/

namespace Majuscule.Text

/-- Cut a list at every separator. -/
def pieces (isSeparator : α → Bool) : List α → List (List α)
  | [] => [[]]
  | c :: cs =>
    if isSeparator c then [] :: pieces isSeparator cs
    else
      match pieces isSeparator cs with
      | [] => [[c]]
      | piece :: rest => (c :: piece) :: rest

end Majuscule.Text
