/-!
# Pieces of a text

A text cut at every occurrence of a separator.
-/

namespace TlsSetup.Text

/-- The pieces of a text between separators; there is one more of them than separators. -/
def pieces (separator : Char) : List Char → List (List Char)
  | [] => [[]]
  | c :: cs =>
    if c = separator then [] :: pieces separator cs
    else
      match pieces separator cs with
      | [] => [[c]]
      | piece :: rest => (c :: piece) :: rest

theorem pieces_ne_nil (separator : Char) (cs : List Char) : pieces separator cs ≠ [] := by
  cases cs with
  | nil => simp [pieces]
  | cons c cs =>
    simp only [pieces]
    split
    · simp
    · split <;> simp

theorem intercalate_pieces (separator : Char) (cs : List Char) :
    [separator].intercalate (pieces separator cs) = cs := by
  induction cs with
  | nil => rfl
  | cons c cs ih =>
    simp only [pieces]
    cases hp : pieces separator cs with
    | nil => exact absurd hp (pieces_ne_nil separator cs)
    | cons piece rest =>
      rw [hp] at ih
      cases rest <;> split <;> simp_all [List.intercalate, List.intersperse]

end TlsSetup.Text
