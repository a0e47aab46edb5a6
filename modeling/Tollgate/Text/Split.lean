set_option autoImplicit false

/-!
# Splitting text

A text cut at every occurrence of a separator. Joining the parts with the separator gives the
text back.
-/

namespace Tollgate.Text

/-- The parts of a text between the separators; there is always at least one. -/
def split (separator : Char) : List Char → List (List Char)
  | [] => [[]]
  | c :: rest =>
    if c = separator then [] :: split separator rest
    else
      match split separator rest with
      | part :: parts => (c :: part) :: parts
      | [] => [[c]]

/-- The parts with the separator between them. -/
def join (separator : Char) : List (List Char) → List Char
  | [] => []
  | [part] => part
  | part :: parts => part ++ separator :: join separator parts

theorem split_ne_nil (separator : Char) (cs : List Char) : split separator cs ≠ [] := by
  cases cs with
  | nil => simp [split]
  | cons c rest =>
      simp only [split]
      split
      · simp
      · split <;> simp

theorem join_split (separator : Char) (cs : List Char) :
    join separator (split separator cs) = cs := by
  induction cs with
  | nil => rfl
  | cons c rest ih =>
      have hne := split_ne_nil separator rest
      by_cases hc : c = separator
      · cases h : split separator rest with
        | nil => exact absurd h hne
        | cons part parts =>
            rw [h] at ih
            simp [split, hc, h, join, ih]
      · cases h : split separator rest with
        | nil => exact absurd h hne
        | cons part parts =>
            rw [h] at ih
            cases parts with
            | nil => simp_all [split, join]
            | cons second others => simp_all [split, join]

end Tollgate.Text
