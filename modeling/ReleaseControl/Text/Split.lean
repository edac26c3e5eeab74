/-! # Splitting text

`split` parts a text at every occurrence of a separator; `join` puts the parts together again
(`join_split`). -/

namespace ReleaseControl.Text

/-- The parts between the separators; there is always one more part than separators. -/
def split (sep : Char) : List Char → List (List Char)
  | [] => [[]]
  | c :: cs =>
    match split sep cs with
    | [] => [[c]]
    | part :: parts => if c = sep then [] :: part :: parts else (c :: part) :: parts

/-- The parts with the separator between them. -/
def join (sep : Char) : List (List Char) → List Char
  | [] => []
  | [part] => part
  | part :: parts => part ++ sep :: join sep parts

theorem split_ne_nil (sep : Char) (cs : List Char) : split sep cs ≠ [] := by
  cases cs with
  | nil => simp [split]
  | cons c cs =>
    simp only [split]
    split
    · simp
    · split <;> simp

theorem join_split (sep : Char) (cs : List Char) : join sep (split sep cs) = cs := by
  induction cs with
  | nil => rfl
  | cons c cs ih =>
    simp only [split]
    split
    · next h => exact absurd h (split_ne_nil sep cs)
    · next part parts h =>
      rw [h] at ih
      split
      · next hc => simp [join, ih, hc]
      · cases parts with
        | nil => simpa [join] using ih
        | cons p ps => simpa [join] using ih

/-- The parts of a text as texts. -/
def splitText (sep : Char) (text : String) : List String :=
  (split sep text.toList).map String.ofList

end ReleaseControl.Text
