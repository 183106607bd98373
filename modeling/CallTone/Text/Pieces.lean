/-! Pieces of a text: what stands between its separators. -/
namespace CallTone.Text

/-- The pieces of a text between separators, at least one. -/
def splitOn {α : Type} [DecidableEq α] (separator : α) : List α → List (List α)
  | [] => [[]]
  | letter :: rest =>
    if letter = separator then [] :: splitOn separator rest
    else
      match splitOn separator rest with
      | piece :: pieces => (letter :: piece) :: pieces
      | [] => [[letter]]

end CallTone.Text
