/-! Lists cut at separators. -/
namespace Agenda.Text

/-- The parts between separators, of which there is one more than there are separators. -/
def split {α : Type} [DecidableEq α] (separator : α) : List α → List (List α)
  | [] => [[]]
  | c :: rest =>
    if c = separator then [] :: split separator rest
    else match split separator rest with
      | [] => [[c]]
      | part :: parts => (c :: part) :: parts

/-- What is left between separators at both ends. -/
def trim {α : Type} (isSeparator : α → Bool) (text : List α) : List α :=
  ((text.dropWhile isSeparator).reverse.dropWhile isSeparator).reverse

end Agenda.Text
