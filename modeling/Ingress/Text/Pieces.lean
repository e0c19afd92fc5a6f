/-!
# Parts of a text

The parts of a text between marks of one kind. There is always at least one part.
-/

namespace Ingress.Text

/-- The characters between marks. -/
def pieces (mark : Char) : List Char → List (List Char)
  | [] => [[]]
  | c :: rest =>
    match pieces mark rest with
    | [] => []
    | piece :: more => if c = mark then [] :: piece :: more else (c :: piece) :: more

end Ingress.Text
