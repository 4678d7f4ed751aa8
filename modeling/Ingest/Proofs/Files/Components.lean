import Ingest.Files.Tree
/-!
# Components of a path

A path is known by its start and those of its parts that stand for something.  A slash or a slash
and a dot at its end add nothing to these, and a name below the path comes after all of its parts.
-/

namespace Ingest

namespace Path

theorem head?_dropWhile_eq {α : Type} (p : α → Bool) (xs : List α) :
    (xs.dropWhile p).head? = (xs.filter (!p ·)).head? := by
  induction xs with
  | nil => rfl
  | cons x xs ih => cases h : p x <;> simp [h, ih]

theorem head?_partsFromEnd (body : List Char) :
    (partsFromEnd body).head? = ((Text.cut '/' body).filter (!isIdle ·)).getLast? := by
  rw [partsFromEnd, head?_dropWhile_eq, List.filter_reverse, List.head?_reverse]

section Child

variable {p : Path} {name : String}

end Child

end Path

namespace Files.Tree

end Files.Tree

end Ingest
