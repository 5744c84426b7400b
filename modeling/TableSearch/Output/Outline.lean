import TableSearch.Output.StyledText

/-! # Outlines

An outline shows a tree: each node on lines of its own, with guides from it to its children.
-/

namespace TableSearch

/-- A tree of texts. -/
inductive Outline where
  | node (label : Text) (children : List Outline)

namespace Outline

mutual

/-- The lines of a tree whose first line stands behind one guide and the others behind another. -/
def lines (first later : Text) : Outline → List Text
  | node label children =>
    (match label.splitOn '\n' with
      | [] => []
      | line :: rest => (first ++ line) :: rest.map (later ++ ·)) ++ childLines later children

/-- The lines of the children of a node behind its guide. -/
def childLines (guide : Text) : List Outline → List Text
  | [] => []
  | [child] => lines (guide ++ "└── ".toList) (guide ++ "    ".toList) child
  | child :: rest =>
    lines (guide ++ "├── ".toList) (guide ++ "│   ".toList) child ++ childLines guide rest

end

/-- The text of a tree. -/
def render (outline : Outline) : Text :=
  (lines [] [] outline).flatMap (· ++ ['\n'])

end Outline

end TableSearch
