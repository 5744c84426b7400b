import TableSearch.Text.Case

/-! # Natural order of texts

Texts compared with the digit runs inside them read as numbers, so that `item2` stands before
`item10`.  Letter case and leading zeros decide only between texts that are otherwise equal.
-/

namespace TableSearch

namespace Text

/-- The order of texts by code points. -/
def order : Text → Text → Ordering
  | [], [] => .eq
  | [], _ :: _ => .lt
  | _ :: _, [] => .gt
  | c :: a, d :: b => if c = d then order a b else compare c d

/-- The order of two digit runs as numbers: without leading zeros, the longer run is larger. -/
def digitOrder (run₁ run₂ : Text) : Ordering :=
  let digits₁ := run₁.dropWhile (· == '0')
  let digits₂ := run₂.dropWhile (· == '0')
  (compare digits₁.length digits₂.length).then (order digits₁ digits₂)

/-- The order of two different characters, with the case ignored if asked. -/
def charOrder (ignoreCase : Bool) (c d : Char) : Ordering :=
  if ignoreCase then order (CharCase.lowerForm c) (CharCase.lowerForm d) else compare c d

/-- The natural order of two texts, where `tie` decides if they do not differ. -/
def naturalOrderFrom (ignoreCase : Bool) (tie : Ordering) : Text → Text → Ordering
  | [], [] => tie
  | [], _ :: _ => .lt
  | _ :: _, [] => .gt
  | c :: a, d :: b =>
    if isDigit c && isDigit d then
      let run₁ := c :: a.takeWhile isDigit
      let run₂ := d :: b.takeWhile isDigit
      match digitOrder run₁ run₂ with
      | .eq =>
        naturalOrderFrom ignoreCase (tie.then (compare run₁.length run₂.length))
          (a.dropWhile isDigit) (b.dropWhile isDigit)
      | answer => answer
    else if c = d then naturalOrderFrom ignoreCase tie a b
    else
      match charOrder ignoreCase c d with
      | .eq => naturalOrderFrom ignoreCase (tie.then (compare c d)) a b
      | answer => answer
termination_by a => a.length
decreasing_by
  all_goals simp_wf
  · have := (List.dropWhile_sublist (l := a) isDigit).length_le
    omega

/-- The natural order of two texts.  With `ignoreCase`, case and then leading zeros only break
ties: the first difference of either kind decides. -/
def naturalOrder (text₁ text₂ : Text) (ignoreCase : Bool := true) : Ordering :=
  naturalOrderFrom ignoreCase .eq text₁ text₂

end Text

end TableSearch
