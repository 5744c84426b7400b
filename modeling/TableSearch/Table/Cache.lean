import TableSearch.Table.FilteredRow

/-! # The match cache

What was found in rows, kept between two filterings under the identity of each row.  A change of
the columns makes all of it stale.
-/

namespace TableSearch

/-- Filtered rows under their identities, and the columns they were filtered for. -/
structure MatchCache (κ ρ : Type) where
  entries : List (κ × FilteredRow ρ)
  heads : Option (List ColumnHead)

namespace MatchCache

variable {κ ρ : Type} [DecidableEq κ]

/-- The cache without rows. -/
def empty : MatchCache κ ρ := ⟨[], none⟩

/-- The number of rows in the cache. -/
def size (cache : MatchCache κ ρ) : Nat :=
  cache.entries.length

/-- The row with an identity. -/
def get? (cache : MatchCache κ ρ) (key : κ) : Option (FilteredRow ρ) :=
  cache.entries.lookup key

/-- The cache with a row under an identity, in the place of an earlier one or at the end. -/
def put (cache : MatchCache κ ρ) (key : κ) (row : FilteredRow ρ) : MatchCache κ ρ :=
  if (cache.get? key).isSome then
    { cache with
      entries := cache.entries.map fun entry => if entry.1 = key then (key, row) else entry }
  else { cache with entries := cache.entries ++ [(key, row)] }

/-- The cache for new columns; all rows are forgotten if the columns differ from the last ones. -/
def syncColumns (cache : MatchCache κ ρ) (heads : List ColumnHead) : MatchCache κ ρ :=
  if cache.heads = some heads then cache
  else
    ⟨cache.entries.map fun (key, row) => (key, row.resize heads.length), some heads⟩

/-- The row to be evaluated for an identity: the one in the cache with a new value, or a fresh one.
It has the given number of columns. -/
def entry (cache : MatchCache κ ρ) (key : κ) (value : ρ) (columns : Nat) : FilteredRow ρ :=
  match cache.get? key with
  | none => .fresh value columns
  | some row =>
    if row.found.length = columns then { row with value } else .fresh value columns

/-- The cache with only the rows that have one of the given identities. -/
def retain (cache : MatchCache κ ρ) (keys : List κ) : MatchCache κ ρ :=
  { cache with entries := cache.entries.filter fun entry => decide (entry.1 ∈ keys) }

end MatchCache

end TableSearch
