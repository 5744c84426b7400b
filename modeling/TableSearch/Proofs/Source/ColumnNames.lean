import Mathlib.Data.List.Induction
import Mathlib.Data.List.Nodup
import TableSearch.Proofs.Number.Digits
import TableSearch.Source.Load

/-! # The names of columns

The fields of a header name the columns.  A field without a name gets one from its place, and a name
that an earlier column has already gets the first number that makes it free.

`TableSearch.Source.names_columnNames`: a header gives as many names as it has fields, no two of
them the same and none empty.  The search for a free number ends, since the columns cannot have
taken more numbered names than there are columns.
-/

namespace TableSearch

namespace Source

variable {taken names header : List Text} {base field name wanted : Text}
  {number count place : Nat}

/-! ## Numbered names -/

/-- A name with a number behind it. -/
def numbered (base : Text) (number : Nat) : Text :=
  base ++ '_' :: Text.ofNat number

theorem numbered_injective (base : Text) : Function.Injective (numbered base) := by
  intro number number' same
  have digits := (List.cons.inj (List.append_cancel_left same)).2
  rw [← natOfDigits_ofNat (n := number), digits, natOfDigits_ofNat]

/-- The search goes on to the first free number, or to the last one that it may look at. -/
theorem exists_freeName (taken : List Text) (base : Text) (number rounds : Nat) :
    ∃ found, freeName taken base number rounds = numbered base found ∧ number ≤ found ∧
      (∀ earlier, number ≤ earlier → earlier < found → numbered base earlier ∈ taken) ∧
      (numbered base found ∉ taken ∨ found = number + rounds) := by
  induction rounds generalizing number with
  | zero =>
      refine ⟨number, rfl, Nat.le_refl _, ?_, .inr rfl⟩
      intro earlier above below
      omega
  | succ rounds ih =>
      rw [freeName]
      split
      · rename_i occupied
        obtain ⟨found, same, above, between, last⟩ := ih (number + 1)
        refine ⟨found, same, by omega, ?_, last.imp_right fun final => by omega⟩
        intro earlier above' below
        rcases Nat.eq_or_lt_of_le above' with rfl | later
        · exact List.contains_iff_mem.mp occupied
        · exact between earlier later below
      · rename_i free
        refine ⟨number, rfl, Nat.le_refl _, ?_, .inl fun member => ?_⟩
        · intro earlier above below
          omega
        · exact free (List.contains_iff_mem.mpr member)

/-- No more numbered names are taken than names. -/
theorem le_length_of_taken (occupied : ∀ earlier, number ≤ earlier → earlier < number + count →
    numbered base earlier ∈ taken) : count ≤ taken.length := by
  have distinct : ((List.range' number count).map (numbered base)).Nodup :=
    (List.nodup_range' 1).map (numbered_injective base)
  have within : (List.range' number count).map (numbered base) ⊆ taken := by
    intro name member
    obtain ⟨earlier, inside, rfl⟩ := List.mem_map.mp member
    rw [List.mem_range'_1] at inside
    exact occupied earlier inside.1 inside.2
  simpa only [List.length_map, List.length_range'] using distinct.length_le_of_subset within

/-- What becomes of a wanted name behind names that are taken: it is kept if it is free, and else
gets the first number from 2 on with which it is free. -/
inductive Renames (taken : List Text) (wanted : Text) : Text → Prop where
  | kept (free : wanted ∉ taken) : Renames taken wanted wanted
  | counted {number : Nat} (occupied : wanted ∈ taken) (above : 2 ≤ number)
      (between : ∀ earlier, 2 ≤ earlier → earlier < number → numbered wanted earlier ∈ taken)
      (free : numbered wanted number ∉ taken) : Renames taken wanted (numbered wanted number)

namespace Renames

theorem not_mem (renames : Renames taken wanted name) : name ∉ taken := by
  cases renames with
  | kept free => exact free
  | counted _ _ _ free => exact free

/-- A column is given a name that is not empty, if the one that was wanted is not. -/
theorem ne_nil (renames : Renames taken wanted name) (filled : wanted ≠ []) : name ≠ [] := by
  cases renames with
  | kept => exact filled
  | counted => exact List.append_ne_nil_of_left_ne_nil filled _

end Renames

/-- The search ends at a free number. -/
theorem renames_freeName (occupied : base ∈ taken) :
    Renames taken base (freeName taken base 2 taken.length) := by
  obtain ⟨found, same, above, between, free | final⟩ := exists_freeName taken base 2 taken.length
  · rw [same]
    exact .counted occupied above between free
  · rw [same]
    refine .counted occupied above between fun member => ?_
    have more : ∀ earlier, 2 ≤ earlier → earlier < 2 + (taken.length + 1) →
        numbered base earlier ∈ taken := by
      intro earlier above below
      rcases Nat.lt_or_ge earlier found with before | behind
      · exact between earlier above before
      · have last : earlier = found := by omega
        rwa [last]
    exact Nat.not_succ_le_self _ (le_length_of_taken more)

/-! ## The names of a header -/

/-- The name that a field asks for, itself without the blanks around it, or else a name from its
place. -/
def wantedName (place : Nat) (field : Text) : Text :=
  if field.trim.isEmpty then "column".toList ++ Text.ofNat (place + 1) else field.trim

theorem wantedName_ne_nil : wantedName place field ≠ [] := by
  rw [wantedName]
  split_ifs with blank
  · exact List.append_ne_nil_of_left_ne_nil (by decide) _
  · rwa [List.isEmpty_iff] at blank

/-- The name that a field of a header gives behind other ones. -/
def nextName (names : List Text) (field : Text) : Text :=
  let wanted := wantedName names.length field
  if names.contains wanted then freeName names wanted 2 names.length else wanted

theorem columnNames_eq :
    columnNames header = header.foldl (fun names field => names ++ [nextName names field]) [] :=
  rfl

/-- Each column gets the name that its field asks for, or a numbered one if that is taken. -/
theorem renames_nextName :
    Renames names (wantedName names.length field) (nextName names field) := by
  rw [nextName]
  split_ifs with occupied
  · exact renames_freeName (List.contains_iff_mem.mp occupied)
  · exact .kept fun member => occupied (List.contains_iff_mem.mpr member)

/-- Whether names are those of a header: one for each field, and that behind the names before it. -/
structure Names (header names : List Text) : Prop where
  length : names.length = header.length
  distinct : names.Nodup
  filled : ∀ name ∈ names, name ≠ []
  renames : ∀ place field name, header[place]? = some field → names[place]? = some name →
    Renames (names.take place) (wantedName place field) name

/-- One field more gives one name more. -/
theorem Names.concat (named : Names header names) :
    Names (header ++ [field]) (names ++ [nextName names field]) where
  length := by
    rw [List.length_append, List.length_append, named.length]
    rfl
  distinct := by
    rw [← List.concat_eq_append]
    exact named.distinct.concat renames_nextName.not_mem
  filled := by
    rw [List.forall_mem_append, List.forall_mem_singleton]
    exact ⟨named.filled, renames_nextName.ne_nil wantedName_ne_nil⟩
  renames := by
    intro place field' name there there'
    rcases Nat.lt_trichotomy place names.length with earlier | rfl | later
    · rw [List.getElem?_append_left (named.length ▸ earlier)] at there
      rw [List.getElem?_append_left earlier] at there'
      rw [List.take_append_of_le_length (Nat.le_of_lt earlier)]
      exact named.renames place field' name there there'
    · rw [named.length, List.getElem?_concat_length] at there
      rw [List.getElem?_concat_length] at there'
      cases there
      cases there'
      rw [List.take_left]
      exact renames_nextName
    · have short : (names ++ [nextName names field]).length ≤ place := by
        rw [List.length_append]
        exact later
      rw [List.getElem?_eq_none short] at there'
      cases there'

/-- **Names.** The names of the columns are those of the header. -/
theorem names_columnNames (header : List Text) : Names header (columnNames header) := by
  induction header using List.reverseRecOn with
  | nil =>
      refine ⟨rfl, List.nodup_nil, List.forall_mem_nil _, ?_⟩
      intro place field name absent
      cases absent
  | append_singleton header field ih =>
      rw [columnNames_eq, List.foldl_concat, ← columnNames_eq]
      exact ih.concat

end Source

end TableSearch
