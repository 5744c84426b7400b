import Mathlib.Data.List.Basic
import TableSearch.Source.FileTree

/-! # Files that were written

A file is written exactly if no other file stands in the place of one of its directories and no
directory stands in its own place (`TableSearch.FileTree.write_isOk_iff`).  What was written is
found at its path then (`TableSearch.FileTree.Writable.find?_withFile`).
-/

namespace TableSearch

namespace FilePath

variable {parts : List Text}

/-- A path that was climbed has no step up left. -/
theorem up_notMem_climb : up ∉ climb parts := by
  have steps : ∀ {parts done : List Text}, up ∉ done → up ∉ parts.foldl
      (fun done part => if part = up then done.dropLast else done ++ [part]) done := by
    intro parts
    induction parts with
    | nil => exact fun kept => kept
    | cons part parts ih =>
        intro done kept
        refine ih ?_
        dsimp only
        split_ifs with upwards
        · exact fun member => kept (List.dropLast_subset _ member)
        · rw [List.mem_append, List.mem_singleton]
          exact not_or_intro kept (Ne.symm upwards)
  exact steps List.not_mem_nil

end FilePath

namespace FileTree

variable {tree : FileTree} {path : FilePath} {parts above : List Text} {content : List UInt8}

/-- Whether a file can be written at a path. -/
structure Writable (tree : FileTree) (path : FilePath) : Prop where
  way : ∀ above, above <+: path.parent.parts → ∀ content, tree.entry? above ≠ some (.file content)
  free : tree.entry? path.parts ≠ some .directory

/-! ## Writing -/

/-- The tree with a file in place of what stands at absolute names. -/
def withFile (tree : FileTree) (parts : List Text) (content : List UInt8) : FileTree :=
  { tree with
    entries := tree.entries.filter (·.1 != parts) ++ [(parts, .file (.bytes content))] }

/-- A path leads through directories exactly if no file stands in the place of one of them. -/
theorem directoryError?_eq_none_iff : tree.directoryError? parts = none ↔
    ∀ above, above <+: parts → ∀ content, tree.entry? above ≠ some (.file content) := by
  constructor
  · intro none above leads content found
    rw [directoryError?] at none
    dsimp only at none
    split_ifs at none with onTheWay here
    rcases Nat.lt_or_eq_of_le leads.length_le with shorter | whole
    · refine onTheWay (List.any_eq_true.mpr ⟨above, List.mem_map.mpr ⟨above.length, ?_, ?_⟩, ?_⟩)
      · exact List.mem_range.mpr shorter
      · exact (List.prefix_iff_eq_take.mp leads).symm
      · rw [found]
    · rw [leads.eq_of_length whole] at found
      exact here (by rw [found])
  · intro way
    rw [directoryError?]
    dsimp only
    rw [if_neg, if_neg]
    · intro here
      split at here
      case h_1 content found => exact way parts List.prefix_rfl content found
      case h_2 => cases here
    · rw [List.any_eq_true]
      rintro ⟨above, member, here⟩
      obtain ⟨count, -, rfl⟩ := List.mem_map.mp member
      split at here
      case h_1 content found => exact way _ (List.take_prefix count parts) content found
      case h_2 => cases here

/-- Where a file can be written, the tree has it afterwards. -/
theorem write_eq (writable : tree.Writable path) :
    tree.write path content = .ok (tree.withFile path.parts content) := by
  rw [write, directoryError?_eq_none_iff.mpr writable.way]
  split
  case h_1 absent => cases absent
  case h_2 found => exact absurd found writable.free
  case h_3 => rfl

/-- A file is written exactly if its place and the way to it are free. -/
theorem write_isOk_iff : (∃ after, tree.write path content = .ok after) ↔ tree.Writable path := by
  constructor
  · rintro ⟨after, written⟩
    rw [write] at written
    split at written
    case h_1 => cases written
    case h_2 => cases written
    case h_3 none occupied =>
      exact ⟨directoryError?_eq_none_iff.mp none, occupied⟩
  · exact fun writable => ⟨_, write_eq writable⟩

/-! ## Reading -/

/-- A file that is put at a path is there. -/
theorem entry?_withFile :
    entry? (tree.withFile parts content) parts = some (.file (.bytes content)) := by
  have absent : (tree.entries.filter (·.1 != parts)).find? (·.1 == parts) = none := by
    rw [List.find?_eq_none]
    intro entry member same
    rw [List.mem_filter, bne_iff_ne] at member
    exact member.2 (beq_iff_eq.mp same)
  rw [ entry?, withFile, List.find?_append, absent, Option.none_or, List.find?_cons_of_pos]
  exact beq_self_eq_true parts

/-- The directories of a file that was written are there. -/
theorem Writable.entry?_above (writable : tree.Writable path) (leads : above <+: path.parent.parts)
    (apart : above ≠ path.parts) :
    entry? (tree.withFile path.parts content) above = some .directory := by
  have kept : (tree.entries.filter (·.1 != path.parts)).find? (·.1 == above) =
      tree.entries.find? (·.1 == above) := by
    rw [List.find?_filter]
    refine congrArg (tree.entries.find? ·) (funext fun entry => Bool.eq_iff_iff.mpr ?_)
    rw [decide_eq_true_eq, bne_iff_ne, beq_iff_eq]
    exact ⟨And.right, fun same => ⟨same ▸ apart, same⟩⟩
  have inside : above.isPrefixOf path.parts = true :=
    List.isPrefixOf_iff_prefix.mpr (leads.trans (List.dropLast_prefix _))
  rw [ entry?, withFile, List.find?_append, kept]
  cases found : tree.entries.find? (·.1 == above) with
  | some pair =>
      have stands : tree.entry? above = some pair.2 := by
        rw [ entry?, found]
      rcases pair with ⟨names, content' | _⟩
      · exact absurd stands (writable.way above leads content')
      · rfl
  | none =>
      rw [Option.none_or, List.find?_cons_of_neg (by rw [beq_iff_eq]; exact apart.symm),
        List.find?_nil]
      refine if_pos ?_
      rw [List.any_append, List.any_cons, inside, Bool.true_or, Bool.or_true, Bool.or_true]

/-- Whoever walks on along the path of a file that was written gets to it. -/
theorem Writable.walk?_withFile {done rest : List Text} (writable : tree.Writable path)
    (still : FilePath.up ∉ path.parts) (whole : done ++ rest = path.parts) :
    (tree.withFile path.parts content).walk? done rest = some (.file (.bytes content)) := by
  induction rest generalizing done with
  | nil =>
      rw [List.append_nil] at whole
      rw [walk?, whole, entry?_withFile]
  | cons part rest ih =>
      have leads : done <+: path.parent.parts := by
        rw [FilePath.parent, ← whole, List.dropLast_append_of_ne_nil (List.cons_ne_nil _ _)]
        exact List.prefix_append _ _
      have apart : done ≠ path.parts := by
        rw [← whole]
        exact fun same => List.cons_ne_nil _ _ (List.self_eq_append_right.mp same)
      have onward : part ≠ FilePath.up := by
        rintro rfl
        exact still (whole ▸ List.mem_append_right _ List.mem_cons_self)
      rw [walk?, writable.entry?_above leads apart]
      change walk? _ (if part = FilePath.up then _ else _) rest = _
      rw [if_neg onward]
      exact ih ((List.append_cons done part rest).symm.trans whole)

/-- What was written at an absolute path without steps upwards is found there. -/
theorem Writable.find?_withFile (writable : tree.Writable path) (absolute : path.isAbsolute = true)
    (still : FilePath.up ∉ path.parts) :
    (tree.withFile path.parts content).find? path = some (.file (.bytes content)) := by
  rw [find?, FilePath.absoluteParts, if_pos absolute]
  exact writable.walk?_withFile still rfl

end FileTree

end TableSearch
