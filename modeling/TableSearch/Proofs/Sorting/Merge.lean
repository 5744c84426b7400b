import Mathlib.Data.List.Pairwise
import TableSearch.Sorting.Merge

/-! # What a merge of two ordered lists gives

`TableSearch.Sorting.mergeRuns_interleaves`: two ordered lists are merged into one that takes an
element of the earlier list only if it may come before all that is left of the later one, and an
element of the later list only if it has to.

Nothing is assumed of the comparison but that its answers agree with two relations
(`TableSearch.Sorting.Ranking`): *weak*, which says that an element may come before another one, and
*strong*, which says that it has to.  The two may be the same, so that what is said here also holds
of comparisons that are an order between classes of elements only.
-/

namespace TableSearch

namespace Sorting

variable {α : Type}

/-! ## Places -/

section Places

variable {stays : α → Bool} {list : List α} {border : Nat}

/-- Whether the element before a place stays and the one behind it does not. -/
structure IsBorder (stays : α → Bool) (list : List α) (border : Nat) : Prop where
  inside : border ≤ list.length
  before : ∀ index, border = index + 1 → list[index]?.any stays = true
  behind : border < list.length → list[border]?.any stays = false

/-- Halving keeps a place before which elements stay and one behind which they do not. -/
theorem place_isBorder {low high rounds : Nat} (ordered : low ≤ high) (inside : high ≤ list.length)
    (enough : high - low < rounds)
    (before : ∀ index, low = index + 1 → list[index]?.any stays = true)
    (behind : high < list.length → list[high]?.any stays = false) :
    IsBorder stays list (place stays list low high rounds) := by
  induction rounds generalizing low high with
  | zero => omega
  | succ rounds ih =>
      rw [place]
      by_cases apart : low < high
      · rw [if_pos apart]
        have within : low + (high - low) / 2 < list.length := by omega
        simp only [List.getElem?_eq_getElem within]
        by_cases left : stays list[low + (high - low) / 2] = true
        · rw [if_pos left]
          refine ih (by omega) inside (by omega) ?_ behind
          intro index same
          obtain rfl : index = low + (high - low) / 2 := by omega
          rw [List.getElem?_eq_getElem within, Option.any_some, left]
        · rw [if_neg left]
          refine ih (by omega) (by omega) (by omega) before ?_
          intro _
          rw [List.getElem?_eq_getElem within, Option.any_some, (Bool.not_eq_true _).mp left]
      · rw [if_neg apart]
        obtain rfl : low = high := by omega
        exact ⟨inside, before, behind⟩

/-- Steps that double stop between a step where a question holds and one where it does not. -/
theorem stride_spec (holds : Nat → Bool) (limit rounds : Nat) {last step : Nat}
    (ordered : last < step) (below : last < limit) (holding : holds last = true) :
    (stride holds limit last step rounds).1 < (stride holds limit last step rounds).2 ∧
      (stride holds limit last step rounds).2 ≤ limit ∧
      holds (stride holds limit last step rounds).1 = true ∧
      ((stride holds limit last step rounds).2 < limit →
        holds (stride holds limit last step rounds).2 = false) := by
  induction rounds generalizing last step with
  | zero => exact ⟨below, Nat.le_refl _, holding, fun less => absurd less (Nat.lt_irrefl _)⟩
  | succ rounds ih =>
      rw [stride]
      by_cases within : step < limit
      · rw [if_pos within]
        by_cases onward : holds step = true
        · rw [if_pos onward]
          exact ih (by omega) within onward
        · rw [if_neg onward]
          exact ⟨ordered, Nat.le_of_lt within, holding,
            fun _ => (Bool.not_eq_true _).mp onward⟩
      · rw [if_neg within]
        exact ⟨below, Nat.le_refl _, holding, fun less => absurd less (Nat.lt_irrefl _)⟩

/-- Looking outwards from a place and then halving finds a border, whatever the place. -/
theorem gallop_isBorder {hint : Nat} (inside : hint ≤ list.length) :
    IsBorder stays list (gallop stays list hint) := by
  rw [gallop]
  by_cases left : list[hint]?.any stays = true
  · have within : hint < list.length := by
      refine Nat.lt_of_not_le fun beyond => ?_
      rw [List.getElem?_eq_none beyond] at left
      cases left
    simp only [left, if_true]
    obtain ⟨apart, reach, holding, denied⟩ :=
      stride_spec (fun step => list[hint + step]?.any stays) (list.length - hint) list.length
        Nat.zero_lt_one (by omega) left
    refine place_isBorder (by omega) (by omega) (by omega) ?_ ?_
    · intro index same
      obtain rfl : index = hint + _ := Nat.succ.inj same.symm
      exact holding
    · intro less
      exact denied (by omega)
  · have right := (Bool.not_eq_true _).mp left
    simp only [right, Bool.false_eq_true, if_false]
    obtain ⟨apart, reach, holding, denied⟩ :=
      stride_spec (fun step => !list[hint - step]?.any stays) (hint + 1) list.length
        Nat.zero_lt_one (by omega) (by rw [Nat.sub_zero, right, Bool.not_false])
    refine place_isBorder (by omega) (by omega) (by omega) ?_ ?_
    · intro index same
      have stopped := denied (by omega)
      rw [Bool.not_eq_false'] at stopped
      rw [← stopped]
      congr 2
      omega
    · intro _
      rwa [Bool.not_eq_true'] at holding

end Places

/-! ## Comparisons whose answers agree with an order -/

/-- Whether two relations order elements: *weak* says that one may come before another, *strong*
that it has to. -/
structure Ranking (weak strong : α → α → Prop) : Prop where
  weak_of_strong : ∀ {x y}, strong x y → weak x y
  weak_trans : ∀ {x y z}, weak x y → weak y z → weak x z
  strong_of_strong_of_weak : ∀ {x y z}, strong x y → weak y z → strong x z
  strong_of_weak_of_strong : ∀ {x y z}, weak x y → strong y z → strong x z

/-- Whether the answers of a comparison agree with an order where they are asked of known elements:
one that is below another has to come before it, one that is not may come behind it. -/
structure Agrees (below : α → α → Bool) (known : α → Prop) (weak strong : α → α → Prop) : Prop where
  strong_of_below : ∀ {x y}, known x → known y → below x y = true → strong x y
  weak_of_not_below : ∀ {x y}, known x → known y → below x y = false → weak y x

/-- Whether the elements of a list are known and in order. -/
structure Ordered (known : α → Prop) (weak : α → α → Prop) (list : List α) : Prop where
  known : ∀ x ∈ list, known x
  pairwise : list.Pairwise weak

section Orders

variable {known : α → Prop} {weak strong : α → α → Prop} {first second rest : List α} {x y : α}

/-- An order the other way round. -/
theorem Ranking.flip (ranking : Ranking weak strong) :
    Ranking (fun x y => weak y x) (fun x y => strong y x) where
  weak_of_strong := ranking.weak_of_strong
  weak_trans before after := ranking.weak_trans after before
  strong_of_strong_of_weak before after := ranking.strong_of_weak_of_strong after before
  strong_of_weak_of_strong before after := ranking.strong_of_strong_of_weak after before

theorem Ranking.weak_isTrans (ranking : Ranking weak strong) : IsTrans α weak :=
  ⟨fun _ _ _ => ranking.weak_trans⟩

theorem Ranking.strong_isTrans (ranking : Ranking weak strong) : IsTrans α fun x y => strong y x :=
  ⟨fun _ _ _ must must' => ranking.strong_of_strong_of_weak must' (ranking.weak_of_strong must)⟩

theorem Ordered.sublist (ordered : Ordered known weak first) (part : rest.Sublist first) :
    Ordered known weak rest :=
  ⟨fun x member => ordered.known x (part.subset member), ordered.pairwise.sublist part⟩

theorem Ordered.reverse (ordered : Ordered known weak first) :
    Ordered known (fun x y => weak y x) first.reverse :=
  ⟨fun x member => ordered.known x (List.mem_reverse.mp member),
    List.pairwise_reverse.mpr ordered.pairwise⟩

/-- A border in an ordered list parts the elements that have one property from those that have
another, if the elements before one with the first property have it, and those behind one with the
second property have that. -/
theorem IsBorder.sides {stays : α → Bool} {border : Nat} {left right : α → Prop}
    (cut : IsBorder stays first border) (ordered : Ordered known weak first)
    (stay : ∀ x, known x → stays x = true → left x)
    (leave : ∀ x, known x → stays x = false → right x)
    (downward : ∀ {x y}, weak x y → left y → left x)
    (upward : ∀ {x y}, weak x y → right x → right y) :
    (∀ x ∈ first.take border, left x) ∧ ∀ x ∈ first.drop border, right x := by
  have split := ordered.pairwise
  rw [← List.take_append_drop border first, List.pairwise_append] at split
  obtain ⟨taken, dropped, -⟩ := split
  constructor
  · intro x member
    rcases border with _ | index
    · rw [List.take_zero] at member
      cases member
    · have within : index < first.length := cut.inside
      have last := cut.before index rfl
      rw [List.getElem?_eq_getElem within, Option.any_some] at last
      have here := stay _ (ordered.known _ (List.getElem_mem within)) last
      rw [List.take_succ_eq_append_getElem within] at member taken
      rcases List.mem_append.mp member with earlier | same
      · exact downward ((List.pairwise_append.mp taken).2.2 x earlier _ (List.mem_singleton.mpr rfl))
          here
      · rwa [List.mem_singleton.mp same]
  · intro x member
    have within : border < first.length := by
      have some := List.length_pos_of_mem member
      rw [List.length_drop] at some
      omega
    have next := cut.behind within
    rw [List.getElem?_eq_getElem within, Option.any_some] at next
    have here := leave _ (ordered.known _ (List.getElem_mem within)) next
    rw [List.drop_eq_getElem_cons within] at member dropped
    rcases List.mem_cons.mp member with rfl | later
    · exact here
    · exact upward (List.rel_of_pairwise_cons dropped later) here

/-- Where an element belongs in an ordered list, behind those that are tied with it. -/
theorem Agrees.sides_behind {below : α → α → Bool} {border : Nat} (ranking : Ranking weak strong)
    (agrees : Agrees below known weak strong) (ordered : Ordered known weak first) (knownHere : known y)
    (cut : IsBorder (fun x => !below y x) first border) :
    (∀ x ∈ first.take border, weak x y) ∧ ∀ x ∈ first.drop border, strong y x := by
  refine cut.sides ordered ?_ ?_ ranking.weak_trans ?_
  · intro x knownThere stays
    rw [Bool.not_eq_true'] at stays
    exact agrees.weak_of_not_below knownHere knownThere stays
  · intro x knownThere leaves
    rw [Bool.not_eq_false'] at leaves
    exact agrees.strong_of_below knownHere knownThere leaves
  · exact fun may must => ranking.strong_of_strong_of_weak must may

/-- Where an element belongs in an ordered list, before those that are tied with it. -/
theorem Agrees.sides_before {below : α → α → Bool} {border : Nat} (ranking : Ranking weak strong)
    (agrees : Agrees below known weak strong) (ordered : Ordered known weak first) (knownHere : known y)
    (cut : IsBorder (fun x => below x y) first border) :
    (∀ x ∈ first.take border, strong x y) ∧ ∀ x ∈ first.drop border, weak y x := by
  refine cut.sides ordered ?_ ?_ ranking.strong_of_weak_of_strong ?_
  · exact fun x knownThere stays => agrees.strong_of_below knownThere knownHere stays
  · exact fun x knownThere leaves => agrees.weak_of_not_below knownThere knownHere leaves
  · exact fun may may' => ranking.weak_trans may' may

end Orders

/-! ## Interleaved lists -/

/-- Two lists interleaved: an element of the first list is taken if it may come before all that is
left of the second list, and one of the second list if it has to come before all that is left of the
first. -/
inductive Interleaves (weak strong : α → α → Prop) : List α → List α → List α → Prop
  | first_nil (second : List α) : Interleaves weak strong [] second second
  | second_nil (first : List α) : Interleaves weak strong first [] first
  | first {x : α} {first second merged : List α} (may : ∀ y ∈ second, weak x y)
    (rest : Interleaves weak strong first second merged) :
    Interleaves weak strong (x :: first) second (x :: merged)
  | second {y : α} {first second merged : List α} (must : ∀ x ∈ first, strong y x)
    (rest : Interleaves weak strong first second merged) :
    Interleaves weak strong first (y :: second) (y :: merged)

namespace Interleaves

variable {known : α → Prop} {weak strong : α → α → Prop} {first second merged taken : List α} {x y : α}

/-- Interleaving two lists neither loses an element nor adds one. -/
theorem perm (interleaves : Interleaves weak strong first second merged) :
    merged.Perm (first ++ second) := by
  induction interleaves with
  | first_nil second => exact .refl _
  | second_nil first => rw [List.append_nil]
  | first _ _ ih => exact ih.cons _
  | second _ _ ih => exact (ih.cons _).trans List.perm_middle.symm

/-- Two lists in order are interleaved to a list in order. -/
theorem pairwise (ranking : Ranking weak strong)
    (interleaves : Interleaves weak strong first second merged) (ordered : first.Pairwise weak)
    (ordered' : second.Pairwise weak) : merged.Pairwise weak := by
  induction interleaves with
  | first_nil second => exact ordered'
  | second_nil first => exact ordered
  | first may rest ih =>
      rw [List.pairwise_cons] at ordered ⊢
      refine ⟨?_, ih ordered.2 ordered'⟩
      intro z member
      rcases List.mem_append.mp (rest.perm.mem_iff.mp member) with left | right
      · exact ordered.1 z left
      · exact may z right
  | second must rest ih =>
      rw [List.pairwise_cons] at ordered' ⊢
      refine ⟨?_, ih ordered ordered'.2⟩
      intro z member
      rcases List.mem_append.mp (rest.perm.mem_iff.mp member) with left | right
      · exact ranking.weak_of_strong (must z left)
      · exact ordered'.1 z right

/-- Elements none of which has to come before another one stay in their order. -/
theorem filter (interleaves : Interleaves weak strong first second merged) {p : α → Bool}
    (tied : ∀ x y, p x = true → p y = true → ¬strong x y) :
    merged.filter p = first.filter p ++ second.filter p := by
  induction interleaves with
  | first_nil second => rfl
  | second_nil first => rw [List.filter_nil, List.append_nil]
  | @first x first second merged may rest ih =>
      rw [List.filter_cons, List.filter_cons, ih]
      split
      · rw [List.cons_append]
      · rfl
  | @second y first second merged must rest ih =>
      rw [List.filter_cons, List.filter_cons, ih]
      split
      · rename_i picked
        have none : first.filter p = [] := by
          rw [List.filter_eq_nil_iff]
          intro x member picked'
          exact tied y x picked picked' (must x member)
        rw [none, List.nil_append, List.nil_append]
      · rfl

/-- Several elements of the first list may be taken together. -/
theorem first_append (may : ∀ x ∈ taken, ∀ y ∈ second, weak x y)
    (rest : Interleaves weak strong first second merged) :
    Interleaves weak strong (taken ++ first) second (taken ++ merged) := by
  induction taken with
  | nil => exact rest
  | cons x taken ih =>
      rw [List.forall_mem_cons] at may
      exact .first may.1 (ih may.2)

/-- Several elements of the second list may be taken together. -/
theorem second_append (must : ∀ y ∈ taken, ∀ x ∈ first, strong y x)
    (rest : Interleaves weak strong first second merged) :
    Interleaves weak strong first (taken ++ second) (taken ++ merged) := by
  induction taken with
  | nil => exact rest
  | cons y taken ih =>
      rw [List.forall_mem_cons] at must
      exact .second must.1 (ih must.2)

/-- The last element of the first list may come behind the second list. -/
theorem last_behind (must : ∀ y ∈ second, strong y x) :
    Interleaves weak strong [x] second (second ++ [x]) := by
  have all : Interleaves weak strong [x] (second ++ []) (second ++ [x]) := by
    refine second_append ?_ (.second_nil [x])
    intro y member z single
    exact List.mem_singleton.mp single ▸ must y member
  rwa [List.append_nil] at all

/-- Several elements may follow in the second list. -/
theorem first_behind {behind : List α} (may : ∀ x ∈ first, ∀ y ∈ behind, weak x y)
    (rest : Interleaves weak strong first second merged) :
    Interleaves weak strong first (second ++ behind) (merged ++ behind) := by
  induction rest with
  | first_nil second => exact .first_nil _
  | second_nil first =>
      have all : Interleaves weak strong (first ++ []) behind (first ++ behind) :=
        first_append may (.first_nil behind)
      rwa [List.append_nil] at all
  | first may' _ ih =>
      rw [List.forall_mem_cons] at may
      refine .first ?_ (ih may.2)
      rw [List.forall_mem_append]
      exact ⟨may', may.1⟩
  | second must _ ih => exact .second must (ih may)

/-- Another element may follow in the first list. -/
theorem second_behind (must : ∀ y ∈ second, strong y x)
    (rest : Interleaves weak strong first second merged) :
    Interleaves weak strong (first ++ [x]) second (merged ++ [x]) := by
  induction rest with
  | first_nil second => exact last_behind must
  | second_nil first => exact .second_nil _
  | first may _ ih => exact .first may (ih must)
  | second must' _ ih =>
      rw [List.forall_mem_cons] at must
      refine .second ?_ (ih must.2)
      rw [List.forall_mem_append]
      exact ⟨must', List.forall_mem_singleton.mpr must.1⟩

/-- Lists interleaved from their ends. -/
theorem reverse
    (rest : Interleaves (fun x y => weak y x) (fun x y => strong y x) first second merged) :
    Interleaves weak strong second.reverse first.reverse merged.reverse := by
  induction rest with
  | first_nil second => exact .second_nil _
  | second_nil first => exact .first_nil _
  | first may _ ih =>
      rw [List.reverse_cons, List.reverse_cons]
      refine ih.first_behind fun y member z single => ?_
      exact List.mem_singleton.mp single ▸ may y (List.mem_reverse.mp member)
  | second must _ ih =>
      rw [List.reverse_cons, List.reverse_cons]
      exact ih.second_behind fun x member => must x (List.mem_reverse.mp member)

end Interleaves

/-! ## Contests -/

section Contests

variable {known : α → Prop} {weak strong : α → α → Prop}

/-- Whether two lists can be merged in a contest: both are in order, and the last element of the
first has to come behind the second. -/
structure Facing (known : α → Prop) (weak strong : α → α → Prop) (first second : List α) :
    Prop where
  orderedFirst : Ordered known weak first
  orderedSecond : Ordered known weak second
  last : ∀ x, first.getLast? = some x → ∀ y ∈ second, strong y x

/-- Whether what a contest finds agrees with an order. -/
structure Contest.Fair (contest : Contest α) (known : α → Prop) (weak strong : α → α → Prop) :
    Prop where
  strong_of_wins : ∀ {x y}, known x → known y → contest.secondWins x y = true → strong y x
  weak_of_not_wins : ∀ {x y}, known x → known y → contest.secondWins x y = false → weak x y
  leadFirst : ∀ {first y}, Ordered known weak first → known y →
    (∀ x ∈ first.take (contest.leadFirst first y), weak x y) ∧
      ∀ x ∈ first.drop (contest.leadFirst first y), strong y x
  leadSecond : ∀ {second x}, Ordered known weak second → known x →
    (∀ y ∈ second.take (contest.leadSecond second x), strong y x) ∧
      ∀ y ∈ second.drop (contest.leadSecond second x), weak x y

/-- Whether an advance takes elements as they may be taken, and leaves less than there was. -/
def Advance.Sound (weak strong : α → α → Prop) (first second : List α) : Advance α → Prop
  | .finished merged => Interleaves weak strong first second merged
  | .onward taken first' second' _ =>
    first' <:+ first ∧ second' <:+ second ∧
      first'.length + second'.length < first.length + second.length ∧
      ∀ merged, Interleaves weak strong first' second' merged →
        Interleaves weak strong first second (taken ++ merged)

variable {first second first' second' : List α} {x y : α}

/-- What is left of two lists that can be merged can be merged. -/
theorem Facing.suffix (facing : Facing known weak strong first second) (part : first' <:+ first)
    (part' : second' <:+ second) : Facing known weak strong first' second' where
  orderedFirst := facing.orderedFirst.sublist part.sublist
  orderedSecond := facing.orderedSecond.sublist part'.sublist
  last := by
    intro x ends y member
    obtain ⟨before, rfl⟩ := part
    refine facing.last x ?_ y (part'.subset member)
    rw [List.getLast?_append, ends, Option.some_or]

/-- An element that may come before the head of an ordered list may come before all of it. -/
theorem weak_of_head (ranking : Ranking weak strong) (ordered : Ordered known weak (y :: second))
    (may : weak x y) : ∀ z ∈ y :: second, weak x z := by
  rw [List.forall_mem_cons]
  exact ⟨may, fun z member =>
    ranking.weak_trans may (List.rel_of_pairwise_cons ordered.pairwise member)⟩

/-- An element that has to come before the head of an ordered list has to come before all of it. -/
theorem strong_of_head (ranking : Ranking weak strong) (ordered : Ordered known weak (x :: first))
    (must : strong y x) : ∀ z ∈ x :: first, strong y z := by
  rw [List.forall_mem_cons]
  exact ⟨must, fun z member =>
    ranking.strong_of_strong_of_weak must (List.rel_of_pairwise_cons ordered.pairwise member)⟩

/-- What may come behind the last element of an ordered list may come behind all of it. -/
theorem weak_of_last (ranking : Ranking weak strong) (ordered : Ordered known weak first)
    (ends : first.getLast? = some x) (may : weak x y) : ∀ z ∈ first, weak z y := by
  rw [List.getLast?_eq_some_iff] at ends
  obtain ⟨others, rfl⟩ := ends
  intro z member
  rcases List.mem_append.mp member with earlier | same
  · have before := (List.pairwise_append.mp ordered.pairwise).2.2 z earlier x
      (List.mem_singleton.mpr rfl)
    exact ranking.weak_trans before may
  · rwa [List.mem_singleton.mp same]

namespace Contest

variable {contest : Contest α}

/-- An advance in the first list takes the elements that may come before the head of the second, and
then that head. -/
theorem advanceFirst_sound (ranking : Ranking weak strong) (fair : contest.Fair known weak strong)
    (facing : Facing known weak strong first second) :
    (contest.advanceFirst first second).Sound weak strong first second := by
  rw [advanceFirst.eq_def]
  cases second with
  | nil => exact .second_nil first
  | cons y later =>
      obtain ⟨taken, left⟩ := fair.leadFirst facing.orderedFirst
        (facing.orderedSecond.known y List.mem_cons_self)
      have parts := (List.take_append_drop (contest.leadFirst first y) first).symm
      have suffix := List.drop_suffix (contest.leadFirst first y) first
      have may : ∀ x ∈ first.take (contest.leadFirst first y), ∀ z ∈ y :: later, weak x z :=
        fun x member => weak_of_head ranking facing.orderedSecond (taken x member)
      have onward : ∀ merged,
          Interleaves weak strong (first.drop (contest.leadFirst first y)) (y :: later) merged →
          Interleaves weak strong first (y :: later)
            (first.take (contest.leadFirst first y) ++ merged) := by
        intro merged rest
        conv => arg 3; rw [parts]
        exact .first_append may rest
      simp only
      split
      · rename_i all
        rw [all] at onward
        exact onward _ (.first_nil _)
      · rename_i x one
        have ends : first.getLast? = some x := by
          rw [parts, one, List.getLast?_append, List.getLast?_singleton, Option.some_or]
        rw [Advance.Sound, List.append_assoc]
        rw [one] at onward
        exact onward _ (.last_behind (facing.last x ends))
      · split
        · rename_i used
          rw [List.isEmpty_iff] at used
          subst used
          exact onward _ (.second left (.second_nil _))
        · refine ⟨suffix, List.suffix_cons y later, ?_, ?_⟩
          · have shorter := suffix.length_le
            rw [List.length_cons]
            omega
          · intro merged rest
            rw [List.append_assoc]
            exact onward _ (.second left rest)

/-- An advance in the second list takes the elements that have to come before the head of the first,
and then that head. -/
theorem advanceSecond_sound (ranking : Ranking weak strong) (fair : contest.Fair known weak strong)
    (facing : Facing known weak strong first second) :
    (contest.advanceSecond first second).Sound weak strong first second := by
  rw [advanceSecond.eq_def]
  cases first with
  | nil => exact .first_nil second
  | cons x later =>
      obtain ⟨taken, left⟩ := fair.leadSecond facing.orderedSecond
        (facing.orderedFirst.known x List.mem_cons_self)
      have parts := (List.take_append_drop (contest.leadSecond second x) second).symm
      have suffix := List.drop_suffix (contest.leadSecond second x) second
      have must : ∀ y ∈ second.take (contest.leadSecond second x), ∀ z ∈ x :: later, strong y z :=
        fun y member => strong_of_head ranking facing.orderedFirst (taken y member)
      have onward : ∀ merged,
          Interleaves weak strong (x :: later) (second.drop (contest.leadSecond second x)) merged →
          Interleaves weak strong (x :: later) second
            (second.take (contest.leadSecond second x) ++ merged) := by
        intro merged rest
        conv => arg 4; rw [parts]
        exact .second_append must rest
      simp only
      split
      · rename_i all
        rw [all] at onward
        exact onward _ (.second_nil _)
      · split
        · rename_i last
          rw [Advance.Sound, List.append_assoc, List.cons_append]
          refine onward _ (.first left (.last_behind ?_))
          intro y member
          exact facing.last last rfl y (suffix.subset member)
        · refine ⟨List.suffix_cons x later, suffix, ?_, ?_⟩
          · have shorter := suffix.length_le
            rw [List.length_cons]
            omega
          · intro merged rest
            rw [List.append_assoc]
            exact onward _ (.first left rest)

/-- Two advances in a row take elements as they may be taken if each of them does. -/
theorem andThen_sound {advance : Advance α} {next : List α → List α → Advance α}
    (sound : advance.Sound weak strong first second)
    (later : ∀ first' second', first' <:+ first → second' <:+ second →
      (next first' second').Sound weak strong first' second') :
    (andThen advance next).Sound weak strong first second := by
  cases advance with
  | finished merged => exact sound
  | onward taken first' second' lead =>
      obtain ⟨part, part', shorter, taking⟩ := sound
      have sound' := later first' second' part part'
      rw [andThen]
      cases found : next first' second' with
      | finished merged =>
          rw [found] at sound'
          exact taking merged sound'
      | onward more rest rest' lead' =>
          rw [found] at sound'
          obtain ⟨remains, remains', shorter', taking'⟩ := sound'
          refine ⟨remains.trans part, remains'.trans part', Nat.lt_trans shorter' shorter, ?_⟩
          intro merged interleaves
          rw [List.append_assoc]
          exact taking _ (taking' merged interleaves)

/-- A round of looking ahead in both lists takes elements as they may be taken. -/
theorem advance_sound (ranking : Ranking weak strong) (fair : contest.Fair known weak strong)
    (facing : Facing known weak strong first second) :
    (contest.advance first second).Sound weak strong first second := by
  rw [advance]
  split
  · exact andThen_sound (advanceFirst_sound ranking fair facing)
      fun _ _ part part' => advanceSecond_sound ranking fair (facing.suffix part part')
  · exact andThen_sound (advanceSecond_sound ranking fair facing)
      fun _ _ part part' => advanceFirst_sound ranking fair (facing.suffix part part')

/-- **Merging.** At whatever pace two lists are merged, they are interleaved. -/
theorem merge_interleaves (ranking : Ranking weak strong) (fair : contest.Fair known weak strong)
    {rounds : Nat} (patience : Nat) (pace : Pace) (facing : Facing known weak strong first second)
    (enough : first.length + second.length ≤ rounds) :
    Interleaves weak strong first second (contest.merge rounds patience pace first second).1 := by
  induction rounds generalizing patience pace first second with
  | zero =>
      obtain rfl : first = [] := List.length_eq_zero_iff.mp (by omega)
      exact .first_nil second
  | succ rounds ih =>
      cases pace with
      | galloping =>
          have sound := advance_sound ranking fair facing
          rw [merge]
          simp only
          split
          · rename_i merged found
            rw [found] at sound
            exact sound
          · rename_i taken first' second' lead found
            rw [found] at sound
            obtain ⟨part, part', shorter, taking⟩ := sound
            refine taking _ ?_
            split
            · exact ih _ _ (facing.suffix part part') (by omega)
            · exact ih _ _ (facing.suffix part part') (by omega)
      | stepping wins wins' =>
          rcases first with _ | ⟨x, first⟩
          · exact .first_nil second
          rcases second with _ | ⟨y, second⟩
          · change Interleaves weak strong (x :: first) [] (x :: first ++ [])
            rw [List.append_nil]
            exact .second_nil _
          have knownFirst := facing.orderedFirst.known x List.mem_cons_self
          have knownSecond := facing.orderedSecond.known y List.mem_cons_self
          have whole := List.suffix_refl (x :: first)
          have whole' := List.suffix_refl (y :: second)
          rw [List.length_cons, List.length_cons] at enough
          rw [merge.eq_def]
          simp only
          split
          · rename_i wins
            have must := strong_of_head ranking facing.orderedFirst
              (fair.strong_of_wins knownFirst knownSecond wins)
            split
            · rename_i used
              rw [List.isEmpty_iff] at used
              subst used
              exact .second must (.second_nil _)
            · have onward := facing.suffix whole (List.suffix_cons y second)
              refine .second must ?_
              split
              · exact ih _ _ onward (by rw [List.length_cons]; omega)
              · exact ih _ _ onward (by rw [List.length_cons]; omega)
          · rename_i loses
            have may := weak_of_head ranking facing.orderedSecond
              (fair.weak_of_not_wins knownFirst knownSecond ((Bool.not_eq_true _).mp loses))
            have onward := facing.suffix (List.suffix_cons x first) whole'
            split
            · rename_i last
              exact .first may (.last_behind (onward.last last rfl))
            · refine .first may ?_
              split
              · exact ih _ _ onward (by rw [List.length_cons]; omega)
              · exact ih _ _ onward (by rw [List.length_cons]; omega)

end Contest

end Contests

/-! ## Runs -/

section Runs

variable {below : α → α → Bool} {known : α → Prop} {weak strong : α → α → Prop}
  {first second : List α}

/-- Merging from the start of both lists respects the order. -/
theorem Contest.upward_fair (ranking : Ranking weak strong) (agrees : Agrees below known weak strong) :
    (Contest.upward below).Fair known weak strong where
  strong_of_wins knownFirst knownSecond wins := agrees.strong_of_below knownSecond knownFirst wins
  weak_of_not_wins knownFirst knownSecond loses :=
    agrees.weak_of_not_below knownSecond knownFirst loses
  leadFirst ordered knownSecond :=
    agrees.sides_behind ranking ordered knownSecond (gallop_isBorder (Nat.zero_le _))
  leadSecond ordered knownFirst :=
    agrees.sides_before ranking ordered knownFirst (gallop_isBorder (Nat.zero_le _))

/-- A place counted from the end of a list is one counted from the start of the list turned
around. -/
theorem forall_sides_reverse {list : List α} {border : Nat} {left right : α → Prop}
    (sides : (∀ x ∈ list.reverse.take border, left x) ∧ ∀ x ∈ list.reverse.drop border, right x) :
    (∀ x ∈ list.take (list.length - border), right x) ∧
      ∀ x ∈ list.drop (list.length - border), left x := by
  rw [List.take_reverse, List.drop_reverse] at sides
  exact ⟨fun x member => sides.2 x (List.mem_reverse.mpr member),
    fun x member => sides.1 x (List.mem_reverse.mpr member)⟩

/-- Merging from the end of both lists respects the opposite order. -/
theorem Contest.downward_fair (ranking : Ranking weak strong)
    (agrees : Agrees below known weak strong) :
    (Contest.downward below).Fair known (fun x y => weak y x) (fun x y => strong y x) where
  strong_of_wins knownFirst knownSecond wins := agrees.strong_of_below knownFirst knownSecond wins
  weak_of_not_wins knownFirst knownSecond loses :=
    agrees.weak_of_not_below knownFirst knownSecond loses
  leadFirst := by
    intro first y ordered knownSecond
    have inside : first.length - 1 ≤ first.reverse.length := by
      rw [List.length_reverse]
      omega
    exact forall_sides_reverse
      (agrees.sides_before ranking ordered.reverse knownSecond (gallop_isBorder inside))
  leadSecond := by
    intro second x ordered knownFirst
    have inside : second.length - 1 ≤ second.reverse.length := by
      rw [List.length_reverse]
      omega
    exact forall_sides_reverse
      (agrees.sides_behind ranking ordered.reverse knownFirst (gallop_isBorder inside))

/-- A merge in which the head of the second list is taken first interleaves the lists. -/
theorem Contest.mergeFrom_interleaves {contest : Contest α} (ranking : Ranking weak strong)
    (fair : contest.Fair known weak strong) (patience : Nat)
    (facing : Facing known weak strong first second)
    (head : ∀ y, second.head? = some y → ∀ x ∈ first, strong y x) :
    Interleaves weak strong first second (contest.mergeFrom patience first second).1 := by
  rcases second with _ | ⟨y, second⟩
  · exact .second_nil first
  have must := head y rfl
  have onward := facing.suffix (List.suffix_refl first) (List.suffix_cons y second)
  rw [mergeFrom.eq_def]
  simp only
  split
  · rename_i used
    rw [List.isEmpty_iff] at used
    subst used
    exact .second must (.second_nil first)
  · split
    · rename_i last
      exact .second must (.last_behind (onward.last last rfl))
    · exact .second must (merge_interleaves ranking fair _ _ onward (Nat.le_refl _))

/-- Two lists are interleaved whichever of them is the shorter one and is passed first. -/
theorem mergeParts_interleaves (ranking : Ranking weak strong)
    (agrees : Agrees below known weak strong) (patience : Nat) (ordered : Ordered known weak first)
    (ordered' : Ordered known weak second)
    (head : ∀ y, second.head? = some y → ∀ x ∈ first, strong y x)
    (last : ∀ x, first.getLast? = some x → ∀ y ∈ second, strong y x) :
    Interleaves weak strong first second (mergeParts below patience first second).1 := by
  rw [mergeParts]
  split
  · exact Contest.mergeFrom_interleaves ranking (Contest.upward_fair ranking agrees) patience
      ⟨ordered, ordered', last⟩ head
  · have facing : Facing known (fun x y => weak y x) (fun x y => strong y x) second.reverse
        first.reverse := by
      refine ⟨ordered'.reverse, ordered.reverse, ?_⟩
      intro y ends x member
      rw [List.getLast?_reverse] at ends
      exact head y ends x (List.mem_reverse.mp member)
    have turned := Contest.mergeFrom_interleaves ranking.flip
      (Contest.downward_fair ranking agrees) patience facing ?_
    · have back := turned.reverse
      rwa [List.reverse_reverse, List.reverse_reverse] at back
    · intro x ends y member
      rw [List.head?_reverse] at ends
      exact last x ends y (List.mem_reverse.mp member)

/-- **Merging runs.** Two ordered lists are merged into one in which elements of the later list come
before those of the earlier one only where they have to. -/
theorem mergeRuns_interleaves (ranking : Ranking weak strong)
    (agrees : Agrees below known weak strong) (patience : Nat) (ordered : Ordered known weak first)
    (ordered' : Ordered known weak second) :
    Interleaves weak strong first second (mergeRuns below patience first second).1 := by
  rw [mergeRuns.eq_def]
  rcases second with _ | ⟨y, later⟩
  · exact .second_nil first
  obtain ⟨before, left⟩ := agrees.sides_behind ranking ordered (ordered'.known y List.mem_cons_self)
    (gallop_isBorder (Nat.zero_le _))
  simp only
  generalize gallop (fun x => !below y x) first 0 = start at before left ⊢
  have parts := (List.take_append_drop start first).symm
  have beforeAll : ∀ x ∈ first.take start, ∀ z ∈ y :: later, weak x z :=
    fun x member => weak_of_head ranking ordered' (before x member)
  have orderedLeft := ordered.sublist (List.drop_sublist start first)
  split
  · rename_i empty
    rw [List.getLast?_eq_none_iff] at empty
    rw [empty, List.append_nil] at parts
    rw [← parts] at beforeAll
    have all : Interleaves weak strong (first ++ []) (y :: later) (first ++ y :: later) :=
      .first_append beforeAll (.first_nil (y :: later))
    rwa [List.append_nil] at all
  · rename_i last ends
    have inside : (y :: later).length - 1 ≤ (y :: later).length := Nat.sub_le _ _
    have knownLast := orderedLeft.known last (List.mem_of_getLast? ends)
    obtain ⟨right, behind⟩ :=
      agrees.sides_before ranking ordered' knownLast (gallop_isBorder inside)
    generalize gallop (fun z => below z last) (y :: later) ((y :: later).length - 1) = stop
      at right behind ⊢
    have behindAll : ∀ x ∈ first.drop start, ∀ z ∈ (y :: later).drop stop, weak x z :=
      fun x member z member' => weak_of_last ranking orderedLeft ends (behind z member') x member
    have middle := mergeParts_interleaves ranking agrees patience orderedLeft
      (ordered'.sublist (List.take_sublist stop (y :: later))) (by
        intro z starts x member
        rcases stop with _ | stop
        · cases starts
        · cases starts
          exact left x member) (by
        intro x ends'
        obtain rfl : x = last := Option.some.inj (ends'.symm.trans ends)
        exact right)
    have all := middle.first_behind behindAll
    rw [List.take_append_drop] at all
    conv => arg 3; rw [parts]
    exact .first_append beforeAll all

end Runs

end Sorting

end TableSearch
