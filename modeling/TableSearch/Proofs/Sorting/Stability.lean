import Mathlib.Order.Defs.LinearOrder
import TableSearch.Proofs.Sorting.Merge
import TableSearch.Sorting.Basic

/-! # What sorting gives

`TableSearch.Sorting.sort_arranges`: if the answers of a comparison agree with two relations, *weak*
and *strong*, then the sorted list holds the same elements, each may come before all behind it, and
elements none of which has to come before another stay in their order.

If the comparison is an order of the elements of a list, even one with ties, then the sorted list is
its stable order (`TableSearch.Sorting.sort_isStableOrder`), and there is no other
(`TableSearch.Sorting.IsStableOrder.unique`).
-/

namespace TableSearch

namespace Sorting

variable {α β : Type}

/-! ## Arrangements -/

/-- Whether a list holds the elements of another one as an order asks for, and leaves elements as
they were where the order does not ask for anything. -/
structure Arranges (weak strong : α → α → Prop) (source result : List α) : Prop where
  perm : result.Perm source
  pairwise : result.Pairwise weak
  filter_eq : ∀ p : α → Bool, (∀ x y, p x = true → p y = true → ¬strong x y) →
    result.filter p = source.filter p

section Arrangements

variable {below : α → α → Bool} {known : α → Prop} {weak strong : α → α → Prop}
  {source source' run run' list merged : List α} {x : α}

theorem Arranges.refl (ordered : list.Pairwise weak) : Arranges weak strong list list :=
  ⟨.refl _, ordered, fun _ _ => rfl⟩

/-- Two arrangements that are interleaved arrange both sources, one behind the other. -/
theorem Arranges.interleave (ranking : Ranking weak strong)
    (arranges : Arranges weak strong source run) (arranges' : Arranges weak strong source' run')
    (interleaves : Interleaves weak strong run run' merged) :
    Arranges weak strong (source ++ source') merged where
  perm := interleaves.perm.trans (arranges.perm.append arranges'.perm)
  pairwise := interleaves.pairwise ranking arranges.pairwise arranges'.pairwise
  filter_eq := by
    intro p tied
    rw [interleaves.filter tied, arranges.filter_eq p tied, arranges'.filter_eq p tied,
      List.filter_append]

theorem Arranges.ordered (arranges : Arranges weak strong source run)
    (known' : ∀ x ∈ source, known x) : Ordered known weak run :=
  ⟨fun x member => known' x (arranges.perm.mem_iff.mp member), arranges.pairwise⟩

/-- Of elements each of which has to come before the one ahead of it, no two are tied. -/
theorem reverse_filter_eq {p : α → Bool} (falling : list.Pairwise fun x y => strong y x)
    (tied : ∀ x y, p x = true → p y = true → ¬strong x y) :
    list.reverse.filter p = list.filter p := by
  rw [List.filter_reverse]
  have falling' := falling.sublist (List.filter_sublist (p := p))
  have picked : ∀ x ∈ list.filter p, p x = true := fun x member => (List.mem_filter.mp member).2
  match list.filter p, falling', picked with
  | [], _, _ => rfl
  | [x], _, _ => rfl
  | x :: y :: rest, falling', picked =>
      exact (tied y x (picked y (List.mem_cons_of_mem _ List.mem_cons_self))
        (picked x List.mem_cons_self)
        (List.rel_of_pairwise_cons falling' List.mem_cons_self)).elim

/-- A list that falls throughout is arranged by turning it around. -/
theorem Arranges.reverse (ranking : Ranking weak strong)
    (falling : list.Pairwise fun x y => strong y x) : Arranges weak strong list list.reverse where
  perm := List.reverse_perm list
  pairwise := List.pairwise_reverse.mpr (falling.imp ranking.weak_of_strong)
  filter_eq _ tied := reverse_filter_eq falling tied

/-! ## Runs -/

variable (ranking : Ranking weak strong) (agrees : Agrees below known weak strong)

include ranking agrees

/-- A run upwards is split off from the start of a list, and is in order. -/
theorem climb_pairwise {last : α} (known' : ∀ x ∈ last :: list, known x) :
    list = (climb below last list).1 ++ (climb below last list).2 ∧
      (last :: (climb below last list).1).Pairwise weak := by
  induction list generalizing last with
  | nil => exact ⟨rfl, List.pairwise_singleton _ _⟩
  | cons x rest ih =>
      rw [List.forall_mem_cons] at known'
      rw [climb]
      split
      · exact ⟨rfl, List.pairwise_singleton _ _⟩
      · rename_i stays
        obtain ⟨split, onward⟩ := ih known'.2
        have may := agrees.weak_of_not_below (known'.2 x List.mem_cons_self) known'.1
          ((Bool.not_eq_true _).mp stays)
        have := ranking.weak_isTrans
        exact ⟨congrArg (x :: ·) split, .cons_cons_of_trans may onward⟩

/-- A run strictly downwards is split off from the start of a list, and each of its elements has to
come behind the later ones. -/
theorem descend_pairwise {last : α} (known' : ∀ x ∈ last :: list, known x) :
    list = (descend below last list).1 ++ (descend below last list).2 ∧
      (last :: (descend below last list).1).Pairwise fun x y => strong y x := by
  induction list generalizing last with
  | nil => exact ⟨rfl, List.pairwise_singleton _ _⟩
  | cons x rest ih =>
      rw [List.forall_mem_cons] at known'
      rw [descend]
      split
      · rename_i falls
        obtain ⟨split, onward⟩ := ih known'.2
        have must := agrees.strong_of_below (known'.2 x List.mem_cons_self) known'.1 falls
        have := ranking.strong_isTrans
        exact ⟨congrArg (x :: ·) split, .cons_cons_of_trans must onward⟩
      · exact ⟨rfl, List.pairwise_singleton _ _⟩

/-- The first run arranges the elements that it is made of. -/
theorem firstRun_arranges (known' : ∀ x ∈ list, known x) (some : list ≠ []) :
    ∃ piece, piece ≠ [] ∧ list = piece ++ (firstRun below list).2 ∧
      Arranges weak strong piece (firstRun below list).1 := by
  rcases list with _ | ⟨x, _ | ⟨y, rest⟩⟩
  · exact (some rfl).elim
  · exact ⟨[x], List.cons_ne_nil _ _, rfl, .refl (List.pairwise_singleton _ _)⟩
  · rw [List.forall_mem_cons] at known'
    have knownSecond := known'.2 y List.mem_cons_self
    rw [firstRun]
    split
    · rename_i falls
      obtain ⟨split, onward⟩ := descend_pairwise ranking agrees known'.2
      have must := agrees.strong_of_below knownSecond known'.1 falls
      have := ranking.strong_isTrans
      refine ⟨x :: y :: (descend below y rest).1, List.cons_ne_nil _ _, ?_, ?_⟩
      · exact congrArg (x :: y :: ·) split
      · exact .reverse ranking (.cons_cons_of_trans must onward)
    · rename_i stays
      obtain ⟨split, onward⟩ := climb_pairwise ranking agrees known'.2
      have may := agrees.weak_of_not_below knownSecond known'.1 ((Bool.not_eq_true _).mp stays)
      have := ranking.weak_isTrans
      refine ⟨x :: y :: (climb below y rest).1, List.cons_ne_nil _ _, ?_, ?_⟩
      · exact congrArg (x :: y :: ·) split
      · exact .refl (.cons_cons_of_trans may onward)

/-- A run with one more element arranges its source with this element behind it. -/
theorem insert_arranges (arranges : Arranges weak strong source run)
    (known' : ∀ x ∈ source, known x) (knownHere : known x) :
    Arranges weak strong (source ++ [x]) (insert below run x) := by
  have border : IsBorder (fun y => !below x y) run
      (place (fun y => !below x y) run 0 run.length (run.length + 1)) := by
    refine place_isBorder (Nat.zero_le _) (Nat.le_refl _) (by omega) ?_ ?_
    · intro index absurd
      cases absurd
    · intro less
      exact (Nat.lt_irrefl _ less).elim
  rw [insert]
  generalize place (fun y => !below x y) run 0 run.length (run.length + 1) = spot at border ⊢
  obtain ⟨before, behind⟩ :=
    agrees.sides_behind ranking (arranges.ordered known') knownHere border
  refine arranges.interleave ranking (.refl (List.pairwise_singleton _ x)) ?_
  conv => arg 3; rw [← List.take_append_drop spot run]
  refine .first_append ?_ (.second behind (.second_nil _))
  intro y member z single
  exact List.mem_singleton.mp single ▸ before y member

/-- Inserting elements one by one arranges them behind those of a run. -/
theorem foldl_insert_arranges (arranges : Arranges weak strong source run)
    (known' : ∀ x ∈ source ++ list, known x) :
    Arranges weak strong (source ++ list) (list.foldl (insert below) run) := by
  induction list generalizing source run with
  | nil => rwa [List.append_nil]
  | cons x rest ih =>
      have moved : source ++ x :: rest = source ++ [x] ++ rest := by
        rw [List.append_assoc, List.singleton_append]
      rw [moved] at known' ⊢
      have known'' := List.forall_mem_append.mp (List.forall_mem_append.mp known').1
      rw [List.foldl_cons]
      refine ih (insert_arranges ranking agrees arranges known''.1 ?_) known'
      exact known''.2 x (List.mem_singleton.mpr rfl)

/-- The runs that a list is cut into arrange its pieces. -/
theorem cut_arranges (least : Nat) {rounds : Nat} (known' : ∀ x ∈ list, known x)
    (enough : list.length ≤ rounds) :
    ∃ pieces : List (List α), list = pieces.flatten ∧
      List.Forall₂ (Arranges weak strong) pieces (cut below least rounds list) := by
  induction rounds generalizing list with
  | zero =>
      obtain rfl := List.length_eq_zero_iff.mp (Nat.le_zero.mp enough)
      exact ⟨[], rfl, .nil⟩
  | succ rounds ih =>
      rcases list with _ | ⟨x, list⟩
      · exact ⟨[], rfl, .nil⟩
      obtain ⟨piece, some, split, arranges⟩ :=
        firstRun_arranges ranking agrees known' (List.cons_ne_nil x list)
      rw [cut]
      simp only
      generalize firstRun below (x :: list) = first at split arranges ⊢
      obtain ⟨run, rest⟩ := first
      simp only at split arranges ⊢
      have halves := (List.take_append_drop (least - run.length) rest).symm
      rw [split] at known' enough
      have longer := List.length_pos_iff.mpr some
      rw [halves, ← List.append_assoc, List.length_append, List.length_append] at enough
      rw [halves, ← List.append_assoc, List.forall_mem_append] at known'
      obtain ⟨pieces, parts, others⟩ := ih known'.2 (by omega)
      refine ⟨(piece ++ rest.take (least - run.length)) :: pieces, ?_, ?_⟩
      · rw [List.flatten_cons, ← parts, List.append_assoc, ← halves, split]
      · exact .cons (foldl_insert_arranges ranking agrees arranges known'.1) others

/-! ## Merging the runs -/

/-- Two neighbouring runs are merged to one that arranges the elements of both. -/
theorem mergeRuns_arranges (patience : Nat) (arranges : Arranges weak strong source run)
    (arranges' : Arranges weak strong source' run') (known' : ∀ x ∈ source ++ source', known x) :
    Arranges weak strong (source ++ source') (mergeRuns below patience run run').1 := by
  rw [List.forall_mem_append] at known'
  exact arranges.interleave ranking arranges' (mergeRuns_interleaves ranking agrees patience
    (arranges.ordered known'.1) (arranges'.ordered known'.2))

/-- Whether waiting runs, the last first, arrange consecutive pieces of a list. -/
def Stacks (weak strong : α → α → Prop) (source : List α) : List (Waiting α) → Prop
  | [] => source = []
  | last :: waiting =>
    ∃ earlier piece, source = earlier ++ piece ∧ Arranges weak strong piece last.run ∧
      Stacks weak strong earlier waiting

/-- Merging the last of the waiting runs, as far as the borders between them ask for it, leaves runs
that arrange the same elements. -/
theorem settle_stacks (depth : Nat) {patience : Nat} {last : Waiting α}
    {waiting : List (Waiting α)} (known' : ∀ x ∈ source, known x)
    (piled : Stacks weak strong source (last :: waiting)) :
    Stacks weak strong source ((settle below depth patience last waiting).1 ::
      (settle below depth patience last waiting).2.1) := by
  induction waiting generalizing patience last with
  | nil => exact piled
  | cons under waiting ih =>
      rw [settle]
      split
      · obtain ⟨_, piece', rfl, arranges', earlier, piece, rfl, arranges, others⟩ := piled
        refine ih ⟨earlier, piece ++ piece', List.append_assoc _ _ _, ?_, others⟩
        refine mergeRuns_arranges ranking agrees patience arranges arranges' ?_
        rw [List.append_assoc, List.forall_mem_append] at known'
        exact known'.2
      · exact piled

/-- One more run behind the waiting ones arranges the elements that come next. -/
theorem await_stacks (length patience : Nat) {waiting : List (Waiting α)}
    (known' : ∀ x ∈ source, known x) (piled : Stacks weak strong source waiting)
    (arranges : Arranges weak strong source' run) :
    Stacks weak strong (source ++ source') (await below length patience run waiting).1 := by
  cases waiting with
  | nil => exact ⟨source, source', rfl, arranges, piled⟩
  | cons last waiting =>
      exact ⟨source, source', rfl, arranges, settle_stacks ranking agrees _ known' piled⟩

/-- All runs of a list, put behind the waiting ones, arrange all of its elements. -/
theorem awaitAll_stacks (length : Nat) {patience : Nat} {waiting : List (Waiting α)}
    {pieces runs : List (List α)} (known' : ∀ x ∈ source ++ pieces.flatten, known x)
    (piled : Stacks weak strong source waiting)
    (arranges : List.Forall₂ (Arranges weak strong) pieces runs) :
    Stacks weak strong (source ++ pieces.flatten)
      (awaitAll below length patience waiting runs).1 := by
  induction arranges generalizing source patience waiting with
  | nil => rwa [List.flatten_nil, List.append_nil]
  | cons first _ ih =>
      rw [List.flatten_cons, ← List.append_assoc] at known' ⊢
      have known'' := (List.forall_mem_append.mp (List.forall_mem_append.mp known').1).1
      exact ih known' (await_stacks ranking agrees length patience known'' piled first)

/-- The waiting runs are merged to one that arranges the whole list, if there is a round for each of
them. -/
theorem collapse_arranges {rounds patience : Nat} {waiting : List (Waiting α)}
    (known' : ∀ x ∈ source, known x) (piled : Stacks weak strong source waiting)
    (enough : waiting.length ≤ rounds) :
    Arranges weak strong source (collapse below rounds patience waiting) := by
  induction rounds generalizing patience waiting with
  | zero =>
      obtain rfl := List.length_eq_zero_iff.mp (Nat.le_zero.mp enough)
      obtain rfl : source = [] := piled
      exact .refl .nil
  | succ rounds ih =>
      rcases waiting with _ | ⟨third, _ | ⟨second, _ | ⟨first, waiting⟩⟩⟩
      · obtain rfl : source = [] := piled
        exact .refl .nil
      · obtain ⟨_, piece, rfl, arranges, rfl⟩ := piled
        rw [List.nil_append]
        change Arranges weak strong piece (third.run ++ [])
        rwa [List.append_nil]
      · obtain ⟨_, piece', rfl, arranges', _, piece, rfl, arranges, rfl⟩ := piled
        exact mergeRuns_arranges ranking agrees patience arranges arranges' known'
      · obtain ⟨_, piece'', rfl, arranges'', _, piece', rfl, arranges', earlier, piece, rfl, arranges,
          others⟩ := piled
        have known'' := known'
        rw [List.append_assoc, List.append_assoc, List.forall_mem_append, ← List.append_assoc,
          List.forall_mem_append] at known''
        obtain ⟨-, early, late⟩ := known''
        have enough' : waiting.length + 1 + 1 ≤ rounds := Nat.le_of_succ_le_succ enough
        rw [collapse]
        split
        · refine ih ⟨earlier ++ (piece ++ piece'), piece'', ?_, arranges'', ?_⟩ enough'
          · rw [List.append_assoc earlier]
          · exact ⟨earlier, piece ++ piece', rfl,
              mergeRuns_arranges ranking agrees patience arranges arranges' early, others⟩
        · have late' : ∀ x ∈ piece' ++ piece'', known x :=
            List.forall_mem_append.mpr ⟨(List.forall_mem_append.mp early).2, late⟩
          refine ih ⟨earlier ++ piece, piece' ++ piece'', ?_, ?_, ?_⟩ enough'
          · rw [List.append_assoc (earlier ++ piece)]
          · exact mergeRuns_arranges ranking agrees patience arranges' arranges'' late'
          · exact ⟨earlier, piece, rfl, arranges, others⟩

/-- **Sorting.** If the answers of a comparison agree with two relations, the sorted list arranges
the list. -/
theorem sort_arranges (known' : ∀ x ∈ list, known x) :
    Arranges weak strong list (sort below list) := by
  obtain ⟨pieces, parts, arranges⟩ :=
    cut_arranges ranking agrees (leastRun list.length) known' (Nat.le_refl _)
  have piled : Stacks weak strong ([] ++ pieces.flatten) (awaitAll below list.length
      Contest.worthwhile [] (cut below (leastRun list.length) list.length list)).1 := by
    refine awaitAll_stacks ranking agrees list.length ?_ rfl arranges
    rwa [List.nil_append, ← parts]
  rw [List.nil_append, ← parts] at piled
  exact collapse_arranges ranking agrees known' piled (Nat.le_refl _)

end Arrangements

/-! ## Stable orders -/

/-- Whether an order is one of the elements of a list: it is the same from both sides and
transitive.  Different elements may be tied. -/
structure OrdersAmong (order : α → α → Ordering) (list : List α) : Prop where
  swap : ∀ x ∈ list, ∀ y ∈ list, order y x = (order x y).swap
  trans : ∀ x ∈ list, ∀ y ∈ list, ∀ z ∈ list, order x y ≠ .gt → order y z ≠ .gt → order x z ≠ .gt

/-- Being an order of the elements of a list, spelled out over the list, so that it can be
decided. -/
theorem ordersAmong_iff {order : α → α → Ordering} {list : List α} :
    OrdersAmong order list ↔
      (∀ x ∈ list, ∀ y ∈ list, order y x = (order x y).swap) ∧
        ∀ x ∈ list, ∀ y ∈ list, ∀ z ∈ list,
          order x y ≠ .gt → order y z ≠ .gt → order x z ≠ .gt :=
  ⟨fun orders => ⟨orders.swap, orders.trans⟩, fun both => ⟨both.1, both.2⟩⟩

instance (order : α → α → Ordering) (list : List α) : Decidable (OrdersAmong order list) :=
  decidable_of_iff _ ordersAmong_iff.symm

/-- A comparison of the elements of a list only. -/
def among (order : α → α → Ordering) (list : List α) : {x // x ∈ list} → {x // x ∈ list} → Ordering :=
  fun x y => order x y

/-- Whether a list is the stable order of another one: it has the same elements, each not above those
behind it, and the elements that are tied with each other stay as they were. -/
structure IsStableOrder (order : α → α → Ordering) (source result : List α) : Prop where
  perm : result.Perm source
  ascending : result.Pairwise fun x y => order x y ≠ .gt
  ties : ∀ x ∈ source,
    (result.filter fun y => order x y == .eq) = source.filter fun y => order x y == .eq

section StableOrders

variable {order : α → α → Ordering} {list source result result' : List α} {x y z : α}

namespace OrdersAmong

/-- An order of the elements of a list is one of some of them. -/
theorem subset (orders : OrdersAmong order list) (part : source ⊆ list) :
    OrdersAmong order source where
  swap x member y member' := orders.swap x (part member) y (part member')
  trans x member y member' z member'' :=
    orders.trans x (part member) y (part member') z (part member'')

/-- An order of elements is one of whatever is compared by such elements. -/
theorem comap {f : β → α} {parts : List β} (orders : OrdersAmong order list)
    (part : ∀ b ∈ parts, f b ∈ list) : OrdersAmong (fun a b => order (f a) (f b)) parts where
  swap a member b member' := orders.swap _ (part a member) _ (part b member')
  trans a member b member' c member'' :=
    orders.trans _ (part a member) _ (part b member') _ (part c member'')

/-- An order of the elements of a list may be given by any comparison with the same answers on
them. -/
theorem congr {order' : α → α → Ordering} (orders : OrdersAmong order list)
    (same : ∀ x ∈ list, ∀ y ∈ list, order' x y = order x y) : OrdersAmong order' list where
  swap x member y member' := by
    rw [same x member y member', same y member' x member]
    exact orders.swap x member y member'
  trans x member y member' z member'' := by
    rw [same x member y member', same y member' z member'', same x member z member'']
    exact orders.trans x member y member' z member''

theorem of_transCmp [Std.TransCmp order] : OrdersAmong order list where
  swap _ _ _ _ := Std.OrientedCmp.eq_swap
  trans _ _ _ _ _ _ := Std.TransCmp.le_trans

/-- An order of the elements of a list is one of the type of these elements. -/
theorem iff_transCmp : OrdersAmong order list ↔ Std.TransCmp (among order list) := by
  constructor
  · intro orders
    have : Std.OrientedCmp (among order list) := ⟨fun {x y} => orders.swap y y.2 x x.2⟩
    refine ⟨fun {x y z} before after => ?_⟩
    rw [Ordering.isLE_iff_ne_gt] at before after ⊢
    exact orders.trans x x.2 y y.2 z z.2 before after
  · intro transitive
    have orders : OrdersAmong (among order list) list.attach := of_transCmp
    exact ⟨fun x member y member' =>
        orders.swap ⟨x, member⟩ (List.mem_attach _ _) ⟨y, member'⟩ (List.mem_attach _ _),
      fun x member y member' z member'' =>
        orders.trans ⟨x, member⟩ (List.mem_attach _ _) ⟨y, member'⟩ (List.mem_attach _ _)
          ⟨z, member''⟩ (List.mem_attach _ _)⟩

theorem self_eq (orders : OrdersAmong order list) (member : x ∈ list) : order x x = .eq :=
  have := iff_transCmp.mp orders
  @Std.ReflCmp.compare_self _ (among order list) _ ⟨x, member⟩

/-- Elements that are tied with the same one are tied with each other. -/
theorem eq_of_eq_of_eq (orders : OrdersAmong order list) (member : x ∈ list) (member' : y ∈ list)
    (member'' : z ∈ list) (tied : order x y = .eq) (tied' : order x z = .eq) : order y z = .eq :=
  have := iff_transCmp.mp orders
  @Std.TransCmp.eq_trans _ (among order list) _ ⟨y, member'⟩ ⟨x, member⟩ ⟨z, member''⟩
    (Std.OrientedCmp.eq_symm tied) tied'

/-- An order of the elements of a list says which of them may come before others, and which have
to. -/
theorem ranking (orders : OrdersAmong order list) :
    Ranking (fun x y => x ∈ list ∧ y ∈ list ∧ order x y ≠ .gt)
      (fun x y => x ∈ list ∧ y ∈ list ∧ order x y = .lt) where
  weak_of_strong := by
    rintro x y ⟨member, member', less⟩
    refine ⟨member, member', ?_⟩
    rw [less]
    exact Ordering.noConfusion
  weak_trans := by
    rintro x y z ⟨member, member', before⟩ ⟨-, member'', after⟩
    exact ⟨member, member'', orders.trans x member y member' z member'' before after⟩
  strong_of_strong_of_weak := by
    rintro x y z ⟨member, member', before⟩ ⟨-, member'', after⟩
    have := iff_transCmp.mp orders
    exact ⟨member, member'', @Std.TransCmp.lt_of_lt_of_le _ (among order list) _ ⟨x, member⟩
      ⟨y, member'⟩ ⟨z, member''⟩ before after⟩
  strong_of_weak_of_strong := by
    rintro x y z ⟨member, member', before⟩ ⟨-, member'', after⟩
    have := iff_transCmp.mp orders
    exact ⟨member, member'', @Std.TransCmp.lt_of_le_of_lt _ (among order list) _ ⟨x, member⟩
      ⟨y, member'⟩ ⟨z, member''⟩ before after⟩

/-- Asking whether an element is below another one agrees with the order. -/
theorem agrees (orders : OrdersAmong order list) :
    Agrees (fun x y => order x y == .lt) (· ∈ list)
      (fun x y => x ∈ list ∧ y ∈ list ∧ order x y ≠ .gt)
      (fun x y => x ∈ list ∧ y ∈ list ∧ order x y = .lt) where
  strong_of_below member member' less := ⟨member, member', beq_iff_eq.mp less⟩
  weak_of_not_below := by
    intro x y member member' stays
    refine ⟨member', member, ?_⟩
    intro above
    rw [orders.swap y member' x member, above] at stays
    cases stays

end OrdersAmong

/-- **Stable sorting.** If a comparison is an order of the elements of a list, sorting gives the
stable order of the list. -/
theorem sort_isStableOrder (orders : OrdersAmong order list) :
    IsStableOrder order list (sort (fun x y => order x y == .lt) list) := by
  have arranges := sort_arranges orders.ranking orders.agrees fun x member => member
  refine ⟨arranges.perm, arranges.pairwise.imp fun may => may.2.2, ?_⟩
  intro x member
  refine arranges.filter_eq _ ?_
  rintro y z tied tied' ⟨member', member'', less⟩
  rw [beq_iff_eq] at tied tied'
  rw [orders.eq_of_eq_of_eq member member' member'' tied tied'] at less
  cases less

namespace IsStableOrder

/-- Two lists of the same elements that are in order and agree on ties are the same. -/
theorem eq_of_ties (orders : OrdersAmong order result) (same : result.Perm result')
    (ascending : result.Pairwise fun x y => order x y ≠ .gt)
    (ascending' : result'.Pairwise fun x y => order x y ≠ .gt)
    (ties : ∀ x ∈ result,
      (result.filter fun y => order x y == .eq) = result'.filter fun y => order x y == .eq) :
    result = result' := by
  induction result generalizing result' with
  | nil => exact same.nil_eq
  | cons x rest ih =>
      rcases result' with _ | ⟨y, rest'⟩
      · exact (List.cons_ne_nil _ _ same.eq_nil).elim
      have first : x ∈ x :: rest := List.mem_cons_self
      have second : y ∈ x :: rest := same.mem_iff.mpr List.mem_cons_self
      have reflexive := orders.self_eq first
      -- Each head stands somewhere behind the other, so that the ties of the first list's head begin
      -- with the heads of both lists.
      have tied : order x y = .eq := by
        cases between : order x y with
        | eq => rfl
        | gt =>
            rcases List.mem_cons.mp second with rfl | later
            · rw [reflexive] at between
              cases between
            · exact (List.rel_of_pairwise_cons ascending later between).elim
        | lt =>
            have above : order y x = .gt := by
              rw [orders.swap x first y second, between]
              rfl
            rcases List.mem_cons.mp (same.mem_iff.mp first) with rfl | later
            · rw [reflexive] at between
              cases between
            · exact (List.rel_of_pairwise_cons ascending' later above).elim
      have heads := ties x first
      simp only [List.filter_cons, reflexive, tied, BEq.rfl, if_true, List.cons.injEq] at heads
      obtain ⟨rfl, -⟩ := heads
      have later : rest ⊆ x :: rest := List.subset_cons_self x rest
      congr 1
      refine ih (orders.subset later) same.cons_inv ascending.of_cons ascending'.of_cons ?_
      intro z member
      have both := ties z (later member)
      rw [List.filter_cons, List.filter_cons] at both
      split at both
      · exact (List.cons.inj both).2
      · exact both

/-- A list has one stable order. -/
theorem unique (orders : OrdersAmong order source) (stable : IsStableOrder order source result)
    (stable' : IsStableOrder order source result') : result = result' := by
  refine eq_of_ties (orders.subset stable.perm.subset) (stable.perm.trans stable'.perm.symm)
    stable.ascending stable'.ascending ?_
  intro x member
  have inside := stable.perm.mem_iff.mp member
  rw [stable.ties x inside, stable'.ties x inside]

/-- Elements may be left out before or after a list is put in order. -/
theorem filter (stable : IsStableOrder order source result) (p : α → Bool) :
    IsStableOrder order (source.filter p) (result.filter p) where
  perm := stable.perm.filter p
  ascending := stable.ascending.filter p
  ties := by
    intro x member
    rw [List.filter_filter, List.filter_filter]
    simp only [Bool.and_comm _ (p _)]
    rw [← List.filter_filter, ← List.filter_filter, stable.ties x (List.mem_filter.mp member).1]

/-- Elements may be changed before or after a list is put in order, if the order does not see it. -/
theorem map {f : β → α} {source result : List β}
    (stable : IsStableOrder (fun a b => order (f a) (f b)) source result) :
    IsStableOrder order (source.map f) (result.map f) where
  perm := stable.perm.map f
  ascending := List.pairwise_map.mpr stable.ascending
  ties := by
    intro x member
    obtain ⟨a, inside, rfl⟩ := List.mem_map.mp member
    rw [List.filter_map, List.filter_map]
    exact congrArg (List.map f) (stable.ties a inside)

/-- Orders that agree on the elements of a list have the same stable order of it. -/
theorem congr {order' : α → α → Ordering}
    (same : ∀ x ∈ source, ∀ y ∈ source, order x y = order' x y)
    (stable : IsStableOrder order source result) : IsStableOrder order' source result where
  perm := stable.perm
  ascending := by
    refine stable.ascending.imp_of_mem ?_
    intro x y member member' before
    rwa [← same x (stable.perm.mem_iff.mp member) y (stable.perm.mem_iff.mp member')]
  ties := by
    intro x member
    have ties := stable.ties x member
    have tests : ∀ {list : List α}, (∀ y ∈ list, y ∈ source) →
        (list.filter fun y => order' x y == .eq) = list.filter fun y => order x y == .eq := by
      intro list part
      refine List.filter_congr ?_
      intro y member'
      rw [same x member y (part y member')]
    rw [tests fun y => stable.perm.mem_iff.mp, tests fun y inside => inside, ties]

/-- A list in order is its own stable order. -/
theorem of_ascending (ascending : source.Pairwise fun x y => order x y ≠ .gt) :
    IsStableOrder order source source :=
  ⟨.refl source, ascending, fun _ _ => rfl⟩

/-- Without an order a list is its own stable order. -/
theorem of_tied (tied : ∀ x ∈ source, ∀ y ∈ source, order x y = .eq) :
    IsStableOrder order source source := by
  refine of_ascending (List.pairwise_of_forall_mem_list ?_)
  intro x member y member'
  rw [tied x member y member']
  exact Ordering.noConfusion

end IsStableOrder

end StableOrders

end Sorting

end TableSearch
