import TableSearch.Proofs.Number.Order
import TableSearch.Search.Term

/-! # Date ranges

The two bounds of a date range may be of different precision, and each of them is compared at its own.
For an instant that sets the fields of both bounds this is the order of truncated dates: what it sets
is cut down to the fields of a bound and compared with them, the most significant field first
(`TableSearch.Instant.order_eq_compare`).  Truncation keeps the order of dates, so a range accepts an
interval of them (`TableSearch.Term.isBetween_interval`).
-/

namespace TableSearch

/-- Lists keep their order when they are cut at the same place. -/
theorem compare_take_isLE {α : Type} [Ord α] [Std.ReflOrd α] {l m : List α}
    (le : (compare l m).isLE = true) (count : Nat) :
    (compare (l.take count) (m.take count)).isLE = true := by
  induction count generalizing l m with
  | zero => rfl
  | succ count ih =>
      cases l with
      | nil => cases m <;> rfl
      | cons a l =>
          cases m with
          | nil => cases le
          | cons b m =>
              rw [List.compare_cons_cons, Ordering.isLE_then_iff_or] at le
              rw [List.take_succ_cons, List.take_succ_cons, List.compare_cons_cons,
                Ordering.isLE_then_iff_or]
              exact le.imp_right fun ⟨same, le⟩ => ⟨same, ih le⟩

/-- Taking elements and then their images is taking the images, if each of the elements has one. -/
theorem filterMap_take {α β : Type} {f : α → Option β} {l : List α}
    (all : ∀ a ∈ l, (f a).isSome = true) (count : Nat) :
    (l.take count).filterMap f = (l.filterMap f).take count := by
  induction count generalizing l with
  | zero => rfl
  | succ count ih =>
      cases l with
      | nil => rfl
      | cons a l =>
          rw [List.forall_mem_cons] at all
          obtain ⟨b, value⟩ := Option.isSome_iff_exists.mp all.1
          rw [List.take_succ_cons, List.filterMap_cons_some value, List.filterMap_cons_some value,
            List.take_succ_cons, ih all.2]

namespace Instant

variable {mine theirs time : Instant} {fields : List DateField} {count : Nat}

/-- The place of a whole number among the places of doubles. -/
def wholeKey (n : Int) : ℕ ×ₗ ℚ :=
  toLex (1, n)

/-- The place of the value of a field in the order of values, if the field is set. -/
def key? (time : Instant) : DateField → Option (ℕ ×ₗ ℚ)
  | .year => time.year.map wholeKey
  | .month => time.month.map wholeKey
  | .day => time.day.map wholeKey
  | .hour => time.hour.map wholeKey
  | .minute => time.minute.map wholeKey
  | .second => time.second.map Double.key

/-- The values of an instant that is cut down to its most significant fields. -/
def truncate (time : Instant) (count : Nat) : List (ℕ ×ₗ ℚ) :=
  (DateField.all.take count).filterMap time.key?

/-- The fields that an instant specifies are the given number of most significant ones, and there are
some. -/
structure Specifies (time : Instant) (count : Nat) : Prop where
  filled : 0 < count
  fields : time.fields = DateField.all.take count

/-- Whether an instant sets the given number of most significant fields, with a number of seconds. -/
structure Reaches (time : Instant) (count : Nat) : Prop where
  sets : ∀ field ∈ DateField.all.take count, time.has field = true
  number : ∀ second ∈ time.second, second.isNaN = false

/-! ## The order of instants -/

/-- The places of whole numbers are in the order of the numbers. -/
theorem compare_wholeKey (a b : Int) : compare (wholeKey a) (wholeKey b) = compare a b := by
  change (compare 1 1).then (compare (a : ℚ) b) = compare a b
  rw [Std.ReflOrd.compare_self, Ordering.then, ← cmp_eq_compare, ← cmp_eq_compare]
  exact Int.cast_strictMono.cmp_map_eq a b

/-- What is not a number stands above the numbers. -/
theorem secondOrder_eq {a b : Double} (number : b.isNaN = false) :
    secondOrder (some a) (some b) = compare a.key b.key := by
  rw [← Double.order_eq_compare_key]
  cases known : a.isNaN with
  | false =>
      rw [secondOrder, Double.order?_eq_some known number]
      rfl
  | true =>
      cases a with
      | nan =>
          cases b with
          | nan => cases number
          | infinite | finite => rfl
      | infinite | finite => cases known

/-- Two whole fields that are set are in the order of their places. -/
theorem wholeOrder_eq {mine theirs : Option Int} (set : mine.isSome = true)
    (set' : theirs.isSome = true) : ∃ a b, mine.map wholeKey = some a ∧
      theirs.map wholeKey = some b ∧ wholeOrder mine theirs = compare a b := by
  obtain ⟨a, rfl⟩ := Option.isSome_iff_exists.mp set
  obtain ⟨b, rfl⟩ := Option.isSome_iff_exists.mp set'
  exact ⟨_, _, rfl, rfl, (compare_wholeKey a b).symm⟩

/-- Two instants are in the order of their places in a field that both of them set, if the seconds
are no NaN. -/
theorem orderIn_eq {field : DateField} (number : ∀ second ∈ theirs.second, second.isNaN = false)
    (set : mine.has field = true) (set' : theirs.has field = true) :
    ∃ a b, mine.key? field = some a ∧ theirs.key? field = some b ∧
      orderIn mine theirs field = compare a b := by
  cases field with
  | year | month | day | hour | minute => exact wholeOrder_eq set set'
  | second =>
      obtain ⟨a, mine⟩ := Option.isSome_iff_exists.mp set
      obtain ⟨b, theirs⟩ := Option.isSome_iff_exists.mp set'
      refine ⟨a.key, b.key, congrArg (Option.map Double.key) mine,
        congrArg (Option.map Double.key) theirs, ?_⟩
      rw [orderIn, mine, theirs, secondOrder_eq (number b theirs)]

/-- Over fields that both of them set, two instants are in the lexicographic order of their
places. -/
theorem orderOver_eq (number : ∀ second ∈ theirs.second, second.isNaN = false)
    (sets : ∀ field ∈ fields, mine.has field = true)
    (sets' : ∀ field ∈ fields, theirs.has field = true) :
    orderOver mine theirs fields =
      compare (fields.filterMap mine.key?) (fields.filterMap theirs.key?) := by
  induction fields with
  | nil => rfl
  | cons field rest ih =>
      rw [List.forall_mem_cons] at sets sets'
      obtain ⟨a, b, value, value', same⟩ := orderIn_eq number sets.1 sets'.1
      rw [orderOver, if_pos sets'.1, same, ih sets.2 sets'.2, List.filterMap_cons_some value,
        List.filterMap_cons_some value', List.compare_cons_cons]

/-- An instant is compared with another one that sets its fields as truncated dates are. -/
theorem order_eq_compare (specifies : mine.Specifies count) (reaches : theirs.Reaches count) :
    mine.order theirs = compare (mine.truncate count) (theirs.truncate count) := by
  have sets : ∀ field ∈ DateField.all.take count, mine.has field = true := by
    intro field member
    rw [← specifies.fields] at member
    exact (List.mem_filter.mp member).2
  rw [order, specifies.fields, orderOver_eq reaches.number sets reaches.sets]
  rfl

/-- An instant that sets the fields that a bound specifies can be compared with it. -/
theorem isComparable_of_reaches (specifies : mine.Specifies count)
    (reaches : theirs.Reaches count) : mine.isComparable theirs = true := by
  have filled : DateField.all.take count ≠ [] := by
    rw [Ne, List.take_eq_nil_iff, not_or]
    exact ⟨Nat.ne_of_gt specifies.filled, List.cons_ne_nil _ _⟩
  rw [isComparable, specifies.fields, Bool.and_eq_true, Bool.not_eq_true',
    List.isEmpty_eq_false_iff, List.all_eq_true]
  exact ⟨filled, reaches.sets⟩

/-! ## Truncation -/

theorem Reaches.mono {fewer : Nat} (reaches : time.Reaches count) (le : fewer ≤ count) :
    time.Reaches fewer where
  sets := fun field member => reaches.sets field
    ((List.take_sublist_take_left le).subset member)
  number := reaches.number

/-- A field has a place exactly when it is set. -/
theorem isSome_key? (field : DateField) : (time.key? field).isSome = time.has field := by
  cases field <;> exact Option.isSome_map

/-- A date cut down to fewer fields. -/
theorem Reaches.truncate_eq_take {fewer : Nat} (reaches : time.Reaches count) (le : fewer ≤ count) :
    time.truncate fewer = (time.truncate count).take fewer := by
  have all : ∀ field ∈ DateField.all.take count, (time.key? field).isSome = true := by
    intro field member
    rw [isSome_key?, reaches.sets field member]
  rw [truncate, truncate, ← filterMap_take all, List.take_take, min_eq_left le]

end Instant

namespace Term

open Instant

variable {low high : Instant} {fewest most count : Nat}

/-- An instant that sets the fields of both bounds is accepted exactly if it is not before the lower
one and not behind the upper one, each at the precision of that bound. -/
theorem isBetween_iff (lowest : low.Specifies fewest) (highest : high.Specifies most)
    {time : Instant} (reaches : time.Reaches fewest) (reaches' : time.Reaches most) :
    isBetween low high time = true ↔
      (compare (low.truncate fewest) (time.truncate fewest)).isLE = true ∧
        (compare (time.truncate most) (high.truncate most)).isLE = true := by
  rw [isBetween, isComparable_of_reaches lowest reaches, isComparable_of_reaches highest reaches',
    order_eq_compare lowest reaches, order_eq_compare highest reaches', Bool.true_and, Bool.true_and,
    Bool.and_eq_true, Std.OrientedOrd.eq_swap (a := time.truncate most)]
  refine and_congr ?_ ?_
  · cases compare (low.truncate fewest) (time.truncate fewest) <;> decide
  · cases compare (high.truncate most) (time.truncate most) <;> decide

/-- **Date ranges.** A range takes in a date exactly if the date, cut down to the fields of a bound, is
not before the lower and not behind the upper one.  With two dates it takes in every date between
them. -/
theorem isBetween_interval (lowest : low.Specifies fewest) (highest : high.Specifies most)
    (deep : fewest ≤ count) (deep' : most ≤ count) :
    (∀ time : Instant, time.Reaches count →
      (isBetween low high time = true ↔
        (compare (low.truncate fewest) (time.truncate fewest)).isLE = true ∧
          (compare (time.truncate most) (high.truncate most)).isLE = true)) ∧
    ∀ first second third : Instant,
      first.Reaches count → second.Reaches count → third.Reaches count →
      (compare (first.truncate count) (second.truncate count)).isLE = true →
      (compare (second.truncate count) (third.truncate count)).isLE = true →
      isBetween low high first = true → isBetween low high third = true →
      isBetween low high second = true := by
  have accepts : ∀ time : Instant, time.Reaches count →
      (isBetween low high time = true ↔
        (compare (low.truncate fewest) (time.truncate fewest)).isLE = true ∧
          (compare (time.truncate most) (high.truncate most)).isLE = true) :=
    fun time reaches => isBetween_iff lowest highest (reaches.mono deep) (reaches.mono deep')
  refine ⟨accepts, ?_⟩
  intro first second third reaches reaches' reaches'' before before' inside inside'
  have above := ((accepts first reaches).mp inside).1
  have below := ((accepts third reaches'').mp inside').2
  have later := compare_take_isLE before fewest
  have earlier := compare_take_isLE before' most
  rw [← reaches.truncate_eq_take deep, ← reaches'.truncate_eq_take deep] at later
  rw [← reaches'.truncate_eq_take deep', ← reaches''.truncate_eq_take deep'] at earlier
  exact (accepts second reaches').mpr
    ⟨Std.TransOrd.isLE_trans above later, Std.TransOrd.isLE_trans earlier below⟩

/-- From a month to a day: the range takes in the first and the last of these dates, so it takes in the
one between them, and it leaves out the day after the last. -/
theorem isBetween_interval_of_month_of_day :
    let date (month day : Option Int) : Instant := ⟨[], some 2021, month, day, none, none, none⟩
    let low := date (some 1) none
    let high := date (some 6) (some 15)
    isBetween low high (date (some 3) (some 20)) = true ∧
      isBetween low high (date (some 6) (some 16)) = false := by
  intro date low high
  have lowest : low.Specifies 2 := ⟨by decide, rfl⟩
  have highest : high.Specifies 3 := ⟨by decide, rfl⟩
  have reaches : ∀ month day, (date (some month) (some day)).Reaches 3 :=
    fun _ _ => ⟨List.all_eq_true.mp rfl, nofun⟩
  have atMost : 2 ≤ 3 := by decide
  obtain ⟨accepts, between⟩ := isBetween_interval lowest highest atMost (le_refl 3)
  have first : isBetween low high (date (some 1) (some 1)) = true :=
    (accepts _ (reaches 1 1)).mpr ⟨by decide, by decide⟩
  have third : isBetween low high (date (some 6) (some 15)) = true :=
    (accepts _ (reaches 6 15)).mpr ⟨by decide, by decide⟩
  refine ⟨between _ (date (some 3) (some 20)) _ (reaches 1 1) (reaches 3 20) (reaches 6 15)
    (by decide) (by decide) first third, Bool.eq_false_iff.mpr fun inside => ?_⟩
  exact absurd ((accepts _ (reaches 6 16)).mp inside).2 (by decide)

end Term

end TableSearch
