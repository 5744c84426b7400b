import Mathlib.Data.List.Forall2

/-! # Answers that may be failures

What is known when a computation with several steps has an answer: every step had one.
-/

namespace TableSearch

variable {ε α β : Type}

/-- A step followed by another one has an answer exactly when the first has one from which the
second answers. -/
theorem bind_eq_ok {answer : Except ε α} {next : α → Except ε β} {last : β} :
    (answer >>= next) = .ok last ↔ ∃ value, answer = .ok value ∧ next value = .ok last := by
  cases answer with
  | error problem =>
      constructor
      · intro absent
        cases absent
      · rintro ⟨value, absent, -⟩
        cases absent
  | ok value =>
      constructor
      · intro found
        exact ⟨value, rfl, found⟩
      · rintro ⟨_, ⟨⟩, found⟩
        exact found

/-- A changed answer is the change of an answer. -/
theorem map_eq_ok {answer : Except ε α} {f : α → β} {last : β} :
    answer.map f = .ok last ↔ ∃ value, answer = .ok value ∧ f value = last := by
  cases answer with
  | error problem =>
      constructor
      · intro absent
        cases absent
      · rintro ⟨value, absent, -⟩
        cases absent
  | ok value =>
      constructor
      · intro found
        exact ⟨value, rfl, Except.ok.inj found⟩
      · rintro ⟨_, ⟨⟩, rfl⟩
        rfl

/-- Wording a failure differently does not touch the answers. -/
theorem mapError_eq_ok {ε' : Type} {answer : Except ε α} {f : ε → ε'} {last : α} :
    answer.mapError f = .ok last ↔ answer = .ok last := by
  cases answer with
  | error problem =>
      constructor
      · intro absent
        cases absent
      · intro absent
        cases absent
  | ok value =>
      constructor
      · rintro ⟨⟩
        rfl
      · rintro ⟨⟩
        rfl

/-- The answers for the elements of a list, one for each of them. -/
theorem mapM_eq_ok {f : α → Except ε β} {list : List α} {answers : List β} :
    list.mapM f = .ok answers ↔
      List.Forall₂ (fun element answer => f element = .ok answer) list answers := by
  induction list generalizing answers with
  | nil =>
      rw [List.mapM_nil, List.forall₂_nil_left_iff]
      constructor
      · rintro ⟨⟩
        rfl
      · rintro rfl
        rfl
  | cons first rest ih =>
      rw [List.mapM_cons, bind_eq_ok, List.forall₂_cons_left_iff]
      constructor
      · rintro ⟨answer, known, onward⟩
        obtain ⟨more, later, ⟨⟩⟩ := bind_eq_ok.mp onward
        exact ⟨answer, more, known, ih.mp later, rfl⟩
      · rintro ⟨answer, more, known, later, rfl⟩
        exact ⟨answer, known, bind_eq_ok.mpr ⟨more, ih.mpr later, rfl⟩⟩

/-- If all elements of a list have answers, each has one among them. -/
theorem exists_of_forall₂ {related : α → β → Prop} {list : List α} {answers : List β} {x : α}
    (all : List.Forall₂ related list answers) (member : x ∈ list) :
    ∃ answer ∈ answers, related x answer := by
  induction all with
  | nil => cases member
  | cons holds _ ih =>
      rcases List.mem_cons.mp member with rfl | later
      · exact ⟨_, List.mem_cons_self, holds⟩
      · obtain ⟨answer, inside, holds⟩ := ih later
        exact ⟨answer, List.mem_cons_of_mem _ inside, holds⟩

theorem map_map {γ : Type} {answer : Except ε α} {f : α → β} {g : β → γ} :
    (answer.map f).map g = answer.map fun value => g (f value) := by
  cases answer <;> rfl

theorem map_congr {answer : Except ε α} {f g : α → β}
    (same : ∀ value, answer = .ok value → f value = g value) : answer.map f = answer.map g := by
  cases answer with
  | error problem => rfl
  | ok value => exact congrArg Except.ok (same value rfl)

/-- The answers for the elements of a list can be changed one by one or all together. -/
theorem mapM_map_answers {γ : Type} {f : α → Except ε β} {g : β → γ} {list : List α} :
    (list.mapM f).map (List.map g) = list.mapM fun x => (f x).map g := by
  induction list with
  | nil => rfl
  | cons first rest ih =>
      rw [List.mapM_cons, List.mapM_cons, ← ih]
      cases f first with
      | error problem => rfl
      | ok answer => cases rest.mapM f <;> rfl

/-- Elements that have answers can be left out before or after the traversal of a list. -/
theorem mapM_filter {f : α → Except ε β} {p : α → Bool} {q : β → Bool} {list : List α}
    (kept : ∀ x ∈ list, ∀ answer, f x = .ok answer → q answer = p x)
    (answers : ∀ x ∈ list, p x = false → ∃ answer, f x = .ok answer) :
    (list.mapM f).map (List.filter q) = (list.filter p).mapM f := by
  induction list with
  | nil => rfl
  | cons first rest ih =>
      rw [List.forall_mem_cons] at kept answers
      have later := ih kept.2 answers.2
      cases found : f first with
      | error problem =>
          have stays : p first = true := by
            by_contra left
            obtain ⟨answer, known⟩ := answers.1 ((Bool.not_eq_true _).mp left)
            rw [found] at known
            cases known
          rw [List.filter_cons_of_pos stays, List.mapM_cons, List.mapM_cons, found]
          rfl
      | ok answer =>
          have same := kept.1 answer found
          by_cases stays : p first = true
          · rw [List.filter_cons_of_pos stays, List.mapM_cons, List.mapM_cons, found, ← later]
            cases rest.mapM f with
            | error problem => rfl
            | ok others => exact congrArg Except.ok (List.filter_cons_of_pos (same.trans stays))
          · rw [List.filter_cons_of_neg stays, List.mapM_cons, found, ← later]
            cases rest.mapM f with
            | error problem => rfl
            | ok others => exact congrArg Except.ok (List.filter_cons_of_neg (same ▸ stays))

/-- A change of an answer is an answer as well. -/
theorem exists_map_eq_ok {answer : Except ε α} {f : α → β} :
    (∃ last, answer.map f = .ok last) ↔ ∃ value, answer = .ok value := by
  constructor
  · rintro ⟨last, found⟩
    obtain ⟨value, known, -⟩ := map_eq_ok.mp found
    exact ⟨value, known⟩
  · rintro ⟨value, known⟩
    exact ⟨f value, map_eq_ok.mpr ⟨value, known, rfl⟩⟩

/-- The traversal of a list has an answer exactly if every element of it has one. -/
theorem exists_mapM_eq_ok {f : α → Except ε β} {list : List α} :
    (∃ answers, list.mapM f = .ok answers) ↔ ∀ x ∈ list, ∃ answer, f x = .ok answer := by
  simp only [mapM_eq_ok]
  constructor
  · rintro ⟨answers, all⟩ x member
    obtain ⟨answer, -, known⟩ := exists_of_forall₂ all member
    exact ⟨answer, known⟩
  · intro each
    induction list with
    | nil => exact ⟨[], .nil⟩
    | cons first rest ih =>
        rw [List.forall_mem_cons] at each
        obtain ⟨answer, known⟩ := each.1
        obtain ⟨answers, later⟩ := ih each.2
        exact ⟨answer :: answers, .cons known later⟩

end TableSearch
