import TableSearch.Proofs.Search.Plain
import TableSearch.Table.Filter

/-! # The match cache is transparent

`TableSearch.CacheStep.apply_run_eq`: after any steps on a match cache, among them filterings that
fail, a filtering that uses the cache answers as one that starts without it.

The invariant (`TableSearch.MatchCache.Sound`) ties every row in the cache to the columns of the
cache: what is stored in it is what an evaluation for the stored texts and the stored control gives.
Every operation keeps it, and under it the evaluation of a row does not depend on the cache
(`TableSearch.Table.evaluateRow_eq`).
-/

namespace TableSearch

variable {κ ρ : Type} {env : Environment} {heads : List ColumnHead}

/-! ## Rows -/

namespace FilteredRow

variable {row : FilteredRow ρ} {value other : ρ} {texts : List Text} {control : Control}

/-- Whether what is stored in a row is what an evaluation gives for the stored texts and control. -/
def Sound (env : Environment) (heads : List ColumnHead) (row : FilteredRow ρ) : Prop :=
  ∀ texts control, row.evaluated = some (texts, control) →
    evaluate env row.value heads texts control = .ok row

theorem fresh_sound {columns : Nat} : (fresh value columns).Sound env heads := by
  intro texts control evaluated
  cases evaluated

/-- The value of a row takes no part in its evaluation. -/
theorem evaluate_value (answer : evaluate env value heads texts control = .ok row) :
    evaluate env other heads texts control = .ok { row with value := other } := by
  rw [evaluate] at answer ⊢
  by_cases search : control.isSearch = true
  · rw [if_pos search] at answer ⊢
    cases found : control.findRow env heads texts with
    | error problem =>
        rw [found] at answer
        cases answer
    | ok spans =>
        rw [found] at answer
        cases answer
        rfl
  · rw [if_neg search] at answer ⊢
    cases answer
    rfl

theorem evaluate_plain :
    evaluate env value heads texts control.plain = evaluate env value heads texts control := by
  rw [evaluate, Control.isSearch_plain, Control.findRow_plain, Control.plain_plain, evaluate]

/-- An evaluation keeps the value and stores what was evaluated. -/
theorem evaluate_stores (answer : evaluate env value heads texts control = .ok row) :
    row.value = value ∧ row.evaluated = some (texts, control.plain) := by
  rw [evaluate] at answer
  by_cases search : control.isSearch = true
  · rw [if_pos search] at answer
    cases found : control.findRow env heads texts with
    | error problem =>
        rw [found] at answer
        cases answer
    | ok spans =>
        rw [found] at answer
        cases answer
        exact ⟨rfl, rfl⟩
  · rw [if_neg search] at answer
    cases answer
    exact ⟨rfl, rfl⟩

/-- What an evaluation stores in a row is what it gives. -/
theorem evaluate_sound (answer : evaluate env value heads texts control = .ok row) :
    row.Sound env heads := by
  obtain ⟨same, stored⟩ := evaluate_stores answer
  intro texts' control' evaluated
  rw [stored] at evaluated
  cases evaluated
  rw [evaluate_plain, same]
  exact answer

theorem Sound.withValue (sound : row.Sound env heads) :
    Sound env heads { row with value := other } := by
  intro texts control evaluated
  exact evaluate_value (sound texts control evaluated)

/-- A row that is current is what its evaluation gives. -/
theorem Sound.evaluate_eq (sound : row.Sound env heads)
    (current : row.isCurrent texts control = true) :
    evaluate env row.value heads texts control = .ok row := by
  rw [← evaluate_plain]
  exact sound texts control.plain (of_decide_eq_true current)

/-- Two rows with the same value and equally many columns are updated alike. -/
theorem update_congr {row other : FilteredRow ρ} (same : row.value = other.value)
    (fits : row.found.length = other.found.length) :
    row.update env heads texts control = other.update env heads texts control := by
  rw [update, update, same, fits]

end FilteredRow

/-! ## The cache -/

namespace MatchCache

variable [DecidableEq κ] {cache : MatchCache κ ρ} {key : κ} {row : FilteredRow ρ} {value : ρ}
  {columns : Nat}

/-- Whether every row in a cache is sound for the columns of the cache. -/
def Sound (env : Environment) (cache : MatchCache κ ρ) : Prop :=
  ∀ heads, cache.heads = some heads → ∀ entry ∈ cache.entries, entry.2.Sound env heads

omit [DecidableEq κ] in
theorem empty_sound : (empty : MatchCache κ ρ).Sound env := by
  intro heads known
  cases known

theorem mem_of_get? (present : cache.get? key = some row) : (key, row) ∈ cache.entries := by
  rw [get?, List.lookup_eq_some_iff] at present
  obtain ⟨before, after, split, -⟩ := present
  rw [split]
  exact List.mem_append_right _ List.mem_cons_self

@[simp] theorem heads_put : (cache.put key row).heads = cache.heads := by
  unfold put
  split <;> rfl

/-- Every row of a cache was there before or has just been put in. -/
theorem mem_put {entry : κ × FilteredRow ρ} (member : entry ∈ (cache.put key row).entries) :
    entry ∈ cache.entries ∨ entry = (key, row) := by
  unfold put at member
  split at member
  · obtain ⟨before, present, same⟩ := List.mem_map.mp member
    split at same
    · exact .inr same.symm
    · rw [← same]
      exact .inl present
  · rcases List.mem_append.mp member with present | added
    · exact .inl present
    · exact .inr (List.mem_singleton.mp added)

/-- A cache stays sound when a sound row is stored. -/
theorem Sound.put (sound : cache.Sound env)
    (added : ∀ heads, cache.heads = some heads → row.Sound env heads) :
    (cache.put key row).Sound env := by
  intro heads known entry member
  rw [heads_put] at known
  rcases mem_put member with present | same
  · exact sound heads known entry present
  · rw [same]
    exact added heads known

theorem Sound.retain (sound : cache.Sound env) (keys : List κ) : (cache.retain keys).Sound env := by
  intro heads known entry member
  exact sound heads known entry (List.mem_filter.mp member).1

omit [DecidableEq κ] in
/-- Rows of other columns are forgotten, so that nothing has to be known about them. -/
theorem Sound.syncColumns (sound : cache.Sound env) (heads : List ColumnHead) :
    (cache.syncColumns heads).Sound env := by
  unfold MatchCache.syncColumns
  split
  · exact sound
  · intro _ _ entry member
    obtain ⟨before, -, same⟩ := List.mem_map.mp member
    rw [← same]
    exact FilteredRow.fresh_sound

omit [DecidableEq κ] in
theorem heads_syncColumns : (cache.syncColumns heads).heads = some heads := by
  unfold syncColumns
  split
  · assumption
  · rfl

/-- The entry of a sound cache for a key is sound, even if it is a new one. -/
theorem Sound.entry (sound : cache.Sound env) (known : cache.heads = some heads) (key : κ)
    (value : ρ) (columns : Nat) :
    (cache.entry key value columns).Sound env heads := by
  unfold MatchCache.entry
  split
  · exact FilteredRow.fresh_sound
  · rename_i row present
    split
    · exact (sound heads known _ (mem_of_get? present)).withValue
    · exact FilteredRow.fresh_sound

@[simp] theorem value_entry : (cache.entry key value columns).value = value := by
  unfold entry
  split
  · rfl
  · split <;> rfl

/-- The entry of a cache for a key has spans for each of the columns. -/
@[simp] theorem length_found_entry : (cache.entry key value columns).found.length = columns := by
  unfold entry
  split
  · exact List.length_replicate
  · split
    · assumption
    · exact List.length_replicate

end MatchCache

/-! ## Filtering -/

namespace Table

variable {columns : List (Column ρ)} {control : Control} {value : ρ}

/-- A row has a text for each of the columns. -/
theorem length_renderAll {texts : List Text} (answer : Column.renderAll columns value = .ok texts) :
    texts.length = columns.length := by
  unfold Column.renderAll at answer
  induction columns generalizing texts with
  | nil =>
      rw [List.mapM_nil] at answer
      cases answer
      rfl
  | cons column rest ih =>
      rw [List.mapM_cons] at answer
      cases first : column.render value with
      | error problem =>
          rw [first] at answer
          cases answer
      | ok text =>
          cases later : rest.mapM fun column => column.render value with
          | error problem =>
              rw [first, later] at answer
              cases answer
          | ok texts =>
              rw [first, later] at answer
              cases answer
              rw [List.length_cons, ih later, List.length_cons]

/-- One row evaluated without a cache. -/
def evaluateFresh (env : Environment) (columns : List (Column ρ)) (control : Control) (value : ρ) :
    Except TableError (FilteredRow ρ) := do
  let texts ← Column.renderAll columns value
  (FilteredRow.fresh value columns.length).update env (Column.heads columns) texts control

variable [DecidableEq κ]

/-- The rows of a table that pass the filter, in the order they come in, and the keys of all rows,
without a cache. -/
def select (env : Environment) (columns : List (Column ρ)) (control : Control) (key : KeyReader κ ρ)
    (keys : List κ) (place : Nat) : List ρ → Except TableError (List (FilteredRow ρ) × List κ)
  | [] => .ok ([], keys)
  | value :: rest =>
    match key place value with
    | .error problem => .error problem
    | .ok rowKey =>
      if rowKey.identity ∈ keys then .error (.duplicateKey rowKey.shown)
      else
        match evaluateFresh env columns control value with
        | .error problem => .error problem
        | .ok row =>
          match select env columns control key (rowKey.identity :: keys) (place + 1) rest with
          | .error problem => .error problem
          | .ok (kept, keys) => .ok (if row.hasMatch then row :: kept else kept, keys)

/-- A cache that has been set up for the columns of a table. -/
structure Ready (env : Environment) (columns : List (Column ρ)) (cache : MatchCache κ ρ) :
    Prop where
  sound : cache.Sound env
  heads_eq : cache.heads = some (Column.heads columns)

variable {key : κ} {cache : MatchCache κ ρ}

omit [DecidableEq κ] in
theorem ready_syncColumns (sound : cache.Sound env) (columns : List (Column ρ)) :
    Ready env columns (cache.syncColumns (Column.heads columns)) :=
  ⟨sound.syncColumns _, MatchCache.heads_syncColumns⟩

/-- A cache stays ready when a sound row is stored. -/
theorem Ready.put {row : FilteredRow ρ} (ready : Ready env columns cache) (key : κ)
    (added : row.Sound env (Column.heads columns)) : Ready env columns (cache.put key row) := by
  refine ⟨ready.sound.put ?_, ?_⟩
  · intro heads known
    rw [ready.heads_eq] at known
    cases known
    exact added
  · rw [MatchCache.heads_put, ready.heads_eq]

/-- The texts of a row evaluated with the entry for it give what the entry already holds, or what
they give without a cache. -/
theorem evaluateEntry_eq {texts : List Text} (ready : Ready env columns cache) (key : κ)
    (control : Control) (rendered : Column.renderAll columns value = .ok texts) :
    (if (cache.entry key value columns.length).isCurrent texts control then
        .ok (cache.entry key value columns.length)
      else
        (cache.entry key value columns.length).update env (Column.heads columns) texts control) =
      (FilteredRow.fresh value columns.length).update env (Column.heads columns) texts control := by
  have sound := ready.sound.entry ready.heads_eq key value columns.length
  split
  · rename_i current
    have fits := length_renderAll rendered
    have answer := sound.evaluate_eq current
    rw [MatchCache.value_entry] at answer
    rw [FilteredRow.update, if_neg, FilteredRow.fresh, answer]
    · rfl
    · rw [fits]
      exact not_not_intro List.length_replicate.symm
  · refine FilteredRow.update_congr MatchCache.value_entry ?_
    rw [MatchCache.length_found_entry]
    exact List.length_replicate.symm

/-- A row that has been evaluated without a cache is sound. -/
theorem evaluateFresh_sound {row : FilteredRow ρ}
    (answer : evaluateFresh env columns control value = .ok row) :
    row.Sound env (Column.heads columns) := by
  rw [evaluateFresh] at answer
  cases rendered : Column.renderAll columns value with
  | error problem =>
      rw [rendered] at answer
      cases answer
  | ok texts =>
      rw [rendered] at answer
      simp only [bind, Except.bind, FilteredRow.update] at answer
      split at answer
      · cases answer
      · cases evaluated : FilteredRow.evaluate env (FilteredRow.fresh value columns.length).value
          (Column.heads columns) texts control with
        | error problem =>
            rw [evaluated] at answer
            cases answer
        | ok result =>
            rw [evaluated] at answer
            cases answer
            exact FilteredRow.evaluate_sound evaluated

/-- **One row.** The evaluation of a row does not depend on the cache. -/
theorem evaluateRow_eq (ready : Ready env columns cache) (key : κ) (control : Control)
    (value : ρ) :
    (evaluateRow env columns control key value cache).1 =
      evaluateFresh env columns control value := by
  rw [evaluateRow, evaluateFresh]
  cases rendered : Column.renderAll columns value with
  | error problem => rfl
  | ok texts =>
      have same := evaluateEntry_eq ready key control rendered
      simp only [bind, Except.bind, pure, Except.pure, same]
      cases (FilteredRow.fresh value columns.length).update env (Column.heads columns) texts
        control <;> rfl

/-- The evaluation of a row leaves the cache ready, whether it fails or not. -/
theorem evaluateRow_ready (ready : Ready env columns cache) (key : κ) (control : Control)
    (value : ρ) :
    Ready env columns (evaluateRow env columns control key value cache).2 := by
  have answered := evaluateRow_eq ready key control value
  have stays := ready.put key (ready.sound.entry ready.heads_eq key value columns.length)
  rw [evaluateRow] at answered ⊢
  split
  · rename_i row evaluated
    rw [evaluated] at answered
    exact ready.put key (evaluateFresh_sound answered.symm)
  · exact stays

/-- **All rows.** The rows that pass the filter do not depend on the cache. -/
theorem filterRows_eq (ready : Ready env columns cache) (control : Control)
    (key : KeyReader κ ρ) (keys : List κ) (place : Nat) (rows : List ρ) :
    (filterRows env columns control key cache keys place rows).1 =
        select env columns control key keys place rows ∧
      Ready env columns (filterRows env columns control key cache keys place rows).2 := by
  induction rows generalizing cache keys place with
  | nil => exact ⟨rfl, ready⟩
  | cons value rest ih =>
      rw [filterRows, select]
      cases keyed : key place value with
      | error problem => exact ⟨rfl, ready⟩
      | ok rowKey =>
          by_cases double : rowKey.identity ∈ keys
          · simp only [if_pos double]
            exact ⟨trivial, ready⟩
          · simp only [if_neg double]
            have first := evaluateRow_eq ready rowKey.identity control value
            have onward := evaluateRow_ready ready rowKey.identity control value
            rcases evaluated : evaluateRow env columns control rowKey.identity value cache with
              ⟨answer, renewed⟩
            rw [evaluated] at first onward
            simp only at first onward
            rw [← first]
            cases answer with
            | error problem => exact ⟨rfl, onward⟩
            | ok row =>
                obtain ⟨later, last⟩ := ih onward (rowKey.identity :: keys) (place + 1)
                rcases remaining : filterRows env columns control key renewed
                  (rowKey.identity :: keys) (place + 1) rest with ⟨answers, final⟩
                rw [remaining] at later last
                simp only at later last
                simp only [remaining, ← later]
                cases answers with
                | error problem => exact ⟨rfl, last⟩
                | ok kept => exact ⟨rfl, last⟩

variable {key : KeyReader κ ρ} {rows : List ρ}

/-- A filtering answers with the selected rows in the order of the control. -/
theorem apply_eq_select (sound : cache.Sound env) :
    (apply env columns control key cache rows).1 =
      (select env columns control key [] 0 rows).map fun (kept, _) =>
        orderRows columns control kept := by
  obtain ⟨same, -⟩ := filterRows_eq (ready_syncColumns sound columns) control key [] 0 rows
  rw [apply, ← same]
  split
  · rename_i answered
    rw [answered]
    rfl
  · rename_i answered
    rw [answered]
    rfl

/-- A filtering keeps the cache sound, even one that fails. -/
theorem apply_sound (sound : cache.Sound env) :
    (apply env columns control key cache rows).2.Sound env := by
  obtain ⟨-, ready⟩ := filterRows_eq (ready_syncColumns sound columns) control key [] 0 rows
  rw [apply]
  split
  · rename_i answered
    rw [answered] at ready
    exact ready.sound
  · rename_i answered
    rw [answered] at ready
    exact ready.sound.retain _

/-- **Tables.** A filtering does not depend on a sound cache. -/
theorem apply_eq_fresh (sound : cache.Sound env) :
    (apply env columns control key cache rows).1 =
      (apply env columns control key .empty rows).1 := by
  rw [apply_eq_select sound, apply_eq_select MatchCache.empty_sound]

end Table

/-! ## Steps on a cache -/

/-- An operation on a match cache. -/
inductive CacheStep (κ ρ : Type) where
  /-- A table is filtered with the cache. -/
  | apply (columns : List (Column ρ)) (control : Control) (key : KeyReader κ ρ) (rows : List ρ)
  /-- The cache is set up for columns. -/
  | syncColumns (heads : List ColumnHead)
  /-- The entry for a row is looked up, and made if it is not there. -/
  | entry (key : κ) (value : ρ) (columns : Nat)
  /-- Only the rows with the given identities stay. -/
  | retain (keys : List κ)
  /-- Everything is forgotten. -/
  | clear

namespace CacheStep

variable [DecidableEq κ]

/-- The cache after an operation. -/
def perform (env : Environment) (cache : MatchCache κ ρ) : CacheStep κ ρ → MatchCache κ ρ
  | apply columns control key rows => (Table.apply env columns control key cache rows).2
  | syncColumns heads => cache.syncColumns heads
  | entry key value columns => cache.put key (cache.entry key value columns)
  | retain keys => cache.retain keys
  | clear => .empty

/-- The cache after several operations on a new one. -/
def run (env : Environment) (steps : List (CacheStep κ ρ)) : MatchCache κ ρ :=
  steps.foldl (perform env) .empty

variable {cache : MatchCache κ ρ}

/-- Every operation keeps a cache sound. -/
theorem perform_sound (sound : cache.Sound env) (step : CacheStep κ ρ) :
    (step.perform env cache).Sound env := by
  cases step with
  | apply columns control key rows => exact Table.apply_sound sound
  | syncColumns heads => exact sound.syncColumns heads
  | entry key value columns =>
      refine sound.put ?_
      intro heads known
      exact sound.entry known key value columns
  | retain keys => exact sound.retain keys
  | clear => exact MatchCache.empty_sound

/-- A cache stays sound under any operations. -/
theorem foldl_perform_sound (sound : cache.Sound env) (steps : List (CacheStep κ ρ)) :
    (steps.foldl (perform env) cache).Sound env := by
  induction steps generalizing cache with
  | nil => exact sound
  | cons step rest ih =>
      rw [List.foldl_cons]
      exact ih (perform_sound sound step)

/-- **Transparency.** After any operations on a cache, a filtering with it gives the same rows with
the same spans in the same order, or the same failure, as a filtering with a new cache. -/
theorem apply_run_eq (env : Environment) (steps : List (CacheStep κ ρ))
    (columns : List (Column ρ)) (control : Control) (key : KeyReader κ ρ) (rows : List ρ) :
    (Table.apply env columns control key (run env steps) rows).1 =
      (Table.apply env columns control key .empty rows).1 :=
  Table.apply_eq_fresh (foldl_perform_sound MatchCache.empty_sound steps)

end CacheStep

end TableSearch
