import TableSearch.Proofs.Control.Reparse
import TableSearch.Proofs.Search.Verdict

/-! # The order of search terms

`TableSearch.Control.verdict_eq_of_same_terms`: two directives with the same search terms keep the
same rows with the same spans, in whatever order the terms come, however often each of them, and
whatever orderings stand between them.

The reason is that an ordering makes nothing of a row (`TableSearch.Control.isSearch_of_reading?`),
and that more terms only make a directive stricter (`TableSearch.Control.outcome_mono`).
-/

namespace TableSearch

namespace Control

open Text

variable {read : DateReader} {env : Environment} {heads : List ColumnHead} {texts : List Text}
  {token name rest directive directive' : Text} {tokens tokens' : List Text}
  {control control' : Control}

/-- Whether a token orders rows or columns, and so is no search term. -/
def isOrdering (token : Text) : Bool :=
  match indexOf? ':' token with
  | none => false
  | some colon => [rowSortKeyword, columnSortKeyword].contains (token.take colon)

theorem isOrdering_of_plain (plain : indexOf? ':' token = none ∨ indexOf? ':' token = some 0) :
    isOrdering token = false := by
  rcases plain with none | zero
  · rw [isOrdering, none]
  · rw [isOrdering, zero]
    rfl

theorem isOrdering_of_names (names : Names token name rest) :
    isOrdering token = decide (name = rowSortKeyword ∨ name = columnSortKeyword) := by
  rw [isOrdering, names.indexOf?_eq]
  simp [names.take_eq]

/-- What an ordering is read as does not filter. -/
theorem isSearch_of_ordering? {make : List Text → Control}
    (orders : ∀ names, (make names).isSearch = false)
    (found : ordering? make rest = some control) : control.isSearch = false := by
  rw [ordering?, Option.ite_none_left_eq_some, Option.some.injEq] at found
  rw [← found.2, orders]

/-- The control for a token filters exactly if the token is a search term. -/
theorem isSearch_of_reading? (found : reading? read token = some control) :
    control.isSearch = !isOrdering token := by
  rw [reading?_eq_some_iff] at found
  rcases names_or_plain token with ⟨name, rest, names⟩ | plain
  · rw [isOrdering_of_names names]
    by_cases row : name = rowSortKeyword
    · rw [readToken_of_names names, if_pos row, Except.ok.injEq] at found
      rw [isSearch_of_ordering? (fun _ => rfl) found, decide_eq_true (.inl row)]
      rfl
    by_cases column : name = columnSortKeyword
    · rw [readToken_of_names names, if_neg row, if_pos column, Except.ok.injEq] at found
      rw [isSearch_of_ordering? (fun _ => rfl) found, decide_eq_true (.inr column)]
      rfl
    have readable : IsReadable read token := ⟨_, found⟩
    obtain ⟨control', reading, only⟩ := reading?_of_names names row column readable
    rw [reading?_eq_some_iff, found, Except.ok.injEq, Option.some.injEq] at reading
    rw [reading, only.isSearch_eq, decide_eq_false (by rw [not_or]; exact ⟨row, column⟩)]
    rfl
  · rw [readToken_of_plain plain, map_eq_ok] at found
    obtain ⟨element, reading, same⟩ := found
    rw [isOrdering_of_plain plain, ← Option.some.inj same,
      (filtersOnly_readElement reading).isSearch_eq]
    rfl

/-- More search terms make a directive stricter; its orderings play no part. -/
theorem outcome_mono
    (terms : ∀ token ∈ tokens, isOrdering token = false → token ∈ tokens') :
    (together (readAll read tokens)).outcome env heads texts ≤
      (together (readAll read tokens')).outcome env heads texts := by
  rw [outcome_together, outcome_together]
  apply Finset.sup_le
  intro child member
  obtain ⟨token, inside, reading⟩ := exists_token_of_mem_readAll (List.mem_toFinset.mp member)
  have search := isSearch_of_reading? reading
  cases orders : isOrdering token with
  | true =>
      rw [orders] at search
      rw [outcome_of_not_search search]
      exact bot_le
  | false =>
      apply Finset.le_sup
      rw [List.mem_toFinset]
      exact List.mem_filterMap.mpr ⟨token, terms token inside orders, reading⟩

/-- A directive of orderings only does not filter. -/
theorem not_search_of_orderings (orderings : ∀ token ∈ tokens, isOrdering token = true) :
    (together (readAll read tokens)).isSearch = false := by
  rw [← Bool.not_eq_true, isSearch_together, anySearch_iff]
  rintro ⟨child, member, search⟩
  obtain ⟨token, inside, reading⟩ := exists_token_of_mem_readAll member
  rw [isSearch_of_reading? reading, orderings token inside] at search
  cases search

/-- **Search terms.** Two directives with the same search terms keep the same rows with the same spans
wherever both searches come to an end, and one without search terms keeps every row. -/
theorem verdict_eq_of_same_terms {answer answer' : Option RowMatch}
    (accepted : parse env.readDate directive = .ok control)
    (accepted' : parse env.readDate directive' = .ok control')
    (same : ∀ token, isOrdering token = false →
      (token ∈ splitTokens directive ↔ token ∈ splitTokens directive'))
    (answered : control.verdict env heads texts = .ok answer)
    (answered' : control'.verdict env heads texts = .ok answer') :
    answer = answer' ∧
      ((∀ token ∈ splitTokens directive, isOrdering token = true) →
        answer = some (.none texts.length)) := by
  obtain ⟨-, rfl⟩ := parse_eq_ok_iff.mp accepted
  obtain ⟨-, rfl⟩ := parse_eq_ok_iff.mp accepted'
  constructor
  · rw [← kept_of_verdict_ok answered, ← kept_of_verdict_ok answered', ← outcome_inj]
    apply le_antisymm
    · apply outcome_mono
      intro token inside search
      exact (same token search).mp inside
    · apply outcome_mono
      intro token inside search
      exact (same token search).mpr inside
  · intro orderings
    rw [verdict_of_order (not_search_of_orderings orderings)] at answered
    exact (Except.ok.inj answered).symm

/-- A row with `a` and `b` is kept with the same spans by `b a sort:x b` and by `columns:y a b a`. -/
theorem verdict_eq_of_shuffled_terms :
    let env : Environment := ⟨fun _ => none, fun _ _ => false⟩
    let heads : List ColumnHead := [⟨['x'], true⟩, ⟨['y'], true⟩]
    let texts : List Text := [['a', 'b'], ['b', 'c']]
    let directive : Text := "b a sort:x b".toList
    let directive' : Text := "columns:y a b a".toList
    ∃ control control' answer answer',
      parse env.readDate directive = .ok control ∧ parse env.readDate directive' = .ok control' ∧
        (∀ token, isOrdering token = false →
          (token ∈ splitTokens directive ↔ token ∈ splitTokens directive')) ∧
        control.verdict env heads texts = .ok answer ∧
        control'.verdict env heads texts = .ok answer' ∧
        answer = some [some ⟨[⟨0, 1⟩, ⟨1, 2⟩]⟩, some ⟨[⟨0, 1⟩]⟩] ∧ answer = answer' := by
  intro env heads texts directive directive'
  let a : Control := .term (.literal ['a'])
  let b : Control := .term (.literal ['b'])
  have accepted : parse env.readDate directive = .ok (.allOf [b, a, .rowSort [['x']], b]) := by
    decide +kernel
  have accepted' : parse env.readDate directive' = .ok (.allOf [.columnSort [['y']], a, b, a]) := by
    decide +kernel
  have tokens : splitTokens directive = [['b'], ['a'], "sort:x".toList, ['b']] := by decide +kernel
  have tokens' : splitTokens directive' = ["columns:y".toList, ['a'], ['b'], ['a']] := by
    decide +kernel
  have same : ∀ token, isOrdering token = false →
      (token ∈ splitTokens directive ↔ token ∈ splitTokens directive') := by
    intro token search
    have row : token ≠ "sort:x".toList := by
      rintro rfl
      revert search
      decide +kernel
    have column : token ≠ "columns:y".toList := by
      rintro rfl
      revert search
      decide +kernel
    simp only [tokens, tokens', List.mem_cons, List.not_mem_nil, row, column, false_or, or_false]
    tauto
  let found : RowMatch := [some ⟨[⟨0, 1⟩, ⟨1, 2⟩]⟩, some ⟨[⟨0, 1⟩]⟩]
  have answered : (allOf [b, a, .rowSort [['x']], b]).verdict env heads texts =
      .ok (some found) := by decide +kernel
  have answered' : (allOf [.columnSort [['y']], a, b, a]).verdict env heads texts =
      .ok (some found) := by decide +kernel
  exact ⟨_, _, _, _, accepted, accepted', same, answered, answered', rfl,
    (verdict_eq_of_same_terms accepted accepted' same answered answered').1⟩

end Control

end TableSearch
