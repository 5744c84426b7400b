import Mathlib.Data.Set.Function
import TableSearch.Proofs.Control.Reparse

/-! # Directives without quotes

A control for a token without double quotes is written as one token, and read from it again.  A
directive of such tokens, written and read again, is therefore the controls of its tokens, each once
(`TableSearch.Control.parse_text_of_unquoted`).
-/

namespace TableSearch

/-! ## First occurrences -/

namespace Text

variable {α : Type} [DecidableEq α] {write : α → Text}

/-- Values that differ in writing are written once each if each is kept once.  The values seen so
far are those that both sides have collected. -/
theorem firstOccurrences_map_loop {seen values : List α}
    (apart : Set.InjOn write {value | value ∈ seen ∨ value ∈ values})
    (filled : ∀ value ∈ values, write value ≠ []) :
    firstOccurrences (seen.map write) (values.map write) =
      (List.eraseDupsBy.loop (· == ·) values seen).map write := by
  induction values generalizing seen with
  | nil => rw [List.map_nil, firstOccurrences, List.eraseDupsBy.loop, List.map_reverse]
  | cons value rest ih =>
      rw [List.forall_mem_cons] at filled
      rw [List.map_cons, List.eraseDupsBy.loop]
      by_cases known : value ∈ seen
      · have again : seen.any (value == ·) = true := by
          rw [List.any_beq, List.contains_iff_mem]
          exact known
        have listed : (seen.map write).contains (write value) = true :=
          List.contains_iff_mem.mpr (List.mem_map_of_mem known)
        rw [again, firstOccurrences, listed, Bool.or_true, if_pos rfl]
        refine ih (apart.mono ?_) filled.2
        intro other member
        exact member.imp_right (List.mem_cons_of_mem _)
      · have fresh : seen.any (value == ·) = false := by
          rw [List.any_beq]
          exact Bool.eq_false_iff.mpr (mt List.contains_iff_mem.mp known)
        have unlisted : write value ∉ seen.map write := by
          intro listed
          obtain ⟨other, member, same⟩ := List.mem_map.mp listed
          have equal := apart (.inl member) (.inr List.mem_cons_self) same
          exact known (equal ▸ member)
        rw [fresh, firstOccurrences_cons filled.1 unlisted, ← List.map_cons]
        refine ih (apart.mono ?_) filled.2
        rintro other (member | member)
        · rcases List.mem_cons.mp member with rfl | before
          · exact .inr List.mem_cons_self
          · exact .inl before
        · exact .inr (List.mem_cons_of_mem _ member)

/-- The first occurrences of written values are the first occurrences of the values, written. -/
theorem firstOccurrences_map {values : List α} (apart : Set.InjOn write {value | value ∈ values})
    (filled : ∀ value ∈ values, write value ≠ []) :
    firstOccurrences [] (values.map write) = values.eraseDups.map write := by
  have widened : Set.InjOn write {value | value ∈ ([] : List α) ∨ value ∈ values} := by
    refine apart.mono ?_
    rintro value (absent | member)
    · cases absent
    · exact member
  exact firstOccurrences_map_loop widened filled

end Text

namespace Control

open Text

variable {read : DateReader} {directive token : Text} {control : Control}

/-! ## One token -/

/-- A token without quotes has no bare form. -/
theorem bareForm?_of_not_mem (unquoted : '"' ∉ token) : bareForm? token = none := by
  rcases names_or_plain token with ⟨name, rest, names⟩ | plain
  · have inside : '"' ∉ rest := by
      intro member
      rw [names.split, List.mem_append, List.mem_cons, not_or, not_or] at unquoted
      exact unquoted.2.2 member
    rw [bareForm?_of_names names, if_pos (.inr (.inr (unquoteToken_of_not_mem inside)))]
  · exact bareForm?_of_plain plain

/-- **Tokens.** What is read from a token without quotes is read from its written form again. -/
theorem readAll_splitTokens_text (proper : token.IsToken) (unquoted : '"' ∉ token)
    (found : reading? read token = some control) :
    readAll read (splitTokens control.text) = [control] := by
  have again : reading? read (normalForm token) = some control := reading?_normalForm.trans found
  rw [(splitTokens_text proper found).2, written, bareForm?_of_not_mem unquoted]
  exact List.filterMap_cons_some again

/-! ## A directive -/

/-- The controls of the tokens of a directive, written and read again, each once. -/
theorem readAll_splitTokens_text_together
    (unquoted : ∀ token ∈ splitTokens directive, '"' ∉ token) :
    readAll read (splitTokens (together (readAll read (splitTokens directive))).text) =
      (readAll read (splitTokens directive)).eraseDups := by
  have alone : ∀ control ∈ readAll read (splitTokens directive),
      readAll read (splitTokens control.text) = [control] := by
    intro control inside
    obtain ⟨token, member, found⟩ := exists_token_of_mem_readAll inside
    exact readAll_splitTokens_text (isToken_of_mem_splitTokens member) (unquoted token member) found
  have filled : ∀ control ∈ readAll read (splitTokens directive), control.text ≠ [] := by
    intro control inside
    obtain ⟨token, member, found⟩ := exists_token_of_mem_readAll inside
    exact text_ne_nil (isToken_of_mem_splitTokens member) found
  have apart : Set.InjOn Control.text
      {control | control ∈ readAll read (splitTokens directive)} := by
    intro control here other there same
    have equal := alone control here
    rw [same, alone other there] at equal
    exact (List.singleton_inj.mp equal).symm
  rw [splitTokens_text_together, writtenTexts, firstOccurrences_map apart filled, readAll,
    List.filterMap_flatMap, List.flatMap_map]
  refine flatMap_singletons ?_
  intro control member
  exact alone control (List.mem_eraseDups.mp member)

/-- **Exact round trip.** A directive whose tokens hold no double quotes, written and read again, is
nothing, one control, or several controls that have to hold together: those of its tokens in order,
each at its first occurrence. -/
theorem parse_text_of_unquoted (accepted : parse read directive = .ok control)
    (unquoted : ∀ token ∈ splitTokens directive, '"' ∉ token) :
    ∃ readings, (splitTokens directive).mapM (readToken read) = .ok readings ∧
      parse read control.text = .ok (match (readings.filterMap id).eraseDups with
        | [] => unfiltered
        | [single] => single
        | several => allOf several) := by
  obtain ⟨readable, rfl⟩ := parse_eq_ok_iff.mp accepted
  refine ⟨_, mapM_readToken readable, parse_eq_ok_iff.mpr ⟨?_, ?_⟩⟩
  · refine (isReadable_written_iff readable).mpr ?_
    intro bare member
    obtain ⟨token, inside, found⟩ := List.mem_filterMap.mp member
    rw [bareForm?_of_not_mem (unquoted token inside)] at found
    cases found
  · rw [readAll_splitTokens_text_together unquoted, List.filterMap_map]
    rfl

/-- Two of the three orderings say the same, one says nothing, and a search is repeated: a search, a
text with a blank and one ordering are left. -/
theorem parse_text_of_repeated_tokens :
    let read : DateReader := fun _ => none
    let directive : Text := "x:b \"a c\" sort:p,,q sort: sort:p,q x:b".toList
    let search : Control := .anyOf
      [.category ['x'] (.term (.literal ['b'])), .term (.literal "x:b".toList)]
    ∃ control, parse read directive = .ok control ∧
      (∀ token ∈ splitTokens directive, '"' ∉ token) ∧
      parse read control.text =
        .ok (.allOf [search, .term (.literal "a c".toList), .rowSort [['p'], ['q']]]) := by
  intro read directive search
  let spaced : Control := .term (.literal "a c".toList)
  let order : Control := .rowSort [['p'], ['q']]
  have accepted : parse read directive = .ok (.allOf [search, spaced, order, order, search]) := by
    decide +kernel
  have unquoted : ∀ token ∈ splitTokens directive, '"' ∉ token := by decide +kernel
  refine ⟨_, accepted, unquoted, ?_⟩
  obtain ⟨readings, all, again⟩ := parse_text_of_unquoted accepted unquoted
  have known : (splitTokens directive).mapM (readToken read) =
      .ok [some search, some spaced, some order, none, some order, some search] := by
    decide +kernel
  cases all.symm.trans known
  exact again

end Control

end TableSearch
