import TableSearch.Proofs.Pattern.Steps

/-! # Character sets and modes in lower case

The members of a character set are read one by one; a range is kept if both of its ends are
(`TableSearch.Pattern.follows_readSetItems`).  Mode letters are small and end with a sign, so that they
are read the same (`TableSearch.Pattern.follows_readModeHead`).
-/

namespace TableSearch

namespace Pattern

open CharCase

variable {s t : Reading} {tokens rest : List Token} {c d : Char}

/-! ## Character sets -/

/-- Taking characters up to a number leaves the tokens behind them. -/
theorem takeUpTo_tokens {p : Char → Bool} {count : Nat} {taken : Text}
    (ran : takeUpTo p count s = .ok (taken, t)) :
    t.tokens = s.tokens.drop taken.length ∧
      taken.length = ((s.tokens.take count).takeWhile fun token => token.plain?.any p).length := by
  induction count generalizing s taken with
  | zero =>
      cases ran
      exact ⟨rfl, rfl⟩
  | succ count ih =>
      unfold takeUpTo at ran
      obtain ⟨tokens, widths, names, outer, conditions, letters⟩ := s
      rcases tokens with _ | ⟨token, rest⟩
      · cases ran
        exact ⟨rfl, rfl⟩
      · rcases token with c | c | _
        · change (if p c = true then
            (take >>= fun _ => takeUpTo p count >>= fun digits => pure (c :: digits) : Read Text)
            else pure []) _ = _ at ran
          have here : (Token.plain c).plain?.any p = p c := rfl
          rw [List.take_succ_cons, List.takeWhile_cons, here]
          by_cases holds : p c = true
          · rw [if_pos holds] at ran ⊢
            obtain ⟨_, u, taking, ran⟩ := bind_eq_ok_iff.mp ran
            cases taking
            obtain ⟨digits, v, ran, last⟩ := bind_eq_ok_iff.mp ran
            cases last
            obtain ⟨tokens, length⟩ := ih ran
            exact ⟨tokens, congrArg (· + 1) length⟩
          · rw [if_neg holds] at ran ⊢
            cases ran
            exact ⟨rfl, rfl⟩
        · cases ran
          exact ⟨rfl, rfl⟩
        · cases ran
          exact ⟨rfl, rfl⟩

/-- A code in hexadecimal digits takes as many tokens as it has to have. -/
theorem takeHex_tokens {count code : Nat} (ran : takeHex count s = .ok (code, t)) :
    t.tokens = s.tokens.drop count := by
  unfold takeHex at ran
  obtain ⟨digits, u, first, ran⟩ := bind_eq_ok_iff.mp ran
  have tokens := (takeUpTo_tokens first).1
  dsimp only at ran
  split at ran
  · cases ran
  · rename_i full
    split at ran
    · cases ran
    · cases ran
      rw [tokens, not_not.mp full]

/-- A code with a letter in front takes the tokens that belong to that letter. -/
theorem readCode_tokens {code : Nat} (octal : isOctal c = false) (ran : readCode c s = .ok (code, t)) :
    t.tokens = (Token.escaped c).behind s.tokens := by
  unfold readCode at ran
  rw [Token.behind, Token.digits, if_neg (Bool.eq_false_iff.mp octal)]
  split at ran
  · rename_i two
    rw [if_pos two]
    exact takeHex_tokens ran
  · rename_i first
    rw [if_neg first]
    split at ran
    · rename_i four
      rw [if_pos four]
      exact takeHex_tokens ran
    · rename_i second
      rw [if_neg second]
      split at ran
      · rename_i eight
        rw [if_pos eight]
        exact takeHex_tokens ran
      · rename_i third
        rw [if_neg third]
        split at ran
        · cases ran
        · cases ran
          rfl

theorem digits_of_controlCode? {code : Nat} {rest : List Token} (known : controlCode? c = some code) :
    Token.digits rest (.escaped c) = 0 := by
  unfold controlCode? at known
  split at known <;> first | rfl | cases known

theorem digits_of_kindOf? {kind : CharKind × Bool} {rest : List Token}
    (known : kindOf? c = some kind) : Token.digits rest (.escaped c) = 0 := by
  unfold kindOf? at known
  split at known <;> first | rfl | cases known

/-- An escape in a set takes the tokens that belong to it, and no more. -/
theorem readSetEscape_tokens {mode : Mode} {item : CharItem}
    (ran : readSetEscape mode c s = .ok (item, t)) : t.tokens = (Token.escaped c).behind s.tokens := by
  unfold readSetEscape at ran
  cases control : controlCode? c with
  | some code =>
      rw [control] at ran
      cases ran
      rw [Token.behind, digits_of_controlCode? control, List.drop_zero]
  | none =>
      cases kind : kindOf? c with
      | some found =>
          rw [control, kind] at ran
          cases ran
          rw [Token.behind, digits_of_kindOf? kind, List.drop_zero]
      | none =>
          rw [control, kind] at ran
          change (if isOctal c = true then _ else _ : Read CharItem) s = _ at ran
          split at ran
          · rename_i octal
            obtain ⟨taken, u, first, ran⟩ := bind_eq_ok_iff.mp ran
            obtain ⟨tokens, length⟩ := takeUpTo_tokens first
            dsimp only at ran
            rw [Token.behind, Token.digits, if_pos octal, ← length, ← tokens]
            split at ran
            · cases ran
            · cases ran
              rfl
          · rename_i other
            obtain ⟨code, u, first, last⟩ := bind_eq_ok_iff.mp ran
            cases last
            exact readCode_tokens (Bool.eq_false_iff.mpr other) first

/-- A member of a set takes the tokens that belong to it, and no more. -/
theorem readSetItem_tokens {mode : Mode} {token : Token} {item : CharItem}
    (ran : readSetItem mode token s = .ok (item, t)) : t.tokens = token.behind s.tokens := by
  cases token with
  | plain c =>
      cases ran
      rfl
  | escaped c => exact readSetEscape_tokens ran
  | dangling => cases ran

/-- Whether what one token begins is a member of a set, and what the other one begins is another: a
character becomes one, and a code or a kind of characters stays the same. -/
inductive ReadsAs : Token → CharItem → CharItem → Prop
  | plain {c d : Char} (becomes : Becomes c d) : ReadsAs (.plain c) (.one c.toNat) (.one d.toNat)
  | escaped {c : Char} (lower : IsLower c) {item : CharItem} : ReadsAs (.escaped c) item item

/-- A member of a set is read as the member that its lower-case form begins. -/
theorem follows_readSetItem {mode : Mode} {token other : Token} (lowered : token.Lowers other)
    (lowers : s.Lowers tokens) :
    Follows (ReadsAs token) (readSetItem mode token) (readSetItem mode other) s tokens := by
  cases lowered with
  | plain becomes => exact follows_pure lowers (.plain becomes)
  | escaped lower =>
      refine (follows_readSetEscape lowers).mono ?_
      rintro item _ rfl
      exact .escaped lower
  | dangling => exact follows_refuse

/-- What a token and its lower-case form are read as takes in the same characters. -/
theorem ReadsAs.alike {token : Token} {item other : CharItem} (reads : ReadsAs token item other) :
    item.Alike other := by
  cases reads with
  | plain becomes =>
      intro b
      simp only [CharItem.takes, becomes.foldCode_eq]
  | escaped => exact .refl _

theorem ReadsAs.eq_of_isSteady {token : Token} {item other : CharItem}
    (reads : ReadsAs token item other) (steady : token.IsSteady) : other = item := by
  cases reads with
  | plain becomes => rw [becomes.eq_of_isLower steady]
  | escaped => rfl

/-- A range that is kept becomes one that takes in the same characters. -/
theorem exists_range {low high : Token} (kept : low.KeepsRange high) {first last : Nat}
    {item other : CharItem} (reads : ReadsAs low (.one first) item)
    (reads' : ReadsAs high (.one last) other) (proper : first ≤ last) :
    ∃ first' last', item = .one first' ∧ other = .one last' ∧ first' ≤ last' ∧
      (CharItem.range first last).Alike (.range first' last') := by
  cases kept with
  | steady lowSteady highSteady =>
      exact ⟨first, last, reads.eq_of_isSteady lowSteady, reads'.eq_of_isSteady highSteady, proper,
        .refl _⟩
  | letters same =>
      cases reads with
      | plain becomes =>
          cases reads' with
          | plain becomes' =>
              obtain ⟨proper, alike⟩ := same _ _ becomes becomes'
              exact ⟨_, _, rfl, rfl, proper, alike⟩

/-- What a reader of a character set does with a token behind a dash: with the member in front of it
the token makes a range. -/
def readRange (mode : Mode) (low : CharItem) (items : List CharItem) (fuel : Nat) (high : Token) :
    Read (List CharItem) := do
  match low, ← readSetItem mode high with
  | .one first, .one last =>
    if last < first then refuse
    readSetItems mode (.range first last :: items) fuel
  | _, _ => refuse

/-- A range of a set that is kept is read alike, and so is whatever follows it. -/
theorem follows_readRange {mode : Mode} {low high other : Token} {item item' : CharItem}
    {items others : List CharItem} {fuel : Nat} (kept : low.KeepsRange high)
    (reads : ReadsAs low item item') (lowered : high.Lowers other) (lowers : s.Lowers tokens)
    (later : ∀ (range range' : CharItem) (t : Reading) (rest : List Token), range.Alike range' →
      t.Lowers rest → t.tokens = high.behind s.tokens →
      Follows (List.Forall₂ CharItem.Alike) (readSetItems mode (range :: items) fuel)
        (readSetItems mode (range' :: others) fuel) t rest) :
    Follows (List.Forall₂ CharItem.Alike) (readRange mode item items fuel high)
      (readRange mode item' others fuel other) s tokens := by
  unfold readRange
  refine (follows_readSetItem lowered lowers).bind ?_
  intro found found' t rest reads' lowers ran
  cases item with
  | range => exact follows_refuse
  | ofKind => exact follows_refuse
  | one first =>
      cases found with
      | range => exact follows_refuse
      | ofKind => exact follows_refuse
      | one last =>
          change Follows _ (if last < first then _ else _) _ _ _
          by_cases reversed : last < first
          · rw [if_pos reversed]
            rintro _ _ ⟨⟩
          obtain ⟨first', last', rfl, rfl, proper, takes⟩ :=
            exists_range kept reads reads' (Nat.le_of_not_lt reversed)
          rw [if_neg reversed]
          change Follows _ _ (if last' < first' then _ else _) _ _
          rw [if_neg (Nat.not_lt.mpr proper)]
          exact later _ _ t rest takes lowers (readSetItem_tokens ran)

/-- What a reader of a character set does behind a dash. -/
theorem follows_dash {α β : Type} {V : α → β → Prop} {closed : Read α} {closed' : Read β}
    {onward : Token → Read α} {onward' : Token → Read β} (lowers : s.Lowers tokens) {u : Reading}
    {others : List Token} (closes : Follows V closed closed' u others)
    (goes : ∀ high other, s.tokens.head? = some high → high.Lowers other → high ≠ .plain ']' →
      Follows V (onward high) (onward' other) u others) :
    Follows V
      (match s.tokens.head? with
        | none => refuse
        | some (.plain ']') => closed
        | some token => onward token)
      (match tokens.head? with
        | none => refuse
        | some (.plain ']') => closed'
        | some token => onward' token) u others := by
  rcases lowers.head?_cases with ⟨none, none'⟩ | ⟨high, other, here, there, lowered⟩
  · rw [none]
    exact follows_refuse
  rw [here, there]
  have closing := lowered.eq_plain_iff (c := ']') (by decide)
  by_cases close : high = .plain ']'
  · rw [close, closing.mpr close]
    exact closes
  have openly : ∀ {γ : Type} {absent closed : γ} {onward : Token → γ} {token : Token},
      token ≠ .plain ']' → (match some token with
        | none => absent
        | some (.plain ']') => closed
        | some token => onward token) = onward token := by
    intro γ absent closed onward token differs
    split <;> simp_all
  rw [openly close, openly (mt closing.mp close)]
  exact goes high other here lowered close

/-- The members of a set whose ranges are kept become members that take in the same characters. -/
theorem follows_readSetItems {mode : Mode} {items others : List CharItem} {fuel : Nat}
    (alike : List.Forall₂ CharItem.Alike items others) (lowers : s.Lowers tokens)
    (kept : ∀ range ∈ Token.ranges fuel items.isEmpty s.tokens, range.1.KeepsRange range.2) :
    Follows (List.Forall₂ CharItem.Alike) (readSetItems mode items fuel)
      (readSetItems mode others fuel) s tokens := by
  induction fuel generalizing items others s tokens with
  | zero => exact follows_refuse
  | succ fuel ih =>
      unfold readSetItems
      refine follows_take_bind ?_
      rcases lowers.head?_cases with ⟨none, none'⟩ | ⟨token, other, here, there, lowered⟩
      · rw [none]
        exact follows_refuse
      rw [here, there]
      obtain ⟨after, before⟩ := List.head?_eq_some_iff.mp here
      rw [before] at kept
      have empty : others.isEmpty = items.isEmpty := by
        cases alike <;> rfl
      have closing : (other == Token.plain ']') = (token == Token.plain ']') := by
        rw [Bool.eq_iff_iff, beq_iff_eq, beq_iff_eq]
        exact lowered.eq_plain_iff (by decide)
      change Follows _ (if (token == Token.plain ']' && !items.isEmpty) = true then _ else _)
        (if (other == Token.plain ']' && !others.isEmpty) = true then _ else _) _ _
      rw [empty, closing]
      refine follows_ite (fun _ => follows_pure lowers.tail (List.forall₂_reverse_iff.mpr alike))
        fun inside => ?_
      refine (follows_readSetItem lowered lowers.tail).bind ?_
      intro low low' t rest reads lowers ran
      have next : t.tokens = token.behind after := by
        rw [readSetItem_tokens ran, Reading.tokens_onTokens, before, List.tail_cons]
      refine (follows_accept lowers (by decide)).bind ?_
      rintro dash _ u rest rfl lowers ran
      rw [accept_apply] at ran
      by_cases dashed : t.tokens.head? = some (.plain '-')
      · rw [if_pos dashed] at ran
        cases ran
        obtain ⟨afterDash, same⟩ := List.head?_eq_some_iff.mp dashed
        refine follows_take_bind (follows_dash lowers ?_ ?_)
        · exact follows_pure lowers.tail
            (List.forall₂_reverse_iff.mpr (.cons (.refl _) (.cons reads.alike alike)))
        intro high other here lowered open'
        obtain ⟨afterHigh, same'⟩ := List.head?_eq_some_iff.mp here
        rw [Reading.tokens_onTokens, same, List.tail_cons] at same'
        have whole : token.behind after = .plain '-' :: high :: afterHigh := by
          rw [← next, same, same']
        rw [Token.ranges_of_dash inside whole open', List.forall_mem_cons] at kept
        refine follows_readRange kept.1 reads lowered lowers.tail ?_
        intro range range' v rest takes lowers beyond
        rw [Reading.tokens_onTokens, Reading.tokens_onTokens, same, same', List.tail_cons,
          List.tail_cons] at beyond
        refine ih (.cons takes alike) lowers ?_
        rw [beyond]
        exact kept.2
      · rw [if_neg dashed] at ran
        cases ran
        refine ih (.cons reads.alike alike) lowers ?_
        rw [next] at dashed
        rw [Token.ranges_of_other inside dashed, ← next] at kept
        exact kept

/-- A character set is read alike if all of its ranges are kept. -/
theorem follows_readSet {mode : Mode} (folded : mode.caseRule = .folded) (lowers : s.Lowers tokens)
    (kept : ∀ range ∈ Token.setRanges s.tokens, range.1.KeepsRange range.2) :
    Follows Item.Alike (readSet mode) (readSet mode) s tokens := by
  unfold readSet
  refine (follows_accept lowers (by decide)).bind ?_
  rintro complement _ t rest rfl lowers ran
  have members : ∀ range ∈ Token.ranges (t.tokens.length + 1) true t.tokens,
      range.1.KeepsRange range.2 := by
    rw [accept_apply] at ran
    by_cases caret : s.tokens.head? = some (.plain '^')
    · rw [if_pos caret] at ran
      cases ran
      obtain ⟨after, same⟩ := List.head?_eq_some_iff.mp caret
      rw [same] at kept
      rw [Reading.tokens_onTokens, same]
      exact kept
    · rw [if_neg caret] at ran
      cases ran
      rwa [Token.setRanges_of_other caret] at kept
  refine follows_get_bind ?_
  rw [Reading.tokens_onTokens, ← lowers.tokens.length_eq]
  refine (follows_readSetItems .nil lowers members).bind ?_
  intro items others u rest alike lowers _
  rw [folded]
  exact follows_pure lowers ⟨.char fun _ => CharSet.accepts_eq alike, rfl⟩

/-! ## Modes -/

theorem isLower_of_ofChar? {letter : ModeLetter} (known : ModeLetter.ofChar? c = some letter) :
    IsLower c := by
  unfold ModeLetter.ofChar? at known
  split at known <;> first | decide | cases known

theorem ne_ascii_of_ofChar? {letter : ModeLetter} (known : ModeLetter.ofChar? c = some letter)
    (other : c ≠ 'a') : letter ≠ .ascii := by
  rintro rfl
  unfold ModeLetter.ofChar? at known
  split at known <;> first | exact other rfl | cases known

/-- Mode letters that end with a sign are read alike, and the comparison of letters is not among
them. -/
theorem readLetters_follows {letters on : List ModeLetter} {close : Char} {fuel : Nat}
    (lowers : s.Lowers tokens) (becomes : Becomes c d)
    (kept : Token.keepsHead (.plain c :: s.tokens) = true) (full : ModeLetter.ascii ∉ letters)
    (ran : readLetters letters c fuel s = .ok ((on, close), t)) (sign : IsLower close) :
    ∃ rest, readLetters letters d fuel (s.onTokens tokens) = .ok ((on, close), t.onTokens rest) ∧
      t.Lowers rest ∧ ModeLetter.ascii ∉ on ∧ close ≠ '-' := by
  induction fuel generalizing letters s tokens c d with
  | zero => cases ran
  | succ fuel ih =>
      unfold readLetters at ran ⊢
      rw [Token.keepsHead] at kept
      cases known : ModeLetter.ofChar? c with
      | none =>
          rw [known] at ran kept
          rw [Option.isSome_none, if_neg Bool.false_ne_true, Bool.and_eq_true, bne_iff_ne] at kept
          cases ran
          rw [becomes.eq_of_isLower sign, known]
          exact ⟨tokens, rfl, lowers, full, kept.1⟩
      | some letter =>
          rw [becomes.eq_of_isLower (isLower_of_ofChar? known), known]
          rw [known] at ran kept
          rw [Option.isSome_some, if_pos rfl, Bool.and_eq_true, bne_iff_ne] at kept
          have full' : ModeLetter.ascii ∉ letter :: letters := by
            rw [List.mem_cons, not_or]
            exact ⟨Ne.symm (ne_ascii_of_ofChar? known kept.1), full⟩
          dsimp only at ran ⊢
          split at ran
          · cases ran
          rename_i fits
          rw [if_neg fits]
          rw [bind_apply, take_apply] at ran ⊢
          rcases lowers.head?_cases with ⟨none, none'⟩ | ⟨token, other, here, there, lowered⟩
          · rw [none] at ran
            cases ran
          rw [here] at ran
          rw [Reading.tokens_onTokens, there]
          obtain ⟨after, same⟩ := List.head?_eq_some_iff.mp here
          cases lowered with
          | escaped => cases ran
          | dangling => cases ran
          | plain becomes =>
              have tail : (s.onTokens s.tokens.tail).tokens = after := by
                rw [Reading.tokens_onTokens, same, List.tail_cons]
              rw [same, ← tail] at kept
              exact ih (s := s.onTokens s.tokens.tail) lowers.tail becomes kept.2 full' ran

/-- Whether the comparison of letters is not among mode letters that are turned on, and none is turned
off. -/
def KeepsLetters (head : List ModeLetter × Option (List ModeLetter)) : Prop :=
  ModeLetter.ascii ∉ head.1 ∧ (head.2 = none ∨ head.2 = some [])

/-- The mode letters of a group are read the same, up to the sign that ends them. By `kept`, none of
them turns the comparison of letters on or off. -/
theorem follows_readModeHead (lowers : s.Lowers tokens) (becomes : Becomes c d)
    (kept : Token.keepsHead (.plain c :: s.tokens) = true) :
    Follows (fun head other => other = head ∧ KeepsLetters head) (readModeHead c) (readModeHead d) s
      tokens := by
  intro head t ran
  -- A dash would turn letters off.
  have undashed : c ≠ '-' := by
    rintro rfl
    rw [Token.keepsHead] at kept
    simp [ModeLetter.ofChar?] at kept
  have undashed' : d ≠ '-' := mt (becomes.eq_iff (by decide)).mp undashed
  have length : (s.onTokens tokens).tokens.length = s.tokens.length := lowers.tokens.length_eq.symm
  unfold readModeHead at ran ⊢
  obtain ⟨_, _, ⟨⟩, ran⟩ := bind_eq_ok_iff.mp ran
  rw [if_neg undashed] at ran
  obtain ⟨⟨on, close⟩, u, first, ran⟩ := bind_eq_ok_iff.mp ran
  dsimp only at ran
  -- The letters end with a sign, which lower-casing leaves as it is.
  have sign : close = ')' ∨ close = ':' ∨ close = '-' := by
    by_contra other
    rw [not_or, not_or] at other
    rw [if_neg other.1, if_neg other.2.1, if_pos other.2.2] at ran
    split at ran <;> cases ran
  have lower : IsLower close := by
    rcases sign with rfl | rfl | rfl <;> decide
  obtain ⟨rest, same, lowers', full, inner⟩ :=
    readLetters_follows lowers becomes kept List.not_mem_nil first lower
  have onward : ∀ {next : List ModeLetter × Char → Read (List ModeLetter × Option (List ModeLetter))},
      next (on, close) (u.onTokens rest) = .ok (head, t.onTokens rest) →
      (readLetters [] d (s.tokens.length + 2) >>= next) (s.onTokens tokens) =
        .ok (head, t.onTokens rest) :=
    fun ran => bind_eq_ok_iff.mpr ⟨_, _, same, ran⟩
  rcases sign with rfl | rfl | rfl
  · rw [if_pos rfl] at ran
    cases ran
    refine ⟨_, rest, bind_eq_ok_iff.mpr ⟨_, _, rfl, ?_⟩, ⟨rfl, full, .inl rfl⟩, lowers'⟩
    rw [if_neg undashed', length]
    exact onward rfl
  · rw [if_neg (by decide)] at ran
    split at ran
    · cases ran
    · rename_i plain
      rw [if_pos rfl] at ran
      cases ran
      refine ⟨_, rest, bind_eq_ok_iff.mpr ⟨_, _, rfl, ?_⟩, ⟨rfl, full, .inr rfl⟩, lowers'⟩
      rw [if_neg undashed', length]
      refine onward ?_
      dsimp only
      rw [if_neg (by decide), if_neg plain, if_pos rfl]
      rfl
  · exact (inner rfl).elim

end Pattern

end TableSearch
