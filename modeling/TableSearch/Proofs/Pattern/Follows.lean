import TableSearch.Proofs.Answers
import TableSearch.Proofs.Pattern.Caseless

/-! # Two readers side by side

One reader has the tokens of a pattern before it, the other one those of its lower-case form.  A step
of the first that succeeds has a counterpart in the second with a value like its own
(`TableSearch.Pattern.Follows`); such steps can be put together.
-/

namespace TableSearch

namespace Pattern

open CharCase

namespace Reading

/-- A reading that has other tokens before it. -/
def onTokens (reading : Reading) (tokens : List Token) : Reading :=
  { reading with tokens }

theorem tokens_onTokens (reading : Reading) (tokens : List Token) :
    (reading.onTokens tokens).tokens = tokens :=
  rfl

/-- Whether the tokens before a reader in a pattern become others in lower case, and nothing that it
has met or will meet is changed by that. -/
structure Lowers (reading : Reading) (tokens : List Token) : Prop where
  tokens : List.Forall₂ Token.Lowers reading.tokens tokens
  kept : Token.Keeps reading.tokens
  unnamed : reading.names = []

variable {reading : Reading} {tokens rest : List Token}

theorem Lowers.drop (lowers : reading.Lowers tokens) (count : Nat) :
    (reading.onTokens (reading.tokens.drop count)).Lowers (tokens.drop count) :=
  ⟨List.forall₂_drop count lowers.tokens, lowers.kept.of_suffix (List.drop_suffix _ _),
    lowers.unnamed⟩

theorem Lowers.tail (lowers : reading.Lowers tokens) :
    (reading.onTokens reading.tokens.tail).Lowers tokens.tail := by
  have dropped := lowers.drop 1
  rwa [List.drop_one, List.drop_one] at dropped

/-- Either both readers have a token before them or none has. -/
theorem Lowers.head?_cases (lowers : reading.Lowers tokens) :
    reading.tokens.head? = none ∧ tokens.head? = none ∨
      ∃ token other, reading.tokens.head? = some token ∧ tokens.head? = some other ∧
        token.Lowers other := by
  have pairs := lowers.tokens
  generalize reading.tokens = ours at pairs
  cases pairs with
  | nil => exact .inl ⟨rfl, rfl⟩
  | cons lowered _ => exact .inr ⟨_, _, rfl, rfl, lowered⟩

/-- A sign is before both readers or before neither. -/
theorem Lowers.head?_eq_iff (lowers : reading.Lowers tokens) {c : Char} (sign : IsSign c) :
    tokens.head? = some (.plain c) ↔ reading.tokens.head? = some (.plain c) := by
  rcases lowers.head?_cases with ⟨none, none'⟩ | ⟨token, other, here, there, lowered⟩
  · rw [none, none']
  · rw [here, there, Option.some.injEq, Option.some.injEq]
    exact lowered.eq_plain_iff sign

theorem Lowers.head?_beq_eq (lowers : reading.Lowers tokens) {c : Char} (sign : IsSign c) :
    (tokens.head? == some (.plain c)) = (reading.tokens.head? == some (.plain c)) := by
  rw [Bool.eq_iff_iff, beq_iff_eq, beq_iff_eq]
  exact lowers.head?_eq_iff sign

/-- Both readers see a backslash at the end of the pattern or neither does. -/
theorem Lowers.head?_dangling_eq (lowers : reading.Lowers tokens) :
    (tokens.head? == some .dangling) = (reading.tokens.head? == some .dangling) := by
  rcases lowers.head?_cases with ⟨none, none'⟩ | ⟨token, other, here, there, lowered⟩
  · rw [none, none']
  · rw [here, there]
    cases lowered <;> rfl

end Reading

variable {α β γ δ : Type} {V : α → β → Prop} {W : γ → δ → Prop} {s t : Reading}
  {tokens rest : List Token} {c d : Char}

/-- Whether a step of the reader, where it succeeds, has a counterpart in the reader of the pattern in
lower case, with a value like its own. -/
def Follows (V : α → β → Prop) (step : Read α) (other : Read β) (s : Reading)
    (tokens : List Token) : Prop :=
  ∀ a t, step s = .ok (a, t) →
    ∃ b rest, other (s.onTokens tokens) = .ok (b, t.onTokens rest) ∧ V a b ∧ t.Lowers rest

/-! ## Putting steps together -/

theorem follows_pure {a : α} {b : β} (lowers : s.Lowers tokens) (alike : V a b) :
    Follows V (pure a) (pure b) s tokens := by
  rintro _ _ ⟨⟩
  exact ⟨b, tokens, rfl, alike, lowers⟩

theorem follows_throw {problem : PatternError} {other : Read β} :
    Follows V (throw problem) other s tokens := by
  rintro _ _ ⟨⟩

theorem follows_refuse {other : Read β} : Follows V refuse other s tokens :=
  follows_throw

theorem bind_apply {step : Read α} {next : α → Read β} :
    (step >>= next) s = step s >>= fun result => next result.1 result.2 :=
  rfl

/-- Two steps succeed exactly when the first does and the second does from where the first has
led. -/
theorem bind_eq_ok_iff {step : Read α} {next : α → Read β} {b : β} :
    (step >>= next) s = .ok (b, t) ↔ ∃ a u, step s = .ok (a, u) ∧ next a u = .ok (b, t) := by
  rw [bind_apply, bind_eq_ok]
  exact Prod.exists

/-- Two steps in a row follow two others if the first ones do, and the second ones do for all values
alike. -/
theorem Follows.bind {step : Read α} {other : Read β} {next : α → Read γ} {onward : β → Read δ}
    (first : Follows V step other s tokens)
    (later : ∀ a b t rest, V a b → t.Lowers rest → step s = .ok (a, t) →
      Follows W (next a) (onward b) t rest) :
    Follows W (step >>= next) (other >>= onward) s tokens := by
  intro e u ran
  obtain ⟨a, t, here, there⟩ := bind_eq_ok_iff.mp ran
  obtain ⟨b, rest, same, alike, lowers⟩ := first a t here
  obtain ⟨f, last, same', alike', lowers'⟩ := later a b t rest alike lowers here e u there
  exact ⟨f, last, bind_eq_ok_iff.mpr ⟨b, _, same, same'⟩, alike', lowers'⟩

/-- Steps whose values are alike in one way have values that are alike in a weaker one. -/
theorem Follows.mono {U : α → β → Prop} {step : Read α} {other : Read β}
    (follows : Follows V step other s tokens) (weaker : ∀ a b, V a b → U a b) :
    Follows U step other s tokens := by
  intro a t ran
  obtain ⟨b, rest, same, alike, lowers⟩ := follows a t ran
  exact ⟨b, rest, same, weaker a b alike, lowers⟩

/-- Tests that come out alike. -/
theorem follows_ite_iff {p q : Prop} [Decidable p] [Decidable q] {yes no : Read α} {yes' no' : Read β}
    (same : q ↔ p) (holds : p → Follows V yes yes' s tokens) (fails : ¬p → Follows V no no' s tokens) :
    Follows V (if p then yes else no) (if q then yes' else no') s tokens := by
  by_cases h : p
  · rw [if_pos h, if_pos (same.mpr h)]
    exact holds h
  · rw [if_neg h, if_neg (mt same.mp h)]
    exact fails h

/-- A test that both readers make. -/
theorem follows_ite {p : Prop} [Decidable p] {yes no : Read α} {yes' no' : Read β}
    (holds : p → Follows V yes yes' s tokens) (fails : ¬p → Follows V no no' s tokens) :
    Follows V (if p then yes else no) (if p then yes' else no') s tokens :=
  follows_ite_iff Iff.rfl holds fails

/-- A test after which both readers refuse or go on. -/
theorem follows_unless {p : Prop} [Decidable p] {next : Unit → Read α} {onward : Unit → Read β}
    (fails : ¬p → Follows V (next ()) (onward ()) s tokens) :
    Follows V (if p then refuse >>= next else next ()) (if p then refuse >>= onward else onward ())
      s tokens := by
  refine follows_ite (fun _ => ?_) fails
  rintro _ _ ⟨⟩

/-- A step that both readers choose alike before they go on. -/
theorem follows_ite_bind {p : Prop} [Decidable p] {yes no : Read α} {yes' no' : Read β}
    {next : α → Read γ} {onward : β → Read δ} (holds : p → Follows V yes yes' s tokens)
    (fails : ¬p → Follows V no no' s tokens)
    (later : ∀ a b t rest, V a b → t.Lowers rest → Follows W (next a) (onward b) t rest) :
    Follows W (if p then yes >>= next else no >>= next)
      (if p then yes' >>= onward else no' >>= onward) s tokens :=
  follows_ite
    (fun h => (holds h).bind fun a b t rest alike lowers _ => later a b t rest alike lowers)
    fun h => (fails h).bind fun a b t rest alike lowers _ => later a b t rest alike lowers

/-- A step that both readers may make before they go on. -/
theorem follows_when_bind {p : Prop} [Decidable p] {step other : Read Unit}
    {next : Unit → Read α} {onward : Unit → Read β} (lowers : s.Lowers tokens)
    (first : p → Follows Eq step other s tokens)
    (later : ∀ t rest, t.Lowers rest → Follows V (next ()) (onward ()) t rest) :
    Follows V (if p then step >>= next else next ()) (if p then other >>= onward else onward ()) s
      tokens :=
  follows_ite (fun h => (first h).bind fun _ _ t rest _ lowers _ => later t rest lowers)
    fun _ => later s tokens lowers

theorem follows_get_bind {next : Reading → Read α} {onward : Reading → Read β}
    (later : Follows V (next s) (onward (s.onTokens tokens)) s tokens) :
    Follows V (get >>= next) (get >>= onward) s tokens :=
  later

theorem follows_peek_bind {next : Option Token → Read α} {onward : Option Token → Read β}
    (later : Follows V (next s.tokens.head?) (onward tokens.head?) s tokens) :
    Follows V (peek >>= next) (peek >>= onward) s tokens :=
  later

/-- Taking a token returns the next one, if there is any, and goes on behind it. -/
theorem take_apply : take s = .ok (s.tokens.head?, s.onTokens s.tokens.tail) := by
  obtain ⟨tokens, widths, names, outer, conditions, letters⟩ := s
  cases tokens with
  | nil => rfl
  | cons token rest => rfl

/-- What is done after taking a token is followed if it is for this token and its counterpart. -/
theorem follows_take_bind {next : Option Token → Read α} {onward : Option Token → Read β}
    (later : Follows V (next s.tokens.head?) (onward tokens.head?) (s.onTokens s.tokens.tail)
      tokens.tail) :
    Follows V (take >>= next) (take >>= onward) s tokens := by
  intro a t ran
  rw [bind_apply, take_apply] at ran
  obtain ⟨b, rest, same, alike, lowers⟩ := later a t ran
  refine ⟨b, rest, ?_, alike, lowers⟩
  rw [bind_apply, take_apply]
  exact same

theorem follows_set {u : Reading} {others : List Token} (lowers : u.Lowers others) :
    Follows Eq (set u) (set (u.onTokens others)) s tokens := by
  rintro _ _ ⟨⟩
  exact ⟨⟨⟩, others, rfl, rfl, lowers⟩

/-- A change of the state that does not concern the tokens or the names is followed by itself. -/
theorem follows_modify {f : Reading → Reading} (lowers : s.Lowers tokens)
    (apart : ∀ others, f (s.onTokens others) = (f s).onTokens others)
    (same : (f s).tokens = s.tokens) (names : (f s).names = s.names) :
    Follows Eq (modify f) (modify f) s tokens := by
  rintro _ _ ⟨⟩
  refine ⟨⟨⟩, tokens, ?_, rfl, ?_, ?_, names.trans lowers.unnamed⟩
  · rw [← apart]
    rfl
  · rw [same]
    exact lowers.tokens
  · rw [same]
    exact lowers.kept

/-! ## Single characters -/

/-- A sign is accepted if it comes next, and nothing is taken otherwise. -/
theorem accept_apply : accept c s =
    if s.tokens.head? = some (.plain c) then .ok (true, s.onTokens s.tokens.tail)
    else .ok (false, s) := by
  have step : accept c s = (if s.tokens.head? == some (.plain c) then
      (take >>= fun _ => pure true : Read Bool) else pure false) s := rfl
  rw [step]
  by_cases here : s.tokens.head? = some (.plain c)
  · rw [if_pos here, if_pos (beq_iff_eq.mpr here), bind_apply, take_apply]
    rfl
  · rw [if_neg here, if_neg (mt beq_iff_eq.mp here)]
    rfl

/-- Both readers accept a sign or neither does. -/
theorem follows_accept (lowers : s.Lowers tokens) (sign : IsSign c) :
    Follows Eq (accept c) (accept c) s tokens := by
  have same := lowers.head?_eq_iff sign
  intro a t ran
  rw [accept_apply] at ran
  by_cases here : s.tokens.head? = some (.plain c)
  · rw [if_pos here] at ran
    cases ran
    refine ⟨true, tokens.tail, ?_, rfl, lowers.tail⟩
    rw [accept_apply]
    exact if_pos (same.mpr here)
  · rw [if_neg here] at ran
    cases ran
    refine ⟨false, tokens, ?_, rfl, lowers⟩
    rw [accept_apply]
    exact if_neg (mt same.mp here)

/-- A sign that is expected in the pattern is there in its lower-case form. -/
theorem follows_expect (lowers : s.Lowers tokens) (sign : IsSign c) :
    Follows Eq (expect c) (expect c) s tokens := by
  unfold expect
  refine (follows_accept lowers sign).bind ?_
  rintro found _ t rest rfl lowers -
  exact follows_ite (fun _ => follows_refuse) fun _ => follows_pure lowers rfl

end Pattern

end TableSearch
