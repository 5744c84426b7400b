import TableSearch.Proofs.Pattern.Members

/-! # A pattern put in lower case

A pattern that says nothing about letter case is read alike in lower case: by induction on the rounds
of the reader, each of its parts becomes one that matches alike (`TableSearch.Pattern.readAlike`).
The two patterns find the same in every text (`TableSearch.Pattern.exists_lower`).
-/

namespace TableSearch

namespace Pattern

open CharCase

variable {s t : Reading} {tokens rest : List Token} {c d : Char} {mode : Mode} {fuel : Nat}

/-! ## Parts -/

/-- A sequence of parts that match alike does so, too. -/
theorem sequence_alike {items others : List Item} (parts : List.Forall₂ Item.Alike items others) :
    (sequence items).Alike (sequence others) := by
  refine .ofList ?_
  rw [List.forall₂_map_left_iff, List.forall₂_map_right_iff, List.forall₂_reverse_iff]
  exact parts.imp fun _ _ alike => alike.node

/-- A character and what it becomes match alike where letters are compared without their case. -/
theorem item_alike (folded : mode.caseRule = .folded) (becomes : Becomes c d) :
    (Item.char mode (.one c.toNat)).Alike (Item.char mode (.one d.toNat)) := by
  rw [Item.char, Item.char, folded]
  refine ⟨.char fun _ => CharSet.accepts_eq (.cons ?_ .nil), rfl⟩
  exact (ReadsAs.plain becomes).alike

theorem Item.Alike.refl (item : Item) : item.Alike item :=
  ⟨.refl _, rfl⟩

/-- Lower-casing makes no character layout, and no layout anything else. -/
theorem isLayout_eq (becomes : Becomes c d) : isLayout d = isLayout c := by
  refine becomes.class_eq fun b layout => ?_
  rw [isLayout, Bool.or_eq_true, Bool.and_eq_true, beq_iff_eq, decide_eq_true_eq,
    decide_eq_true_eq] at layout
  rcases layout with rfl | ⟨-, high⟩
  · decide
  · omega

/-- Whether a character may repeat the part of a sequence before it. -/
def isQuantifier (c : Char) : Bool :=
  c = '?' || c = '*' || c = '+' || c = '\x7b'

theorem isLower_of_isQuantifier (quantifier : isQuantifier c = true) : IsLower c := by
  simp only [isQuantifier, Bool.or_eq_true, decide_eq_true_eq] at quantifier
  rcases quantifier with ((rfl | rfl) | rfl) | rfl <;> decide

/-- Lower-casing makes no character a sign that may repeat, and no such sign anything else. -/
theorem isQuantifier_eq (becomes : Becomes c d) : isQuantifier d = isQuantifier c := by
  have sign : ∀ {sign : Char}, IsSign sign → decide (d = sign) = decide (c = sign) :=
    fun known => decide_eq_decide.mpr (becomes.eq_iff known)
  rw [isQuantifier, isQuantifier, sign (by decide), sign (by decide), sign (by decide),
    sign (by decide)]

/-- A part of a sequence is read by its first token. -/
theorem follows_part {α β : Type} {V : α → β → Prop} {stop fail : Read α} {stop' fail' : Read β}
    {escaped plain : Char → Read α} {escaped' plain' : Char → Read β} (lowers : s.Lowers tokens)
    (stops : Follows V stop stop' s tokens) (fails : Follows V fail fail' s tokens)
    (escapes : ∀ c, s.tokens.head? = some (.escaped c) →
      Follows V (escaped c) (escaped' c) s tokens)
    (goes : ∀ c d, Becomes c d → s.tokens.head? = some (.plain c) →
      Follows V (plain c) (plain' d) s tokens) :
    Follows V
      (match s.tokens.head? with
        | none | some (.plain '|') | some (.plain ')') => stop
        | some .dangling => fail
        | some (.escaped c) => escaped c
        | some (.plain c) => plain c)
      (match tokens.head? with
        | none | some (.plain '|') | some (.plain ')') => stop'
        | some .dangling => fail'
        | some (.escaped c) => escaped' c
        | some (.plain c) => plain' c) s tokens := by
  rcases lowers.head?_cases with ⟨none, none'⟩ | ⟨token, other, here, there, lowered⟩
  · rw [none, none']
    exact stops
  rw [here, there]
  cases lowered with
  | dangling => exact fails
  | escaped => exact escapes _ here
  | @plain c d becomes =>
      have bar : d = '|' ↔ c = '|' := becomes.eq_iff (by decide)
      have close : d = ')' ↔ c = ')' := becomes.eq_iff (by decide)
      by_cases atBar : c = '|'
      · rw [atBar, bar.mpr atBar]
        exact stops
      by_cases atClose : c = ')'
      · rw [atClose, close.mpr atClose]
        exact stops
      have plainly : ∀ {γ : Type} {stop fail : γ} {escaped plain : Char → γ} {c : Char}, c ≠ '|' →
          c ≠ ')' → (match some (Token.plain c) with
            | none | some (.plain '|') | some (.plain ')') => stop
            | some .dangling => fail
            | some (.escaped c) => escaped c
            | some (.plain c) => plain c) = plain c := by
        intro γ stop fail escaped plain c atBar atClose
        split <;> simp_all
      rw [plainly atBar atClose, plainly (mt bar.mp atBar) (mt close.mp atClose)]
      exact goes c d becomes here

/-- A group goes on with a character. -/
theorem follows_plain {α β : Type} {V : α → β → Prop} {plain : Char → Read α}
    {plain' : Char → Read β} (lowers : s.Lowers tokens) {u : Reading} {others : List Token}
    (goes : ∀ c d, Becomes c d → s.tokens.head? = some (.plain c) →
      Follows V (plain c) (plain' d) u others) :
    Follows V
      (match s.tokens.head? with
        | some (.plain c) => plain c
        | _ => refuse)
      (match tokens.head? with
        | some (.plain c) => plain' c
        | _ => refuse) u others := by
  rcases lowers.head?_cases with ⟨none, none'⟩ | ⟨token, other, here, there, lowered⟩
  · rw [none, none']
    exact follows_refuse
  rw [here, there]
  cases lowered with
  | dangling => exact follows_refuse
  | escaped => exact follows_refuse
  | plain becomes => exact goes _ _ becomes here

/-! ## Modes -/

theorem caseRule_eq_folded_iff :
    mode.caseRule = .folded ↔ mode.ignoreCase = true ∧ mode.ascii = false := by
  obtain ⟨ignoreCase, multiLine, dotAll, spread, ascii⟩ := mode
  cases ignoreCase <;> cases ascii <;> simp [Mode.caseRule]

/-- Mode letters that do not turn on the ASCII comparison keep the comparison without case. -/
theorem withLetters_folded {on : List ModeLetter} (full : ModeLetter.ascii ∉ on)
    (folded : mode.caseRule = .folded) : (withLetters mode on []).caseRule = .folded := by
  induction on generalizing mode with
  | nil => exact folded
  | cons letter on ih =>
      rw [List.mem_cons, not_or] at full
      refine ih full.2 ?_
      rw [caseRule_eq_folded_iff] at folded ⊢
      cases letter with
      | ascii => exact (full.1 rfl).elim
      | ignoreCase => exact ⟨rfl, folded.2⟩
      | unicode => exact ⟨folded.1, rfl⟩
      | multiLine => exact folded
      | dotAll => exact folded
      | template => exact folded
      | spread => exact folded

/-- No group has a capital letter behind its question mark, but the one that has a name or refers to
one. -/
theorem readExtension_refuses (unnamed : c ≠ 'P') (capital : ¬IsLower c) :
    readExtension mode c fuel = refuse := by
  have other : ∀ sign, IsLower sign → c ≠ sign := by
    rintro sign known rfl
    exact capital known
  cases fuel with
  | zero => rfl
  | succ fuel =>
      rw [readExtension, if_neg (other ':' (by decide)), if_neg (other '>' (by decide)),
        if_neg (other '=' (by decide)), if_neg (other '!' (by decide)),
        if_neg (other '<' (by decide)), if_neg unnamed, if_neg (other '(' (by decide))]

/-- What a reader does with a group that looks to the left. -/
def readLookBehind (mode : Mode) (fuel : Nat) : Read Node := do
  let positive ← accept '='
  if !positive then expect '!'
  let before := (← get).outerGroups
  modify fun reading => { reading with outerGroups := before.or (some reading.widths.size) }
  let body ← readChoice mode false fuel
  modify fun reading => { reading with outerGroups := before }
  expect ')'
  return .behind (!positive) body.width body

/-- What a reader does with a choice by whether a group has matched. -/
def readConditional (mode : Mode) (fuel : Nat) : Read Node := do
  let group ← readCondition
  let (yes, _) ← readSequence mode false [] fuel
  let no ←
    if ← accept '|' then
      let (no, _) ← readSequence mode false [] fuel
      pure no
    else pure Node.empty
  expect ')'
  return .choose group yes no

/-- What a reader of a sequence does with the character behind the question mark of a group. -/
def readMarked (mode : Mode) (outermost : Bool) (items : List Item) (fuel : Nat) (c : Char) :
    Read (Node × Mode) := do
  if c = '#' then
    skipComment ')' true
    readSequence mode outermost items fuel
  else if c = '-' || (ModeLetter.ofChar? c).isSome then
    match ← readModeHead c with
    | (on, none) =>
      if !outermost || !items.isEmpty then refuse
      modify fun reading => { reading with letters := on ++ reading.letters }
      readSequence (withLetters mode on []) outermost items fuel
    | (on, some off) =>
      let body ← readBody (withLetters mode on off) fuel
      readSequence mode outermost (⟨body, .other⟩ :: items) fuel
  else
    let node ← readExtension mode c fuel
    readSequence mode outermost (⟨node, .other⟩ :: items) fuel

/-- What a reader of a sequence does behind an opening parenthesis. -/
def readGroup (mode : Mode) (outermost : Bool) (items : List Item) (fuel : Nat) :
    Read (Node × Mode) := do
  if ← accept '?' then
    match ← take with
    | some (.plain c) => readMarked mode outermost items fuel c
    | _ => refuse
  else
    let node ← readCapture mode none fuel
    readSequence mode outermost (⟨node, .other⟩ :: items) fuel

/-- What a reader of a sequence does with a sign that may repeat the part before it. -/
def readRepeated (mode : Mode) (outermost : Bool) (items : List Item) (fuel : Nat) (c : Char) :
    Read (Node × Mode) := do
  match ← readBounds c with
  | some bounds => readSequence mode outermost (← repeatLast bounds items) fuel
  | none => readSequence mode outermost (Item.char mode (.one c.toNat) :: items) fuel

/-- The head of a group that is kept is behind its question mark. -/
theorem keepsHead_of_accept (kept : Token.Keeps (.plain '(' :: s.tokens))
    (ran : accept '?' s = .ok (true, t)) (here : t.tokens.head? = some (.plain c)) :
    Token.keepsHead (.plain c :: t.tokens.tail) = true := by
  rw [accept_apply] at ran
  by_cases mark : s.tokens.head? = some (.plain '?')
  · rw [if_pos mark] at ran
    cases ran
    obtain ⟨after, same⟩ := List.head?_eq_some_iff.mp mark
    obtain ⟨more, same'⟩ := List.head?_eq_some_iff.mp here
    rw [same', List.tail_cons]
    rw [Reading.tokens_onTokens, same, List.tail_cons] at same'
    rw [same, same'] at kept
    exact kept.heads _ (List.suffix_refl _)
  · rw [if_neg mark] at ran
    cases ran

/-! ## Reading alike -/

/-- Whether two readers of a sequence return patterns that match alike and leave the same mode, in
which letters are compared without their case. -/
structure SequenceAlike (result other : Node × Mode) : Prop where
  node : result.1.Alike other.1
  mode : other.2 = result.2
  folded : result.2.caseRule = .folded

/-- Whether all parts of a pattern are read alike within a number of rounds. -/
structure ReadAlike (fuel : Nat) : Prop where
  choice : ∀ {mode : Mode} {outermost : Bool} {s : Reading} {tokens : List Token},
    mode.caseRule = .folded → s.Lowers tokens →
      Follows Node.Alike (readChoice mode outermost fuel) (readChoice mode outermost fuel) s tokens
  sequence : ∀ {mode : Mode} {outermost : Bool} {items others : List Item} {s : Reading}
    {tokens : List Token}, mode.caseRule = .folded → List.Forall₂ Item.Alike items others →
      s.Lowers tokens → Follows SequenceAlike (readSequence mode outermost items fuel)
        (readSequence mode outermost others fuel) s tokens
  body : ∀ {mode : Mode} {s : Reading} {tokens : List Token},
    mode.caseRule = .folded → s.Lowers tokens →
      Follows Node.Alike (readBody mode fuel) (readBody mode fuel) s tokens
  capture : ∀ {mode : Mode} {s : Reading} {tokens : List Token},
    mode.caseRule = .folded → s.Lowers tokens →
      Follows Node.Alike (readCapture mode none fuel) (readCapture mode none fuel) s tokens
  extension : ∀ {mode : Mode} {c d : Char} {s : Reading} {tokens : List Token},
    mode.caseRule = .folded → Becomes c d → c ≠ 'P' → s.Lowers tokens →
      Follows Node.Alike (readExtension mode c fuel) (readExtension mode d fuel) s tokens

theorem readAlike_zero : ReadAlike 0 where
  choice _ _ := follows_refuse
  sequence _ _ _ := follows_refuse
  body _ _ := follows_refuse
  capture _ _ := follows_refuse
  extension _ _ _ _ := follows_refuse

namespace ReadAlike

/-- A choice is read alike with one round more: its first sequence, and then the rest of the
choice. -/
theorem choice_succ (alike : ReadAlike fuel) {outermost : Bool} (folded : mode.caseRule = .folded)
    (lowers : s.Lowers tokens) :
    Follows Node.Alike (readChoice mode outermost (fuel + 1))
      (readChoice mode outermost (fuel + 1)) s tokens := by
  unfold readChoice
  refine (alike.sequence folded .nil lowers).bind ?_
  rintro ⟨first, mode⟩ ⟨other, _⟩ t rest ⟨node, rfl, folded⟩ lowers -
  refine (follows_accept lowers (by decide)).bind ?_
  rintro more _ u rest rfl lowers -
  refine follows_ite (fun _ => ?_) fun _ => follows_pure lowers node
  refine (alike.choice folded lowers).bind ?_
  intro second second' v rest later lowers _
  exact follows_pure lowers (node.alt later)

/-- The body of a group is read alike with one round more, up to the parenthesis that closes the
group. -/
theorem body_succ (alike : ReadAlike fuel) (folded : mode.caseRule = .folded)
    (lowers : s.Lowers tokens) :
    Follows Node.Alike (readBody mode (fuel + 1)) (readBody mode (fuel + 1)) s tokens := by
  unfold readBody
  refine (alike.choice folded lowers).bind ?_
  intro body other t rest node lowers _
  refine (follows_expect lowers (by decide)).bind ?_
  rintro _ _ u rest - lowers -
  exact follows_pure lowers node

/-- A group is read alike with one round more: it gets the same number, since groups are counted
alike. -/
theorem capture_succ (alike : ReadAlike fuel) (folded : mode.caseRule = .folded)
    (lowers : s.Lowers tokens) :
    Follows Node.Alike (readCapture mode none (fuel + 1)) (readCapture mode none (fuel + 1)) s
      tokens := by
  unfold readCapture
  refine (follows_openGroup lowers).bind ?_
  rintro group _ t rest rfl lowers -
  refine (alike.body folded lowers).bind ?_
  intro body other u rest node lowers _
  refine (follows_closeGroup node lowers).bind ?_
  rintro _ _ v rest - lowers -
  exact follows_pure lowers (node.capture group)

/-- A group around a body is read alike if the bodies make alike groups. -/
theorem body_map (alike : ReadAlike fuel) (folded : mode.caseRule = .folded)
    (lowers : s.Lowers tokens) {make : Node → Node}
    (keeps : ∀ {node other : Node}, node.Alike other → (make node).Alike (make other)) :
    Follows Node.Alike (readBody mode fuel >>= fun body => pure (make body))
      (readBody mode fuel >>= fun body => pure (make body)) s tokens := by
  refine (alike.body folded lowers).bind ?_
  intro body other t rest node lowers _
  exact follows_pure lowers (keeps node)

/-- A part that looks to the left is read alike: patterns that match alike are of the same width. -/
theorem lookBehind (alike : ReadAlike fuel) (folded : mode.caseRule = .folded)
    (lowers : s.Lowers tokens) :
    Follows Node.Alike (readLookBehind mode fuel) (readLookBehind mode fuel) s tokens := by
  unfold readLookBehind
  refine (follows_accept lowers (by decide)).bind ?_
  rintro positive _ t rest rfl lowers -
  refine follows_when_bind lowers (fun _ => follows_expect lowers (by decide)) ?_
  intro u rest lowers
  refine follows_get_bind ?_
  refine (follows_modify lowers (fun _ => rfl) rfl rfl).bind ?_
  rintro _ _ v rest - lowers -
  refine (alike.choice folded lowers).bind ?_
  intro body other w rest node lowers _
  refine (follows_modify lowers (fun _ => rfl) rfl rfl).bind ?_
  rintro _ _ x rest - lowers -
  refine (follows_expect lowers (by decide)).bind ?_
  rintro _ _ y rest - lowers -
  exact follows_pure lowers (node.behind _)

/-- A choice by a group is read alike: the number of the group has no letters. -/
theorem conditional (alike : ReadAlike fuel) (folded : mode.caseRule = .folded)
    (lowers : s.Lowers tokens) :
    Follows Node.Alike (readConditional mode fuel) (readConditional mode fuel) s tokens := by
  unfold readConditional
  refine (follows_readCondition lowers).bind ?_
  rintro group _ t rest rfl lowers -
  refine (alike.sequence folded .nil lowers).bind ?_
  rintro ⟨yes, _⟩ ⟨yes', _⟩ u rest ⟨yesAlike, -, -⟩ lowers -
  refine (follows_accept lowers (by decide)).bind ?_
  rintro more _ v rest rfl lowers -
  have closing : ∀ {no no' : Node} {w : Reading} {rest : List Token}, no.Alike no' → w.Lowers rest →
      Follows Node.Alike (expect ')' >>= fun _ => pure (.choose group yes no))
        (expect ')' >>= fun _ => pure (.choose group yes' no')) w rest := by
    intro no no' w rest noAlike lowers
    refine (follows_expect lowers (by decide)).bind ?_
    rintro _ _ x rest - lowers -
    exact follows_pure lowers (yesAlike.choose group noAlike)
  refine follows_ite (fun _ => ?_) fun _ => closing (.refl _) lowers
  refine (alike.sequence folded .nil lowers).bind ?_
  rintro ⟨no, _⟩ ⟨no', _⟩ w rest ⟨noAlike, -, -⟩ lowers -
  exact closing noAlike lowers

/-- A group with a question mark is read alike with one round more, by the sign behind the mark. -/
theorem extension_succ (alike : ReadAlike fuel) (folded : mode.caseRule = .folded)
    (becomes : Becomes c d) (unnamed : c ≠ 'P') (lowers : s.Lowers tokens) :
    Follows Node.Alike (readExtension mode c (fuel + 1)) (readExtension mode d (fuel + 1)) s
      tokens := by
  have sign : ∀ {sign : Char}, IsSign sign → (d = sign ↔ c = sign) := becomes.eq_iff
  have unnamed' : d ≠ 'P' := by
    rintro rfl
    exact absurd becomes.isLower (by decide)
  unfold readExtension
  refine follows_ite_iff (sign (by decide)) (fun _ => alike.body folded lowers) fun _ => ?_
  refine follows_ite_iff (sign (by decide)) (fun _ => alike.body_map folded lowers .atomic)
    fun _ => ?_
  refine follows_ite_iff (sign (by decide)) (fun _ => alike.body_map folded lowers (.ahead false))
    fun _ => ?_
  refine follows_ite_iff (sign (by decide)) (fun _ => alike.body_map folded lowers (.ahead true))
    fun _ => ?_
  refine follows_ite_iff (sign (by decide)) (fun _ => alike.lookBehind folded lowers) fun _ => ?_
  rw [if_neg unnamed, if_neg unnamed']
  exact follows_ite_iff (sign (by decide)) (fun _ => alike.conditional folded lowers)
    fun _ => follows_refuse

/-- A group goes on alike behind its question mark. -/
theorem marked (alike : ReadAlike fuel) {outermost : Bool} {items others : List Item}
    (folded : mode.caseRule = .folded) (parts : List.Forall₂ Item.Alike items others)
    (becomes : Becomes c d) (head : Token.keepsHead (.plain c :: s.tokens) = true)
    (lowers : s.Lowers tokens) :
    Follows SequenceAlike (readMarked mode outermost items fuel c)
      (readMarked mode outermost others fuel d) s tokens := by
  have unnamed : c ≠ 'P' := by
    rintro rfl
    cases head
  unfold readMarked
  refine follows_ite_iff (becomes.eq_iff (by decide)) (fun _ => ?_) fun _ => ?_
  · refine (follows_skipComment lowers (by decide)).bind ?_
    rintro _ _ u rest - lowers -
    exact alike.sequence folded parts lowers
  by_cases lower : IsLower c
  · rw [becomes.eq_of_isLower lower]
    refine follows_ite (fun _ => ?_) fun _ => ?_
    · refine (follows_readModeHead lowers (.of_isLower lower) head).bind ?_
      rintro ⟨on, off⟩ _ u rest ⟨rfl, full, same | same⟩ lowers -
      · obtain rfl : off = none := same
        have empty : others.isEmpty = items.isEmpty := by
          cases parts <;> rfl
        rw [empty]
        refine follows_unless fun _ => ?_
        refine (follows_modify lowers (fun _ => rfl) rfl rfl).bind ?_
        rintro _ _ v rest - lowers -
        exact alike.sequence (withLetters_folded full folded) parts lowers
      · obtain rfl : off = some [] := same
        refine (alike.body (withLetters_folded full folded) lowers).bind ?_
        intro node other v rest node lowers _
        exact alike.sequence folded (.cons ⟨node, rfl⟩ parts) lowers
    · refine (alike.extension folded (.of_isLower lower) unnamed lowers).bind ?_
      intro node other u rest node lowers _
      exact alike.sequence folded (.cons ⟨node, rfl⟩ parts) lowers
  · -- A capital begins no group, although its small form may.
    rw [readExtension_refuses unnamed lower, if_neg]
    · rintro _ _ ⟨⟩
    · rw [Bool.or_eq_true, decide_eq_true_eq, Option.isSome_iff_exists]
      rintro (rfl | ⟨letter, known⟩)
      · exact lower (by decide)
      · exact lower (isLower_of_ofChar? known)

/-- A sequence is read alike from an opening parenthesis on: behind a question mark by `marked`, or
else as a group that captures. -/
theorem group (alike : ReadAlike fuel) {outermost : Bool} {items others : List Item}
    (folded : mode.caseRule = .folded) (parts : List.Forall₂ Item.Alike items others)
    (kept : Token.Keeps (.plain '(' :: s.tokens)) (lowers : s.Lowers tokens) :
    Follows SequenceAlike (readGroup mode outermost items fuel)
      (readGroup mode outermost others fuel) s tokens := by
  unfold readGroup
  refine (follows_accept lowers (by decide)).bind ?_
  rintro extended _ t rest rfl lowers ran
  refine follows_ite (fun extended => ?_) fun _ => ?_
  · subst extended
    refine follows_take_bind (follows_plain lowers ?_)
    intro c d becomes here
    exact alike.marked folded parts becomes (keepsHead_of_accept kept ran here) lowers.tail
  · refine (alike.capture folded lowers).bind ?_
    intro node other u rest node lowers _
    exact alike.sequence folded (.cons ⟨node, rfl⟩ parts) lowers

/-- A sequence is read alike from a sign on that may repeat the part before it. -/
theorem repeated (alike : ReadAlike fuel) {outermost : Bool} {items others : List Item}
    (folded : mode.caseRule = .folded) (parts : List.Forall₂ Item.Alike items others)
    (lowers : s.Lowers tokens) :
    Follows SequenceAlike (readRepeated mode outermost items fuel c)
      (readRepeated mode outermost others fuel c) s tokens := by
  unfold readRepeated
  refine (follows_readBounds lowers).bind ?_
  rintro bounds _ t rest rfl lowers -
  cases bounds with
  | none => exact alike.sequence folded (.cons (.refl _) parts) lowers
  | some bounds =>
      refine (follows_repeatLast parts lowers).bind ?_
      intro items others u rest parts lowers _
      exact alike.sequence folded parts lowers

/-- A sequence is read alike with one round more. Whatever its next token begins (an escape, layout
or a comment in spread mode, a character set, an anchor, a repetition, a group or a plain character)
is followed by its counterpart, and then the rest of the sequence is read alike with the rounds that
are left. -/
theorem sequence_succ (alike : ReadAlike fuel) {outermost : Bool} {items others : List Item}
    (folded : mode.caseRule = .folded) (parts : List.Forall₂ Item.Alike items others)
    (lowers : s.Lowers tokens) :
    Follows SequenceAlike (readSequence mode outermost items (fuel + 1))
      (readSequence mode outermost others (fuel + 1)) s tokens := by
  unfold readSequence
  refine follows_peek_bind (follows_part lowers ?_ follows_refuse ?_ ?_)
  · exact follows_pure lowers ⟨sequence_alike parts, rfl, folded⟩
  · intro c _
    refine follows_take_bind ?_
    refine (follows_readEscape lowers.tail).bind ?_
    rintro item _ t rest rfl lowers -
    exact alike.sequence folded (.cons (.refl _) parts) lowers
  intro c d becomes here
  have sign : ∀ {sign : Char}, IsSign sign → (d = sign ↔ c = sign) := becomes.eq_iff
  obtain ⟨after, same⟩ := List.head?_eq_some_iff.mp here
  have tail : (s.onTokens s.tokens.tail).tokens = after := by
    rw [Reading.tokens_onTokens, same, List.tail_cons]
  -- What is kept is known of the tokens from this one on; a group has to look at its own sign.
  have kept := lowers.kept
  rw [same, ← tail] at kept
  refine follows_take_bind ?_
  replace lowers := lowers.tail
  generalize s.onTokens s.tokens.tail = s at lowers kept ⊢
  generalize tokens.tail = tokens at lowers ⊢
  clear same tail after
  -- What is done next depends on signs, and a character becomes a sign only if it is that sign.
  refine follows_ite_iff (by rw [isLayout_eq becomes])
    (fun _ => alike.sequence folded parts lowers) fun _ => ?_
  refine follows_ite_iff (by rw [decide_eq_decide.mpr (sign (by decide))])
    (fun _ => ?_) fun _ => ?_
  · refine (follows_skipComment lowers (by decide)).bind ?_
    rintro _ _ t rest - lowers -
    exact alike.sequence folded parts lowers
  refine follows_ite_iff (sign (by decide)) (fun bracket => ?_) fun _ => ?_
  · subst bracket
    refine (follows_readSet folded lowers (kept.ranges _ (List.suffix_refl _))).bind ?_
    intro item other t rest set lowers _
    exact alike.sequence folded (.cons set parts) lowers
  refine follows_ite_iff (sign (by decide)) (fun _ => ?_) fun _ => ?_
  · exact alike.sequence folded (.cons (.refl _) parts) lowers
  refine follows_ite_iff (sign (by decide)) (fun _ => ?_) fun _ => ?_
  · exact alike.sequence folded (.cons (.refl _) parts) lowers
  refine follows_ite_iff (sign (by decide)) (fun _ => ?_) fun _ => ?_
  · exact alike.sequence folded (.cons (.refl _) parts) lowers
  refine follows_ite_iff (Bool.eq_iff_iff.mp (isQuantifier_eq becomes)) (fun quantifier => ?_)
    fun _ => ?_
  · rw [becomes.eq_of_isLower (isLower_of_isQuantifier quantifier)]
    exact alike.repeated folded parts lowers
  refine follows_ite_iff (sign (by decide)) (fun paren => ?_) fun _ => ?_
  · subst paren
    exact alike.group folded parts kept lowers
  exact alike.sequence folded (.cons (item_alike folded becomes) parts) lowers

theorem succ (alike : ReadAlike fuel) : ReadAlike (fuel + 1) where
  choice := alike.choice_succ
  sequence := alike.sequence_succ
  body := alike.body_succ
  capture := alike.capture_succ
  extension := alike.extension_succ

end ReadAlike

theorem readAlike (fuel : Nat) : ReadAlike fuel := by
  induction fuel with
  | zero => exact readAlike_zero
  | succ fuel ih => exact ih.succ

/-! ## Patterns -/

/-- A pattern that says nothing about letter case compiles in lower case as well, to one that
matches alike. -/
theorem exists_compile_lower {source : Text} {node : Node} (caseless : IsCaseless source)
    (compiled : compile source = .ok node) :
    ∃ other, compile source.lower = .ok other ∧ node.Alike other := by
  have lowered : List.Forall₂ Token.Lowers (Token.ofText source) (Token.ofText source.lower) :=
    lowers_ofText (Text.forall₂_becomes caseless.undotted) caseless.escapes
  have start : (⟨Token.ofText source, #[none], [], none, [], []⟩ : Reading).Lowers
      (Token.ofText source.lower) := ⟨lowered, caseless.kept, rfl⟩
  unfold compile at compiled ⊢
  obtain ⟨⟨found, reading⟩, ran, checked⟩ := bind_eq_ok.mp compiled
  obtain ⟨other, rest, ran', alike, later⟩ := (readAlike _).choice rfl start found reading ran
  have empty : rest.isEmpty = reading.tokens.isEmpty := by
    have pairs := later.tokens
    generalize reading.tokens = ours at pairs
    cases pairs <;> rfl
  dsimp only at checked
  split at checked
  · cases checked
  rename_i modes
  split at checked
  · cases checked
  rename_i ended
  split at checked
  · cases checked
  rename_i conditions
  split at checked
  · cases checked
  rename_i fixed
  split at checked
  · cases checked
  rename_i template
  cases checked
  refine ⟨other, bind_eq_ok.mpr ⟨(other, reading.onTokens rest), ?_, ?_⟩, alike⟩
  · rw [← lowered.length_eq]
    exact ran'
  · have kept : ¬(!other.looksBackFixed) = true := by rwa [alike.looksBackFixed_eq]
    have unrepeated : ¬(reading.letters.contains .template && other.repeats) = true := by
      rwa [alike.repeats_eq]
    have stopped : ¬(!rest.isEmpty) = true := by rwa [empty]
    exact (if_neg modes).trans ((if_neg stopped).trans ((if_neg conditions).trans
      ((if_neg kept).trans (if_neg unrepeated))))

/-- A pattern that says nothing about letter case finds the same in lower case. -/
theorem exists_lower (p : Pattern) (caseless : IsCaseless p.source) :
    ∃ q : Pattern, q.source = p.source.lower ∧ ∀ text, q.node.findAll text = p.node.findAll text := by
  obtain ⟨other, compiled, alike⟩ := exists_compile_lower caseless p.compiled
  exact ⟨⟨p.source.lower, other, compiled⟩, rfl, alike.findAll_eq⟩

end Pattern

end TableSearch
