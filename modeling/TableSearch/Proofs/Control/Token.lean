import TableSearch.Control.Printer
import TableSearch.Control.Token
import TableSearch.Proofs.Text.Case
import TableSearch.Proofs.Text.Join
import TableSearch.Proofs.Text.Words

/-! # Tokens survive being written

A text that is a token of some directive (`TableSearch.Text.IsToken`), written with quotes where it
needs them, is read as that one token again, whatever follows it after a blank
(`TableSearch.splitTokens_quoteToken`, `TableSearch.splitTokens_join`).

The texts that come back when they are written with blanks between them are the tokens
(`TableSearch.tokens_restored_iff`), those of a directive among them.
-/

namespace TableSearch

namespace Text

/-- Whether a text is one token: in lower case, without a double quote at its start, and without
double quotes altogether if it holds a blank. -/
structure IsToken (text : Text) : Prop where
  nonempty : text ≠ []
  lowered : ∀ c ∈ text, CharCase.IsLower c
  start : text.head? ≠ some '"'
  apart : (∀ c ∈ text, CharClass.isBlank c = false) ∨ '"' ∉ text

variable {text : Text}

theorem IsToken.lower_eq (token : text.IsToken) : text.lower = text :=
  lower_of_isLower token.lowered

theorem head?_ne_of_not_mem {c : Char} (absent : c ∉ text) : text.head? ≠ some c := by
  intro first
  exact absent (List.mem_of_mem_head? (Option.mem_def.mpr first))

/-- A token is a text in lower case without double quotes, or one without blanks that does not begin
with a double quote. -/
theorem isToken_iff :
    text.IsToken ↔ text ≠ [] ∧ text.lower = text ∧
      ('"' ∉ text ∨ (∀ c ∈ text, CharClass.isBlank c = false) ∧ text.head? ≠ some '"') := by
  constructor
  · intro token
    refine ⟨token.nonempty, token.lower_eq, ?_⟩
    rcases token.apart with solid | unquoted
    · exact .inr ⟨solid, token.start⟩
    · exact .inl unquoted
  · rintro ⟨nonempty, lower, apart⟩
    have lowered : ∀ c ∈ text, CharCase.IsLower c := by
      intro c member
      rw [← lower] at member
      exact isLower_of_mem_lower member
    rcases apart with unquoted | ⟨solid, start⟩
    · exact ⟨nonempty, lowered, head?_ne_of_not_mem unquoted, .inr unquoted⟩
    · exact ⟨nonempty, lowered, start, .inl solid⟩

end Text

namespace Token

variable {directive text rest : Text}

/-- Whether a token has the characters that a scan can give it. -/
def Proper : Token → Prop
  | quoted inside => '"' ∉ inside
  | word [] => False
  | word (c :: rest) => c ≠ '"' ∧ ∀ d ∈ c :: rest, CharClass.isBlank d = false

theorem scan_nil : scan [] = [] := by
  rw [scan]

theorem scan_quote : scan ('"' :: rest) =
    quoted (rest.takeWhile (· ≠ '"')) :: scan ((rest.dropWhile (· ≠ '"')).drop 1) := by
  rw [scan]

/-- A blank is passed over. -/
theorem scan_blank {c : Char} (blank : CharClass.isBlank c = true) : scan (c :: rest) = scan rest := by
  have apart : c ≠ '"' := by
    rintro rfl
    revert blank
    decide
  rw [scan, if_pos blank]
  exact apart

/-- Any other character begins a word that ends at the next blank. -/
theorem scan_word {c : Char} (start : c ≠ '"') (solid : CharClass.isBlank c = false) :
    scan (c :: rest) =
      word (c :: rest.takeWhile (!CharClass.isBlank ·)) ::
        scan (rest.dropWhile (!CharClass.isBlank ·)) := by
  rw [scan, solid, if_neg Bool.false_ne_true]
  exact start

/-- A scan gives only proper tokens. -/
theorem scan_proper {token : Token} (member : token ∈ scan directive) : token.Proper := by
  induction directive using scan.induct with
  | case1 =>
      rw [scan_nil] at member
      cases member
  | case2 rest ih =>
      rw [scan_quote, List.mem_cons] at member
      rcases member with same | later
      · rw [same]
        intro inside
        have differs := List.all_eq_true.mp List.all_takeWhile '"' inside
        exact of_decide_eq_true differs rfl
      · exact ih later
  | case3 c rest start blank ih =>
      rw [scan_blank blank] at member
      exact ih member
  | case4 c rest start solid ih =>
      rw [scan_word start (Bool.not_eq_true _ |>.mp solid), List.mem_cons] at member
      rcases member with same | later
      · rw [same]
        refine ⟨start, ?_⟩
        rw [List.forall_mem_cons]
        refine ⟨Bool.not_eq_true _ |>.mp solid, ?_⟩
        intro d inside
        have apart := List.all_eq_true.mp List.all_takeWhile d inside
        exact Bool.not_eq_true' _ |>.mp apart
      · exact ih later

/-- The text of a scanned token is empty or a token. -/
theorem isToken_text {token : Token} (proper : token.Proper) (nonempty : token.text ≠ []) :
    token.text.IsToken := by
  cases token with
  | quoted inside =>
      have unquoted := Text.quote_not_mem_lower proper
      exact ⟨nonempty, fun _ => Text.isLower_of_mem_lower, Text.head?_ne_of_not_mem unquoted,
        .inr unquoted⟩
  | word text =>
      cases text with
      | nil => exact proper.elim
      | cons c rest =>
          obtain ⟨start, solid⟩ := proper
          exact ⟨nonempty, fun _ => Text.isLower_of_mem_lower, Text.head?_lower_ne_quote start,
            .inl fun _ => Text.not_isBlank_of_mem_lower solid⟩

/-- A text without double quotes has only words without double quotes. -/
theorem quote_not_mem_text {token : Token} (unquoted : '"' ∉ directive)
    (member : token ∈ scan directive) : '"' ∉ token.text := by
  induction directive using scan.induct with
  | case1 =>
      rw [scan_nil] at member
      cases member
  | case2 rest ih => exact (unquoted List.mem_cons_self).elim
  | case3 c rest start blank ih =>
      rw [scan_blank blank] at member
      exact ih (fun inside => unquoted (List.mem_cons_of_mem _ inside)) member
  | case4 c rest start solid ih =>
      rw [scan_word start (Bool.not_eq_true _ |>.mp solid), List.mem_cons] at member
      rcases member with same | later
      · rw [same]
        apply Text.quote_not_mem_lower
        intro inside
        apply unquoted
        rw [List.mem_cons] at inside ⊢
        exact inside.imp_right fun taken => (List.takeWhile_sublist _).subset taken
      · refine ih (fun inside => unquoted ?_) later
        exact List.mem_cons_of_mem _ ((List.dropWhile_sublist _).subset inside)

end Token

/-- Every token of a directive is one. -/
theorem isToken_of_mem_splitTokens {directive token : Text} (member : token ∈ splitTokens directive) :
    token.IsToken := by
  obtain ⟨inside, filled⟩ := List.mem_filter.mp member
  obtain ⟨scanned, known, same⟩ := List.mem_map.mp inside
  rw [← same] at filled ⊢
  refine Token.isToken_text (Token.scan_proper known) ?_
  intro empty
  rw [empty] at filled
  cases filled

/-- A directive without double quotes has only tokens without double quotes. -/
theorem quote_not_mem_of_mem_splitTokens {directive token : Text} (unquoted : '"' ∉ directive)
    (member : token ∈ splitTokens directive) : '"' ∉ token := by
  obtain ⟨inside, -⟩ := List.mem_filter.mp member
  obtain ⟨scanned, known, rfl⟩ := List.mem_map.mp inside
  exact Token.quote_not_mem_text unquoted known

/-! ## Written tokens -/

namespace Text

variable {text rest : Text}

/-- Whether the tokens of a text do not depend on what follows after a blank. -/
def Closed (text : Text) : Prop :=
  ∀ rest, Token.scan (text ++ ' ' :: rest) = Token.scan text ++ Token.scan rest

/-- The token that a text is written as. -/
def asToken (text : Text) : Token :=
  if text.any CharClass.isBlank then .quoted text else .word text

theorem IsToken.text_asToken (token : text.IsToken) : text.asToken.text = text := by
  unfold asToken
  split
  · exact token.lower_eq
  · exact token.lower_eq

/-- A text in quotes is scanned as it is. -/
theorem scan_quoted (unquoted : '"' ∉ text) :
    Token.scan ('"' :: (text ++ '"' :: rest)) = .quoted text :: Token.scan rest := by
  have differs : ∀ c ∈ text, decide (c ≠ '"') = true := by
    intro c member
    refine decide_eq_true ?_
    rintro rfl
    exact unquoted member
  have closes : ∀ c ∈ ('"' :: rest).head?, decide (c ≠ '"') = false := by
    rintro _ ⟨⟩
    rfl
  rw [Token.scan_quote, takeWhile_append_of_ends differs closes,
    dropWhile_append_of_ends differs closes]
  rfl

/-- A text without blanks that does not begin with a quote is scanned up to the next blank. -/
theorem scan_unquoted (filled : text ≠ []) (start : text.head? ≠ some '"')
    (solid : ∀ c ∈ text, CharClass.isBlank c = false)
    (follows : rest = [] ∨ ∃ more, rest = ' ' :: more) :
    Token.scan (text ++ rest) = .word text :: Token.scan rest := by
  cases text with
  | nil => exact (filled rfl).elim
  | cons c text =>
      rw [List.forall_mem_cons] at solid
      have passes : ∀ d ∈ text, (!CharClass.isBlank d) = true := by
        intro d member
        rw [solid.2 d member]
        rfl
      have differs : c ≠ '"' := by
        rintro rfl
        exact start rfl
      have closes : ∀ d ∈ rest.head?, (!CharClass.isBlank d) = false := by
        rcases follows with rfl | ⟨more, rfl⟩
        · exact nofun
        · rintro _ ⟨⟩
          decide
      rw [List.cons_append, Token.scan_word differs solid.1, takeWhile_append_of_ends passes closes,
        dropWhile_append_of_ends passes closes]

/-- A written token is scanned as itself at the end of a text and before a blank. -/
theorem IsToken.scan_quoteToken (token : text.IsToken)
    (follows : rest = [] ∨ ∃ more, rest = ' ' :: more) :
    Token.scan (text.quoteToken ++ rest) = text.asToken :: Token.scan rest := by
  unfold quoteToken asToken
  by_cases blank : text.any CharClass.isBlank = true
  · have unquoted : '"' ∉ text := by
      rcases token.apart with solid | unquoted
      · obtain ⟨c, member, here⟩ := List.any_eq_true.mp blank
        rw [solid c member] at here
        cases here
      · exact unquoted
    rw [if_pos blank, if_pos blank, List.append_assoc, List.cons_append, List.singleton_append]
    exact scan_quoted unquoted
  · have solid : ∀ c ∈ text, CharClass.isBlank c = false := by
      intro c member
      rw [Bool.not_eq_true, List.any_eq_false] at blank
      exact Bool.not_eq_true _ |>.mp (blank c member)
    rw [if_neg blank, if_neg blank]
    exact scan_unquoted token.nonempty token.start solid follows

theorem scan_space : Token.scan (' ' :: rest) = Token.scan rest :=
  Token.scan_blank (by decide)

theorem IsToken.scan_alone (token : text.IsToken) : Token.scan text.quoteToken = [text.asToken] := by
  have scanned := token.scan_quoteToken (.inl rfl)
  rwa [List.append_nil, Token.scan_nil] at scanned

theorem IsToken.closed (token : text.IsToken) : text.quoteToken.Closed := by
  intro rest
  rw [token.scan_quoteToken (.inr ⟨rest, rfl⟩), scan_space, token.scan_alone]
  rfl

/-- Closed texts with blanks between them have the tokens of each of them. -/
theorem scan_join {texts : List Text} (closed : ∀ text ∈ texts, text.Closed) :
    (join [' '] texts).Closed ∧ Token.scan (join [' '] texts) = texts.flatMap Token.scan := by
  induction texts with
  | nil =>
      refine ⟨?_, Token.scan_nil⟩
      intro rest
      rw [join, List.nil_append, scan_space, Token.scan_nil, List.nil_append]
  | cons text texts ih =>
      rw [List.forall_mem_cons] at closed
      obtain ⟨later, split⟩ := ih closed.2
      cases texts with
      | nil =>
          refine ⟨closed.1, ?_⟩
          rw [join, List.flatMap_cons, List.flatMap_nil, List.append_nil]
      | cons next more =>
          have whole : Token.scan (join [' '] (text :: next :: more)) =
              Token.scan text ++ Token.scan (join [' '] (next :: more)) := by
            rw [join_cons (List.cons_ne_nil _ _), List.append_assoc, List.singleton_append,
              closed.1]
          refine ⟨?_, ?_⟩
          · intro rest
            rw [whole, join_cons (List.cons_ne_nil _ _), List.append_assoc, List.append_assoc,
              List.singleton_append, closed.1, later, List.append_assoc]
          · rw [whole, split]
            rfl

/-- A map to single elements leaves a list that it maps to itself as it is. -/
theorem flatMap_singletons {α : Type} {values : List α} {f : α → List α}
    (alone : ∀ value ∈ values, f value = [value]) : values.flatMap f = values := by
  induction values with
  | nil => rfl
  | cons value rest ih =>
      rw [List.forall_mem_cons] at alone
      rw [List.flatMap_cons, alone.1, ih alone.2, List.singleton_append]

end Text

/-- **Tokens.** A written token is read as that token. -/
theorem splitTokens_quoteToken {token : Text} (proper : token.IsToken) :
    splitTokens token.quoteToken = [token] := by
  rw [splitTokens, proper.scan_alone, List.map_singleton, proper.text_asToken]
  refine List.filter_cons_of_pos ?_
  rw [Bool.not_eq_true', List.isEmpty_eq_false_iff]
  exact proper.nonempty

/-- **Directives.** Texts with blanks between them have the tokens of each. -/
theorem splitTokens_join {texts : List Text} (closed : ∀ text ∈ texts, text.Closed) :
    splitTokens (Text.join [' '] texts) = texts.flatMap splitTokens := by
  rw [splitTokens, (Text.scan_join closed).2, List.map_flatMap, List.filter_flatMap]
  rfl

/-- Written tokens with blanks between them are read as those tokens. -/
theorem splitTokens_join_quoteToken {tokens : List Text}
    (proper : ∀ token ∈ tokens, token.IsToken) :
    splitTokens (Text.join [' '] (tokens.map Text.quoteToken)) = tokens := by
  have closed : ∀ text ∈ tokens.map Text.quoteToken, text.Closed := by
    rw [List.forall_mem_map]
    intro token member
    exact (proper token member).closed
  rw [splitTokens_join closed, List.flatMap_map]
  apply Text.flatMap_singletons
  intro token member
  exact splitTokens_quoteToken (proper token member)

/-- **Quoting.** The tokens of a directive, written between blanks with quotes where they need them,
are the tokens of what is written.  The lists of texts that come back from writing are those of
non-empty texts in lower case which have no double quotes, or no blanks and no double quote at the
start. -/
theorem tokens_restored_iff :
    (∀ directive, splitTokens (Text.join [' '] ((splitTokens directive).map Text.quoteToken)) =
        splitTokens directive) ∧
      ∀ tokens, splitTokens (Text.join [' '] (tokens.map Text.quoteToken)) = tokens ↔
        ∀ token ∈ tokens, token ≠ [] ∧ token.lower = token ∧
          ('"' ∉ token ∨
            (∀ c ∈ token, CharClass.isBlank c = false) ∧ token.head? ≠ some '"') := by
  constructor
  · intro directive
    apply splitTokens_join_quoteToken
    intro token member
    exact isToken_of_mem_splitTokens member
  · intro tokens
    simp only [← Text.isToken_iff]
    constructor
    · intro restored token member
      rw [← restored] at member
      exact isToken_of_mem_splitTokens member
    · exact splitTokens_join_quoteToken

end TableSearch
