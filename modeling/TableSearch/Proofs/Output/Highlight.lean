import TableSearch.Output.StyledText
import TableSearch.Proofs.Search.Extent

/-! # Highlighting what a search finds

What is known of a library of styled texts is that it leaves certain characters out of a text and cuts
every range at the end of what is left (`TableSearch.StyledTexts.Lawful`).  A text whose spans wear a
style is therefore the text without these characters, and with one range for each span that is not
empty, cut at the end (`TableSearch.StyledTexts.Lawful.ranges_highlight`).  The spans that a search
finds in a cell lie in its text, but they are shown where they are only if no character in front of
their ends is left out (`TableSearch.Control.highlight_shows_iff`).
-/

namespace TableSearch

namespace StyledTexts

variable {σ : Type} {library : StyledTexts σ} {drops : Char → Bool} {shown : σ} {text style : Text}
  {spans : List Span} {s : Span} {length : Nat}

/-- The range that a span gets in a shown text of the given length, if it gets one. -/
def range? (length : Nat) (style : Text) (s : Span) : Option StyledRange :=
  if s.start < s.stop ∧ style ≠ [] ∧ s.start < length then
    some ⟨s.start, min s.stop length, style⟩
  else none

/-- What a library of styled texts does.  A text is shown without certain characters.  A range that
starts in what is shown is cut at its end, one that starts behind it is left out, and so is one in the
empty style. -/
structure Lawful (library : StyledTexts σ) (drops : Char → Bool) : Prop where
  text_make : ∀ text, library.text (library.make text) = text.filter (!drops ·)
  ranges_make : ∀ text, library.ranges (library.make text) = []
  text_stylize : ∀ shown style start stop,
    library.text (library.stylize shown style start stop) = library.text shown
  ranges_stylize : ∀ shown style (s : Span), s.start < s.stop →
    library.ranges (library.stylize shown style s.start s.stop) =
      library.ranges shown ++ (range? (library.text shown).length style s).toList

/-- The ranges of the spans that are not empty. -/
def rangesOf (spans : List Span) (style : Text) : List StyledRange :=
  (spans.filter fun s => s.start < s.stop).map fun s => ⟨s.start, s.stop, style⟩

/-- Whether a styled text shows spans of a text: those that are not empty wear the style, in order
and up to their ends, none reaches into the next one, and the text up to the end of each is shown as
it is. -/
structure Shows (library : StyledTexts σ) (shown : σ) (text : Text) (spans : List Span)
    (style : Text) : Prop where
  ranges : library.ranges shown = rangesOf spans style
  apart : (library.ranges shown).Pairwise fun first second => first.stop ≤ second.start
  kept : ∀ s ∈ spans, s.start < s.stop → (library.text shown).take s.stop = text.take s.stop

/-! ## The ranges of a highlighted text -/

theorem mem_rangesOf (member : s ∈ spans) (filled : s.start < s.stop) :
    ⟨s.start, s.stop, style⟩ ∈ rangesOf spans style :=
  List.mem_map.mpr ⟨s, List.mem_filter.mpr ⟨member, decide_eq_true filled⟩, rfl⟩

/-- The ranges of spans that lie apart do so, from left to right. -/
theorem rangesOf_pairwise (apart : Span.Apart spans) :
    (rangesOf spans style).Pairwise fun first second => first.stop ≤ second.start := by
  rw [rangesOf, List.pairwise_map]
  refine (apart.pairwise.sublist List.filter_sublist).imp ?_
  intro first second before
  exact Int.ofNat_le.mpr before.1

/-- A span inside the text that is not empty is a range of its own, if there is a style to wear. -/
theorem range?_eq_some (filled : s.start < s.stop) (styled : style ≠ []) (fits : s.stop ≤ length) :
    range? length style s = some ⟨s.start, s.stop, style⟩ := by
  have whole : min (s.stop : Int) length = s.stop := by omega
  rw [range?, if_pos ⟨filled, styled, by omega⟩, whole]

theorem range?_of_not_lt (empty : ¬s.start < s.stop) : range? length style s = none := by
  rw [range?, if_neg]
  rintro ⟨filled, -⟩
  exact empty filled

namespace Lawful

/-- The induction runs over the spans, and carries the ranges that are there already. -/
theorem foldl_stylize (lawful : library.Lawful drops) (shown : σ) :
    let after := (spans.map fun s => ((s.start : Int), (s.stop : Int))).foldl
      (fun shown span =>
        if span.1 < span.2 then library.stylize shown style span.1 span.2 else shown) shown
    library.text after = library.text shown ∧ library.ranges after =
      library.ranges shown ++ spans.filterMap (range? (library.text shown).length style) := by
  induction spans generalizing shown with
  | nil => exact ⟨rfl, (List.append_nil _).symm⟩
  | cons s rest ih =>
      rw [List.map_cons, List.foldl_cons, List.filterMap_cons]
      by_cases filled : s.start < s.stop
      · rw [if_pos (Int.ofNat_lt.mpr filled)]
        obtain ⟨text, ranges⟩ := ih (library.stylize shown style s.start s.stop)
        rw [lawful.text_stylize] at text ranges
        refine ⟨text, ranges.trans ?_⟩
        rw [lawful.ranges_stylize _ _ _ filled, List.append_assoc]
        cases range? (library.text shown).length style s <;> rfl
      · rw [if_neg (mt Int.ofNat_lt.mp filled), range?_of_not_lt filled]
        exact ih shown

/-- **Text.** A highlighted text is shown as it is without a style. -/
theorem text_highlight (lawful : library.Lawful drops) :
    library.text (library.highlight text (spans.map fun s => ((s.start : Int), (s.stop : Int))) style) =
      text.filter (!drops ·) :=
  (lawful.foldl_stylize (library.make text)).1.trans (lawful.text_make text)

/-- **Ranges.** A highlighted text has one range for each span that gets one, in order. -/
theorem ranges_highlight (lawful : library.Lawful drops) :
    library.ranges
        (library.highlight text (spans.map fun s => ((s.start : Int), (s.stop : Int))) style) =
      spans.filterMap (range? (text.filter (!drops ·)).length style) := by
  refine (lawful.foldl_stylize (library.make text)).2.trans ?_
  rw [lawful.ranges_make, lawful.text_make, List.nil_append]

end Lawful

/-! ## Characters that are not shown -/

/-- A text is shown as it is up to a place if no character in front of the place is left out. -/
theorem take_filter (inside : length ≤ text.length)
    (shows : ∀ c ∈ text.take length, drops c = false) :
    (text.filter (!drops ·)).take length = text.take length := by
  have kept : (text.take length).filter (!drops ·) = text.take length := by
    apply List.filter_eq_self.mpr
    intro c member
    rw [shows c member, Bool.not_false]
  have split : text.take length ++ text.drop length = text := List.take_append_drop length text
  calc (text.filter (!drops ·)).take length
      = ((text.take length ++ text.drop length).filter (!drops ·)).take length := by rw [split]
    _ = text.take length := by
        rw [List.filter_append, kept]
        exact List.take_left' (List.length_take_of_le inside)

/-- If leaving characters out does not change the start of a text, none of those in it is left
out. -/
theorem kept_of_take_eq {c : Char}
    (same : (text.filter (!drops ·)).take length = text.take length)
    (member : c ∈ text.take length) : drops c = false := by
  rw [← same] at member
  have shown := (List.mem_filter.mp (List.mem_of_mem_take member)).2
  rwa [Bool.not_eq_true'] at shown

/-- **Highlighting.** Spans in order that lie in a text are shown where they are if and only if they
are empty, or there is a style and no character in front of their ends is left out. -/
theorem Lawful.shows_highlight_iff (lawful : library.Lawful drops) (apart : Span.Apart spans)
    (inside : ∀ s ∈ spans, s.stop ≤ text.length) :
    library.Shows
        (library.highlight text (spans.map fun s => ((s.start : Int), (s.stop : Int))) style)
        text spans style ↔
      ∀ s ∈ spans, s.start < s.stop → style ≠ [] ∧ ∀ c ∈ text.take s.stop, drops c = false := by
  constructor
  · rintro ⟨ranges, -, kept⟩ s member filled
    rw [lawful.text_highlight] at kept
    refine ⟨?_, fun c => kept_of_take_eq (kept s member filled)⟩
    have wears : (⟨s.start, s.stop, style⟩ : StyledRange) ∈ rangesOf spans style :=
      mem_rangesOf member filled
    rw [← ranges, lawful.ranges_highlight] at wears
    obtain ⟨t, -, given⟩ := List.mem_filterMap.mp wears
    rw [range?, Option.ite_none_right_eq_some] at given
    exact given.1.2.1
  · intro shows
    have kept : ∀ s ∈ spans, s.start < s.stop →
        (text.filter (!drops ·)).take s.stop = text.take s.stop := by
      intro s member filled
      exact take_filter (inside s member) (shows s member filled).2
    have ranges : spans.filterMap (range? (text.filter (!drops ·)).length style) =
        rangesOf spans style := by
      rw [rangesOf, ← List.filterMap_eq_map, List.filterMap_filter]
      apply List.filterMap_congr
      intro s member
      by_cases filled : s.start < s.stop
      · have reaches : s.stop ≤ (text.filter (!drops ·)).length := by
          rw [← List.length_take_of_le (inside s member), ← kept s member filled]
          exact List.length_take_le' _ _
        rw [if_pos (decide_eq_true filled),
          range?_eq_some filled (shows s member filled).1 reaches]
        rfl
      · rw [range?_of_not_lt filled, if_neg (by rwa [decide_eq_true_eq])]
    rw [← lawful.ranges_highlight] at ranges
    refine ⟨ranges, ?_, ?_⟩
    · rw [ranges]
      exact rangesOf_pairwise apart
    · rwa [lawful.text_highlight]

end StyledTexts

/-! ## The library of the command line -/

namespace StyledText

variable {shown : StyledText} {style : Text} {s : Span}

/-- A styled text gets one more range for a span that is not empty, cut at the end of the text. -/
theorem stylize_span (filled : s.start < s.stop) :
    shown.stylize style s.start s.stop =
      ⟨shown.text, shown.ranges ++ (StyledTexts.range? shown.text.length style s).toList⟩ := by
  have first : ¬(s.start : Int) < 0 := by omega
  have last : ¬(s.stop : Int) < 0 := by omega
  have stays : (style.isEmpty || decide ((shown.text.length : Int) ≤ s.start) ||
      decide ((s.stop : Int) ≤ s.start)) = true ↔
        ¬(s.start < s.stop ∧ style ≠ [] ∧ s.start < shown.text.length) := by
    rw [Bool.or_eq_true, Bool.or_eq_true, List.isEmpty_iff, decide_eq_true_eq, decide_eq_true_eq]
    by_cases bare : style = []
    · simp only [bare, ne_eq, not_true_eq_false, false_and, and_false, not_false_eq_true, true_or]
    · simp only [bare, ne_eq, not_false_eq_true, true_and, false_or]
      omega
  simp only [stylize, offset, if_neg first, if_neg last, StyledTexts.range?]
  by_cases adds : s.start < s.stop ∧ style ≠ [] ∧ s.start < shown.text.length
  · rw [if_neg (mt stays.mp (not_not_intro adds)), if_pos adds]
    rfl
  · rw [if_pos (stays.mpr adds), if_neg adds, Option.toList_none, List.append_nil]

theorem text_stylize (shown : StyledText) (style : Text) (start stop : Int) :
    (shown.stylize style start stop).text = shown.text := by
  rw [stylize]
  split <;> rfl

theorem library_lawful : library.Lawful isStripped where
  text_make _ := rfl
  ranges_make _ := rfl
  text_stylize := text_stylize
  ranges_stylize _ _ _ filled := congrArg StyledText.ranges (stylize_span filled)

end StyledText

namespace Control

variable {σ : Type} {library : StyledTexts σ} {drops : Char → Bool} {env : Environment}
  {column text style : Text} {general : Bool} {control : Control} {found : SpanSet}

/-- **Cells.** The spans that a control finds in a cell lie in the text of the cell and are empty
only if the text is.  A library of styled texts shows them where they are if and only if they are
empty, or there is a style and the text in front of their ends holds none of the characters that the
library leaves out.  The literals of the control have text, without which `Term.ofLiteral` makes
none. -/
theorem highlight_shows_iff (filled : .literal [] ∉ control.terms)
    (answer : control.find env column text general = .ok (some found)) :
    (∀ s ∈ found.spans, s.start ≤ s.stop ∧ s.stop ≤ text.length ∧
        (text ≠ [] → s.start < s.stop)) ∧
      (library.Lawful drops →
        (library.Shows (library.highlight text
            (found.spans.map fun s => ((s.start : Int), (s.stop : Int))) style)
            text found.spans style ↔
          ∀ s ∈ found.spans, s.start < s.stop →
            style ≠ [] ∧ ∀ c ∈ text.take s.stop, drops c = false)) := by
  have fits := find_fits filled answer found rfl
  refine ⟨?_, fun lawful =>
    lawful.shows_highlight_iff fits.ordered fun s member => (fits.within s member).inside⟩
  intro s member
  obtain ⟨proper, inside, nonempty⟩ := fits.within s member
  exact ⟨proper, inside, fun some => nonempty (List.length_pos_of_ne_nil some)⟩

/-- Behind a carriage return, which is left out, the only match of the directive `a` is not shown. -/
theorem not_shown_of_carriage_return :
    let env : Environment := ⟨fun _ => none, fun _ _ => false⟩
    let control : Control := .term (.literal ['a'])
    let text : Text := ['b', '\r', '\n', 'a']
    let style : Text := "bold".toList
    parse env.readDate ['a'] = .ok control ∧
      control.find env [] text true = .ok (some ⟨[⟨3, 4⟩]⟩) ∧
      StyledText.library.Lawful StyledText.isStripped ∧
      StyledText.library.highlight text [(3, 4)] style = ⟨['b', '\n', 'a'], []⟩ ∧
      ¬StyledText.library.Shows (StyledText.library.highlight text [(3, 4)] style)
        text [⟨3, 4⟩] style := by
  intro env control text style
  have accepted : parse env.readDate ['a'] = .ok control := by decide +kernel
  have filled : .literal [] ∉ control.terms := literal_nil_not_mem_terms accepted
  have answer : control.find env [] text true = .ok (some ⟨[⟨3, 4⟩]⟩) := by decide +kernel
  refine ⟨accepted, answer, StyledText.library_lawful, by decide, ?_⟩
  intro shows
  obtain ⟨-, stripped⟩ :=
    ((highlight_shows_iff filled answer).2 StyledText.library_lawful).mp shows ⟨3, 4⟩
      List.mem_cons_self (by decide)
  have shown := stripped '\r' (by decide)
  revert shown
  decide

end Control

end TableSearch
