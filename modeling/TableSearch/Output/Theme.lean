import TableSearch.Output.Style

/-! # The theme

The program names the styles that it uses.
-/

namespace TableSearch

namespace Theme

/-- The named styles in words. -/
def styles : List (String × String) :=
  [("info", "cyan"), ("warning", "yellow"), ("error", "bold red"), ("success", "bold green"),
    ("path", "blue underline"), ("column.header", "bold"), ("control.node", "bold cyan"),
    ("control.value", "green"), ("control.sort", "magenta")]

/-- The style that a text names or describes; a text that does neither changes nothing. -/
def style (text : Text) : Style :=
  let words := ((styles.lookup text.toString).map String.toList).getD text
  (Style.ofText words).toOption.getD Style.plain

end Theme

end TableSearch
