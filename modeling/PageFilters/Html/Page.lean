/-!
# The page snippet

One style element with the rules for dark and for light screens, and behind it
the fragment as it is.
-/

namespace PageFilters.Html

/-- A rule set with a line feed at its end, unless it is empty. -/
def closedSheet (css : String) : String :=
  if css.isEmpty || css.toList.getLast? == some '\n' then css else css ++ "\n"

def mediaBlock (scheme css : String) : String :=
  "@media (prefers-color-scheme: " ++ scheme ++ ") \x7b\n" ++ closedSheet css ++ "\x7d\n"

/-- Joins the two style sheets and the fragment.  A block stands there even
when its rule set is empty. -/
def assemble (dark light fragment : String) : String :=
  "<style>\n" ++ mediaBlock "dark" dark ++ mediaBlock "light" light ++ "</style>\n" ++ fragment

end PageFilters.Html
