import PageFilters.Main
import PageFilters.Proofs.Iteration
import PageFilters.Proofs.Outcome
import PageFilters.Proofs.Text.Cuts
import PageFilters.Proofs.Text.Hex
import PageFilters.Proofs.Html.Spans
import PageFilters.Proofs.Html.Reading
import PageFilters.Proofs.Token.Cutting
import PageFilters.Proofs.Token.Marks
import PageFilters.Proofs.Token.Streams
import PageFilters.Proofs.Token.Losslessness
import PageFilters.Proofs.Registry.Claims
import PageFilters.Proofs.Resolution.Settlement
import PageFilters.Proofs.Resolution.Protocol
import PageFilters.Proofs.Resolution.Registry
import PageFilters.Proofs.Theme.Colours
import PageFilters.Proofs.Theme.Rules
import PageFilters.Proofs.Highlight.Page
import PageFilters.Proofs.Highlight.Fidelity
import PageFilters.Proofs.Highlight.Styles
import PageFilters.Proofs.Highlight.Fallback
import PageFilters.Proofs.Scope.Changes
import PageFilters.Proofs.Scope.Memory
import PageFilters.Proofs.Text.Lines
import PageFilters.Proofs.Text.Cursor
import PageFilters.Proofs.Token.Classes
import PageFilters.Proofs.Token.Reading
import PageFilters.Proofs.Token.Lines
import PageFilters.Proofs.Token.Causality
import PageFilters.Proofs.Highlight.Answers
import PageFilters.Proofs.Output
import PageFilters.Proofs.Program.Result
import PageFilters.Proofs.Program.Failures
import PageFilters.Proofs.Program.Influence
import PageFilters.Proofs.Settings.Fields
import PageFilters.Proofs.Text.Utf8
import PageFilters.Proofs.Html.Snippet
import PageFilters.Proofs.Highlight.Slots
import PageFilters.Proofs.Token.Kinds
import PageFilters.Proofs.Token.Questions
import PageFilters.Proofs.Token.Faults
import PageFilters.Proofs.Token.Groups
import PageFilters.Proofs.Html.Marks
import PageFilters.Proofs.Registry.Contenders
import PageFilters.Proofs.Registry.Guesses
import PageFilters.Proofs.Registry.BaseNames
import PageFilters.Proofs.Grammar.Ruleless
import PageFilters.Proofs.Registry.Namesakes
import PageFilters.Proofs.FileName
import PageFilters.Proofs.Registry.Paths
import PageFilters.Proofs.Delivery
import PageFilters.Proofs.Registry.Counterparts
import PageFilters.Proofs.Registry.Newcomers
import PageFilters.Proofs.Text.Reading
import PageFilters.Proofs.Theme.Sheets
import PageFilters.Proofs.Text.Replacement
import PageFilters.Proofs.Html.Entities
import PageFilters.Proofs.Html.Unescaping
import PageFilters.Proofs.Text.Case
import PageFilters.Proofs.Avatar
import PageFilters.Proofs.Scope.Folding
import PageFilters.Proofs.Scope.Rules
import PageFilters.Proofs.Text.Boundaries
import PageFilters.Proofs.Slices
import PageFilters.Proofs.Avatar.Line
import PageFilters.Proofs.Html.Tags
