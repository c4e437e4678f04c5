import PromptLine.Main
import PromptLine.Session.Workspace
import PromptLine.Proofs.Catalog.NewestOffer
import PromptLine.Proofs.Text.Ends
import PromptLine.Proofs.Command.Grammar
import PromptLine.Proofs.Completion.Context
import PromptLine.Proofs.Completion.Candidate
import PromptLine.Proofs.Session.Reach
import PromptLine.Proofs.Command.Canonical
import PromptLine.Proofs.Completion.Agreement
import PromptLine.Proofs.Gemini.Listing
import PromptLine.Proofs.Gemini.Outcome
import PromptLine.Proofs.Execution.History
import PromptLine.Proofs.Shell.Exit
import PromptLine.Proofs.Shell.SavedCatalog
import PromptLine.Proofs.Session.Editing
import PromptLine.Proofs.Config.Layers
import PromptLine.Proofs.Config.Precedence
import PromptLine.Proofs.Gemini.Keys
import PromptLine.Proofs.Config.Failure
import PromptLine.Proofs.Shell.Operations
import PromptLine.Proofs.Command.Spacing
import PromptLine.Proofs.Text.Lowercase
import PromptLine.Proofs.Text.Slice
import PromptLine.Proofs.Completion.Segments
import PromptLine.Proofs.Completion.Narrowing
import PromptLine.Proofs.Gemini.Naming
import PromptLine.Proofs.Execution.Truncation
import PromptLine.Proofs.Completion.Placement
import PromptLine.Proofs.Config.Influence
import PromptLine.Proofs.Catalog.Construction
import PromptLine.Proofs.Command.Marks
import PromptLine.Proofs.Config.Stack
