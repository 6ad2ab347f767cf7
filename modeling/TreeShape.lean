import TreeShape.Program.Machine
import TreeShape.Proofs.Activity.Runs
import TreeShape.Proofs.Raising
import TreeShape.Proofs.Replay.Exactness
import TreeShape.Proofs.Shape.Refinement
import TreeShape.Proofs.Activity.Positions
import TreeShape.Proofs.Ways
import TreeShape.Proofs.Activity.Attempts
import TreeShape.Proofs.Checks.Visits
import TreeShape.Proofs.Checks.Patterns
import TreeShape.Proofs.Reports.Violations
import TreeShape.Proofs.Dumps.Lockstep
import TreeShape.Proofs.Attributes.Exactness
import TreeShape.Proofs.Registry.Rebuilding
import TreeShape.Proofs.Outlines.Faithful
import TreeShape.Proofs.Shape.Deciding
import TreeShape.Proofs.Shape.Supertypes
import TreeShape.Proofs.Shape.Loosening
import TreeShape.Proofs.Activity.Reentry
import TreeShape.Proofs.Attributes.Expressions
import TreeShape.Proofs.Attributes.Holders
import TreeShape.Proofs.Places
import TreeShape.Proofs.Outlines.Branches
import TreeShape.Proofs.Layout.Pieces
import TreeShape.Proofs.Layout.Nesting
import TreeShape.Proofs.Layout.Limits
import TreeShape.Proofs.Navigation.Siblings
import TreeShape.Proofs.Configs.Copies
