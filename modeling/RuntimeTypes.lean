import RuntimeTypes.Class.Ancestry
import RuntimeTypes.Class.Hierarchy
import RuntimeTypes.Class.Lineage
import RuntimeTypes.Class.Registry
import RuntimeTypes.Document
import RuntimeTypes.Error
import RuntimeTypes.Heap.Basic
import RuntimeTypes.Heap.Caller
import RuntimeTypes.Identity.Encode
import RuntimeTypes.Identity.Equal
import RuntimeTypes.Identity.Nested
import RuntimeTypes.Kind
import RuntimeTypes.Matching.Accepts
import RuntimeTypes.Matching.Check
import RuntimeTypes.Matching.Selection
import RuntimeTypes.Name
import RuntimeTypes.Proofs.Canonical
import RuntimeTypes.Proofs.Classification
import RuntimeTypes.Proofs.Codes
import RuntimeTypes.Proofs.Counter
import RuntimeTypes.Proofs.Defaults
import RuntimeTypes.Proofs.EqualUpdates
import RuntimeTypes.Proofs.Equality
import RuntimeTypes.Proofs.Grammar
import RuntimeTypes.Proofs.IdentityKeys
import RuntimeTypes.Proofs.Inheritance
import RuntimeTypes.Proofs.Instances
import RuntimeTypes.Proofs.Keys
import RuntimeTypes.Proofs.Lineage
import RuntimeTypes.Proofs.Matching
import RuntimeTypes.Proofs.NameLists
import RuntimeTypes.Proofs.Naming
import RuntimeTypes.Proofs.Nesting
import RuntimeTypes.Proofs.Nullable
import RuntimeTypes.Proofs.Ownership
import RuntimeTypes.Proofs.Priority
import RuntimeTypes.Proofs.Recursion
import RuntimeTypes.Proofs.Redeclaration
import RuntimeTypes.Proofs.Refusal
import RuntimeTypes.Proofs.Remembered
import RuntimeTypes.Proofs.RoundTrip
import RuntimeTypes.Proofs.Spelling
import RuntimeTypes.Proofs.Transparency
import RuntimeTypes.Proofs.Traversal
import RuntimeTypes.Proofs.Walk
import RuntimeTypes.Proofs.Widening
import RuntimeTypes.Reach
import RuntimeTypes.Reachable
import RuntimeTypes.Spec.Basic
import RuntimeTypes.Spec.Grammar
import RuntimeTypes.Table.Basic
import RuntimeTypes.Text.Trim
import RuntimeTypes.Token.Basic
import RuntimeTypes.Token.Order
import RuntimeTypes.TypeSet.Basic
import RuntimeTypes.TypeSet.Default
import RuntimeTypes.TypeSet.Growth
import RuntimeTypes.TypeSet.InPlace
import RuntimeTypes.Unicode.Classes
import RuntimeTypes.Unicode.Printable
import RuntimeTypes.Value.Basic
import RuntimeTypes.Value.Text
