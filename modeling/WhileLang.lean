import WhileLang.Main
import WhileLang.Service.Route
import WhileLang.Session
import WhileLang.Tampering
import WhileLang.Proofs.Equivalence
import WhileLang.Proofs.CommandLine.Comparing
import WhileLang.Proofs.Derivation.Bounded
import WhileLang.Proofs.Denotation.Fixpoint
import WhileLang.Proofs.ZeroPlus
import WhileLang.Proofs.Derivation.LevelOrder
import WhileLang.Proofs.Denotation.Approximants
import WhileLang.Proofs.Denotation.Equations
import WhileLang.Proofs.CommandLine.Loading
import WhileLang.Proofs.Printing.Block
import WhileLang.Proofs.Printing.Decomposition
import WhileLang.Proofs.Printing.Determinacy
import WhileLang.Proofs.CommandLine.FileForms
import WhileLang.Proofs.Detection
import WhileLang.Proofs.Service.Resubmission
import WhileLang.Proofs.Service.OneStory
import WhileLang.Proofs.Denotation.Settling
import WhileLang.Proofs.Locality
import WhileLang.Proofs.Step.Determinism
import WhileLang.Proofs.Step.Resuming
import WhileLang.Proofs.Monotonicity
import WhileLang.Proofs.Derivation.Localisation
import WhileLang.Proofs.Generator.Bounded
import WhileLang.Proofs.ZeroPlus.Passes
import WhileLang.Proofs.Explanation
import WhileLang.Proofs.States
import WhileLang.Proofs.Loops
import WhileLang.Proofs.Catalog.Division
import WhileLang.Proofs.Catalog.Arithmetic
import WhileLang.Proofs.Catalog.Countdown
import WhileLang.Proofs.CommandLine.Bindings
import WhileLang.Proofs.Service.Calls
import WhileLang.Proofs.Service.Limits
