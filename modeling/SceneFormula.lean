import SceneFormula.Main
import SceneFormula.Proofs.Arity
import SceneFormula.Proofs.Freshness
import SceneFormula.Proofs.Nesting
import SceneFormula.Proofs.Picks
import SceneFormula.Proofs.Quotation
import SceneFormula.Proofs.Retry
import SceneFormula.Proofs.SlotOrder
import SceneFormula.Proofs.Extension
import SceneFormula.Proofs.Continuation
import SceneFormula.Proofs.SeparateRuns
import SceneFormula.Proofs.Registrations
import SceneFormula.Proofs.Removal
import SceneFormula.Proofs.Containment
import SceneFormula.Proofs.Substitution
import SceneFormula.Proofs.Rendering
import SceneFormula.Proofs.OperatorCodes
import SceneFormula.Proofs.Spelling
import SceneFormula.Proofs.CompletionOrder
import SceneFormula.Proofs.Splitting
import SceneFormula.Proofs.LeastFree
import SceneFormula.Proofs.SlotDependence
import SceneFormula.Proofs.Termination
import SceneFormula.Proofs.EscapeRuns
import SceneFormula.Proofs.Matching
