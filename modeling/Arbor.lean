import Arbor.Branch
import Arbor.Document.Planting
import Arbor.Proofs.Branch.Pairing
import Arbor.Proofs.Branch.Sameness
import Arbor.Proofs.Modeller.Counterparts
import Arbor.Proofs.Modeller.Leftovers
import Arbor.Proofs.Rules.Agreement
import Arbor.Proofs.Scene.Refusals
import Arbor.Proofs.Settings.Normalising
import Arbor.Proofs.Tree.Coherence
import Arbor.Proofs.Tree.LifeCycle
import Arbor.Proofs.Tree.Refusal
import Arbor.Proofs.Tree.Resumption
import Arbor.Proofs.Tree.Standing
import Arbor.Proofs.Tree.Surfacing
import Arbor.Proofs.Walk.Alignment
import Arbor.Proofs.Walk.Attempts
import Arbor.Proofs.Walk.Expansion
import Arbor.Proofs.Walk.Groups
import Arbor.Proofs.Walk.Headings
import Arbor.Proofs.Walk.Renewal
import Arbor.Proofs.Walk.SideBranches
import Arbor.Proofs.Walk.Sizes
import Arbor.Proofs.Walk.Taper
import Arbor.Proofs.Walk.Trunk
import Arbor.Rules.Expansion
import Arbor.Scene.Rehearsal
import Arbor.Scene.Snapshot
import Arbor.Settings.Table
import Arbor.Tree.Grove
import Arbor.Version
