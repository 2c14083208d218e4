import Tensegrity.Session
import Tensegrity.Proofs.Grouping
import Tensegrity.Proofs.Assemblies
import Tensegrity.Proofs.Building
import Tensegrity.Proofs.Registry
import Tensegrity.Proofs.DescribedModels
import Tensegrity.Proofs.Lifecycle
import Tensegrity.Proofs.Placement
import Tensegrity.Proofs.Chains
import Tensegrity.Proofs.ChainRealization
import Tensegrity.Proofs.Specificity
import Tensegrity.Proofs.TagText
import Tensegrity.Proofs.ChainJoints
import Tensegrity.Proofs.IeeeEquality
import Tensegrity.Proofs.Connecting
import Tensegrity.Proofs.ChainFaults
import Tensegrity.Proofs.Installing
import Tensegrity.Proofs.Stepping
import Tensegrity.Proofs.DescribedStructures
import Tensegrity.Proofs.Markers
import Tensegrity.Proofs.Queries
import Tensegrity.Proofs.SinglePrecision
import Tensegrity.Proofs.CableLengths
import Tensegrity.Proofs.Moving
import Tensegrity.Proofs.TagAlgebra
import Tensegrity.Proofs.SpineMarkers
import Tensegrity.Proofs.TetraSpine
