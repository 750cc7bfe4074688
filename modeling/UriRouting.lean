import UriRouting.Document.Record
import UriRouting.Path.Ranking
import UriRouting.Proofs.Decoding
import UriRouting.Proofs.Fairness
import UriRouting.Proofs.FixedText
import UriRouting.Proofs.GivingUp
import UriRouting.Proofs.Grammar
import UriRouting.Proofs.Hierarchy
import UriRouting.Proofs.History
import UriRouting.Proofs.LongestRoute
import UriRouting.Proofs.MoreSpecific
import UriRouting.Proofs.Preference
import UriRouting.Proofs.Renaming
import UriRouting.Proofs.Skeleton
import UriRouting.Proofs.UriStructure
import UriRouting.Proofs.Widening
import UriRouting.Routing.Router
import UriRouting.Template.Inspect
