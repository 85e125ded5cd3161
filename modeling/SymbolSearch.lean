import SymbolSearch.Find
import SymbolSearch.Proofs.Key.Path
import SymbolSearch.Proofs.Index.Nodes
import SymbolSearch.Proofs.Index.Order
import SymbolSearch.Proofs.Index.Mirror
import SymbolSearch.Proofs.Index.Search
import SymbolSearch.Proofs.Compilation
import SymbolSearch.Proofs.NameIndex
import SymbolSearch.Proofs.Project
import SymbolSearch.Proofs.Collect
import SymbolSearch.Proofs.Index.Obtain
import SymbolSearch.Proofs.Merged.Growth
import SymbolSearch.Proofs.Find
import SymbolSearch.Proofs.Merged.Reachable
import SymbolSearch.Proofs.Merged.Names
import SymbolSearch.Proofs.Merged.Exposure
import SymbolSearch.Proofs.Assembly.Relabel
import SymbolSearch.Proofs.Key.RoundTrip
import SymbolSearch.Proofs.Key.Inverse
import SymbolSearch.Proofs.Layout
import SymbolSearch.Proofs.Merged.Placement
import SymbolSearch.Proofs.Merged.Tree
import SymbolSearch.Proofs.Key.Unique
import SymbolSearch.Proofs.Merged.Identity
import SymbolSearch.Proofs.Bytes.Codec
import SymbolSearch.Proofs.Files
import SymbolSearch.Proofs.Image
import SymbolSearch.Proofs.Index.Check
import SymbolSearch.Proofs.Index.Saved
import SymbolSearch.Proofs.Agreement
import SymbolSearch.Proofs.Index.Loaded
import SymbolSearch.Proofs.Index.Access
import SymbolSearch.Proofs.FileChanges
import SymbolSearch.Proofs.Index.Calls
import SymbolSearch.Proofs.Index.Directory
import SymbolSearch.Proofs.Reopening
import SymbolSearch.Proofs.Cancellation
import SymbolSearch.Proofs.Target
import SymbolSearch.Proofs.Translation
import SymbolSearch.Proofs.Dotted
import SymbolSearch.Proofs.Text.EditDistance
import SymbolSearch.Proofs.Race
import SymbolSearch.Proofs.Polling
import SymbolSearch.Proofs.Text.Order
import SymbolSearch.Proofs.Reference
import SymbolSearch.Proofs.Index.Faults
import SymbolSearch.Proofs.Freshness
import SymbolSearch.Proofs.Config
