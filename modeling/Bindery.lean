import Bindery.Lifetime.Scene
import Bindery.Main
import Bindery.Proofs.Ancestry.Endings
import Bindery.Proofs.Command.ReadOnly
import Bindery.Proofs.Documents.Overlays
import Bindery.Proofs.Documents.RoundTrip
import Bindery.Proofs.Generator.ClassOrder
import Bindery.Proofs.Generator.DryRun
import Bindery.Proofs.Generator.FinalState
import Bindery.Proofs.Generator.Listing
import Bindery.Proofs.Generator.OpenBases
import Bindery.Proofs.Generator.Places
import Bindery.Proofs.Generator.Roles
import Bindery.Proofs.Generator.Spellings
import Bindery.Proofs.Generator.Stopping
import Bindery.Proofs.Generator.Unrelated
import Bindery.Proofs.Generator.Warnings
import Bindery.Proofs.Header.Blocks
import Bindery.Proofs.Lifetime.Accounts
import Bindery.Proofs.Lifetime.Lookups
import Bindery.Proofs.Lifetime.Returns
import Bindery.Proofs.Lifetime.Undisplaced
import Bindery.Proofs.Naming.Statics
import Bindery.Proofs.Naming.Words
import Bindery.Proofs.Output.Books
import Bindery.Proofs.Output.DryBackups
import Bindery.Proofs.Source.Comments
import Bindery.Proofs.Source.Fit
import Bindery.Proofs.Source.PathSets
import Bindery.Proofs.Source.SelfTypes
import Bindery.Proofs.Source.Slots
import Bindery.Proofs.Spelling.TopLevelConst
import Bindery.Store.Disk
