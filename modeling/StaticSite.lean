import StaticSite.FileSystem
import StaticSite.Main
import StaticSite.Proofs.Simulation
import StaticSite.Proofs.Texts
import StaticSite.Proofs.Markers
import StaticSite.Proofs.Passes
import StaticSite.Proofs.History
import StaticSite.Proofs.Search
import StaticSite.Proofs.Halting
import StaticSite.Proofs.LoneTag
import StaticSite.Proofs.Depth
import StaticSite.Proofs.PassLimit
import StaticSite.Proofs.Canonical
import StaticSite.Proofs.FirstPass
import StaticSite.Proofs.Graft
import StaticSite.Proofs.Spelling
import StaticSite.Proofs.Opening
import StaticSite.Proofs.Steady
import StaticSite.Proofs.Rereading
import StaticSite.Proofs.Blocks
import StaticSite.Proofs.EmptyPartials
import StaticSite.Proofs.Policies
import StaticSite.Proofs.Listing
import StaticSite.Proofs.Recall
import StaticSite.Proofs.Components
import StaticSite.Proofs.AssetLinks
import StaticSite.Proofs.Growth
import StaticSite.Proofs.Stubs
import StaticSite.Proofs.FailedPages
import StaticSite.Proofs.Exploration
import StaticSite.Proofs.Changes
import StaticSite.Proofs.Below
import StaticSite.Proofs.RootedReferences
import StaticSite.Proofs.Stencils
import StaticSite.Proofs.Pruning
import StaticSite.Proofs.PlainNames
import StaticSite.Proofs.PlainTexts
import StaticSite.Proofs.Wrapping
import StaticSite.Proofs.Tours
import StaticSite.Proofs.Builds
import StaticSite.Proofs.Reports
import StaticSite.Proofs.Contents
import StaticSite.Proofs.Outputs
import StaticSite.Proofs.PageSources
import StaticSite.Proofs.Directives
import StaticSite.Proofs.Overlays
import StaticSite.Proofs.FirstMentions
import StaticSite.Proofs.Ancestors
import StaticSite.Proofs.StubRuns
import StaticSite.Proofs.Ways
import StaticSite.Proofs.Copies
import StaticSite.Proofs.Mirrors
