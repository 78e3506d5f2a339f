import PageRoutes.Main
import PageRoutes.Proofs.Disk.Changes
import PageRoutes.Proofs.Project.Metadata
import PageRoutes.Proofs.Project.Module
import PageRoutes.Proofs.EntryFile.Capture
import PageRoutes.Proofs.RoutesModule.Unambiguous
import PageRoutes.Proofs.Scan.FirstFault
import PageRoutes.Proofs.Session.EntryFileId
import PageRoutes.Proofs.EntryFile.ValueImport
import PageRoutes.Proofs.Project.Shape
import PageRoutes.Proofs.Scan.ListingOrder
import PageRoutes.Proofs.Scan.Relevance
import PageRoutes.Proofs.Project.Influence
import PageRoutes.Proofs.Scan.Termination
import PageRoutes.Proofs.EntryFile.Reprint
import PageRoutes.Proofs.EntryFile.Chain
import PageRoutes.Proofs.Segment.Parameters
import PageRoutes.Proofs.EntryFile.DefaultImport
import PageRoutes.Proofs.CommandLine.Table
import PageRoutes.Proofs.CommandLine.World
import PageRoutes.Proofs.EntryFile.CommentOrder
import PageRoutes.Proofs.Segment.Boundaries
import PageRoutes.Proofs.Segment.Matches
import PageRoutes.Proofs.Segment.Tokens
