import PackageListing.Main
import PackageListing.Proofs.Traversal.Reachability
import PackageListing.Proofs.Traversal.DepthFirst
import PackageListing.Proofs.Action
import PackageListing.Proofs.ImportGraph
import PackageListing.Proofs.Text.Utf8
import PackageListing.Proofs.Build.FileSetGraph
import PackageListing.Proofs.Build.EventReader
import PackageListing.Proofs.Build.Harvest
import PackageListing.Proofs.Wire.Field
import PackageListing.Proofs.Wire.Message
import PackageListing.Proofs.Build.Event
import PackageListing.Proofs.Build.EventLog
import PackageListing.Proofs.Constraint.Grammar
import PackageListing.Proofs.Constraint.Spelling
import PackageListing.Proofs.Constraint.Comments
import PackageListing.Proofs.Constraint.Header
import PackageListing.Proofs.Constraint.Alternatives
import PackageListing.Proofs.Constraint.Translation
import PackageListing.Proofs.Json.Reader
import PackageListing.Proofs.Json.Record
import PackageListing.Proofs.Package
import PackageListing.Proofs.Exchange
import PackageListing.Proofs.Files.Tree
import PackageListing.Proofs.Descriptors
import PackageListing.Proofs.ListedPackage
import PackageListing.Proofs.Build.Reordering
import PackageListing.Proofs.CompilationUnit.Draft
import PackageListing.Proofs.CompilationUnit.Descriptor
import PackageListing.Proofs.Request
import PackageListing.Proofs.Attempt
import PackageListing.Proofs.Workspace
import PackageListing.Proofs.BuildTool
import PackageListing.Proofs.Files.Plain
import PackageListing.Proofs.Loading
import PackageListing.Proofs.Listing.Course
import PackageListing.Proofs.Listing.Plan
import PackageListing.Proofs.Listing.Assembly
import PackageListing.Proofs.Listing.Identifiers
import PackageListing.Proofs.Build.Partition
import PackageListing.Proofs.CompilationUnit.Preprocessing
import PackageListing.Proofs.Listing.Queries
import PackageListing.Proofs.StandardLibrary.Describing
import PackageListing.Proofs.Files.Below
import PackageListing.Proofs.Files.Order
import PackageListing.Proofs.StandardLibrary.Directory
import PackageListing.Proofs.CompilationUnit.Filters
import PackageListing.Proofs.Environment
import PackageListing.Proofs.Pattern
import PackageListing.Proofs.Listing.StandardLibrary
import PackageListing.Proofs.Descriptors.Selected
import PackageListing.Proofs.Descriptors.Absolute
import PackageListing.Proofs.Constraint.FileName
import PackageListing.Proofs.Constraint.Dependence
import PackageListing.Proofs.Source.Summary
import PackageListing.Proofs.Source.Metadata
import PackageListing.Proofs.CommandLine.Listing
import PackageListing.Proofs.Path.Relative
import PackageListing.Proofs.Query
import PackageListing.Proofs.Environment.Overlay
import PackageListing.Proofs.Listing.Variables
import PackageListing.Proofs.Text.Decoding
import PackageListing.Proofs.Text.Rows
import PackageListing.Proofs.Query.Labels
import PackageListing.Proofs.CommandLine.Parameters
import PackageListing.Proofs.CommandLine.Spelling
