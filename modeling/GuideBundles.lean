import GuideBundles.Text.Blank
import GuideBundles.Text.Casing
import GuideBundles.Text.Quoted
import GuideBundles.ExampleId
import GuideBundles.Markdown.Heading
import GuideBundles.Markdown.Reference
import GuideBundles.Artifact
import GuideBundles.SnippetIssue
import GuideBundles.SectionMap.File
import GuideBundles.Settings.File
import GuideBundles.Disk.Request
import GuideBundles.CommandLine
import GuideBundles.Main
import GuideBundles.Proofs.Text.Order
import GuideBundles.Proofs.Markdown.Grammar
import GuideBundles.Proofs.Markdown.Tiling
import GuideBundles.Proofs.Markdown.Dialects
import GuideBundles.Proofs.Path.Stem
import GuideBundles.Proofs.Script
import GuideBundles.Proofs.Script.Trace
import GuideBundles.Proofs.Disk.Walk
import GuideBundles.Proofs.Disk.Request
import GuideBundles.Proofs.Disk.Confined
import GuideBundles.Proofs.Disk.Staged
import GuideBundles.Proofs.Disk.Names
import GuideBundles.Proofs.Disk.Way
import GuideBundles.Proofs.Disk.Same
import GuideBundles.Proofs.Conversion.Staging
import GuideBundles.Proofs.Conversion.Converted
import GuideBundles.Proofs.Conversion.Steps
import GuideBundles.Proofs.Conversion.Interrupted
import GuideBundles.Proofs.Conversion.Collected
import GuideBundles.Proofs.Conversion.Isolated
import GuideBundles.Proofs.Conversion.Grown
import GuideBundles.Proofs.Conversion.Batch
import GuideBundles.Proofs.Conversion.Rerun
import GuideBundles.Proofs.Conversion.Resumed
import GuideBundles.Proofs.Disk.Refused
import GuideBundles.Proofs.Conversion.Failed
import GuideBundles.Proofs.Artifact.Snippet
import GuideBundles.Proofs.Conversion.Contained
import GuideBundles.Proofs.Markdown.Returns
import GuideBundles.Proofs.Markdown.Reference
import GuideBundles.Proofs.Markdown.Extracted
import GuideBundles.Proofs.Artifact.Returns
import GuideBundles.Proofs.Artifact.Issue
import GuideBundles.Proofs.Check.Findings
import GuideBundles.Proofs.Markdown.Element
import GuideBundles.Proofs.Check.Published
import GuideBundles.Proofs.Conversion.Told
import GuideBundles.Proofs.SectionMap.Size
import GuideBundles.Proofs.Conversion.Sections
import GuideBundles.Proofs.Conversion.Fresh
import GuideBundles.Proofs.Markdown.ProseLines
import GuideBundles.Proofs.Markdown.Agreement
import GuideBundles.Proofs.Settings.RoundTrip
import GuideBundles.Proofs.Markdown.Heading
import GuideBundles.Proofs.Markdown.Cursor
import GuideBundles.Proofs.Markdown.Locality
import GuideBundles.Proofs.Markdown.Note
import GuideBundles.Proofs.Markdown.Uncovered
import GuideBundles.Proofs.Text.Search
import GuideBundles.Proofs.Text.Expression
import GuideBundles.Proofs.Markdown.LinkForm
import GuideBundles.Proofs.Markdown.ImageForm
import GuideBundles.Proofs.Markdown.Expression
import GuideBundles.Proofs.Markdown.Shared
import GuideBundles.Proofs.Artifact.Shell
import GuideBundles.Proofs.Conversion.Links
import GuideBundles.Proofs.Conversion.Canonical
import GuideBundles.Proofs.Check.Sorted
import GuideBundles.Proofs.Artifact.Title
import GuideBundles.Proofs.Artifact.Defaults
import GuideBundles.Proofs.Markdown.CutOff
import GuideBundles.Proofs.Text.Offsets
import GuideBundles.Proofs.Markdown.Offsets
import GuideBundles.Proofs.Markdown.Cuts
import GuideBundles.Proofs.Json.Grammar
import GuideBundles.Proofs.Json.Strings
import GuideBundles.Proofs.Json.Numbers
import GuideBundles.Proofs.Json.Values
import GuideBundles.Proofs.Json.Record
import GuideBundles.Proofs.SectionMap.Owner
import GuideBundles.Proofs.SectionMap.Decoded
