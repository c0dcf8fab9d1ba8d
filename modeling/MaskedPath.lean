import MaskedPath.Archive.Basic
import MaskedPath.Archive.Crc32
import MaskedPath.Archive.Directory
import MaskedPath.Archive.Extract
import MaskedPath.Archive.Huffman
import MaskedPath.Archive.Inflate
import MaskedPath.Archive.NameEncoding
import MaskedPath.Cache.Basic
import MaskedPath.Cache.Policy
import MaskedPath.Cache.Trace
import MaskedPath.Calendar
import MaskedPath.CommandLine.Arguments
import MaskedPath.CommandLine.Command
import MaskedPath.CommandLine.Layout
import MaskedPath.CommandLine.Reach
import MaskedPath.CommandLine.Run
import MaskedPath.Event
import MaskedPath.Failure
import MaskedPath.FileSystem.Basic
import MaskedPath.FileSystem.Resolve
import MaskedPath.FileSystem.Write
import MaskedPath.Identifier
import MaskedPath.Json.Basic
import MaskedPath.Json.Display
import MaskedPath.Library
import MaskedPath.Location
import MaskedPath.Log.Record
import MaskedPath.Log.Sink
import MaskedPath.Log.Template
import MaskedPath.Log.Timestamp
import MaskedPath.Main
import MaskedPath.Markup.Basic
import MaskedPath.Markup.Emoji
import MaskedPath.MaskList
import MaskedPath.ModuleName
import MaskedPath.Number.Binary
import MaskedPath.Number.Decimal
import MaskedPath.Number.Rounded
import MaskedPath.Path
import MaskedPath.Proofs.Attribution
import MaskedPath.Proofs.CacheTransparency
import MaskedPath.Proofs.Faithful
import MaskedPath.Proofs.LibraryMasks
import MaskedPath.Proofs.Locations
import MaskedPath.Proofs.Meaning
import MaskedPath.Proofs.ModuleNames
import MaskedPath.Proofs.Paths
import MaskedPath.Proofs.Queries
import MaskedPath.Proofs.Resolution
import MaskedPath.Proofs.Session
import MaskedPath.Proofs.Shown
import MaskedPath.Proofs.Spelling
import MaskedPath.Proofs.Stacking
import MaskedPath.Proofs.Trees
import MaskedPath.Proofs.Utf8
import MaskedPath.Proofs.Walk
import MaskedPath.Properties
import MaskedPath.Registry
import MaskedPath.Resolver.Basic
import MaskedPath.Resolver.Import
import MaskedPath.Resolver.Mask
import MaskedPath.Resolver.Query
import MaskedPath.Resolver.Search
import MaskedPath.Resource
import MaskedPath.Settings.Build
import MaskedPath.Settings.Load
import MaskedPath.Settings.Schema
import MaskedPath.Text.Basic
import MaskedPath.Text.Blank
import MaskedPath.Text.Decoding
import MaskedPath.Text.Digit
import MaskedPath.Text.Line
import MaskedPath.Text.Numeral
import MaskedPath.Text.Printable
import MaskedPath.Text.Quoted
import MaskedPath.Text.Utf8
import MaskedPath.Url.Basic
import MaskedPath.Url.Host
import MaskedPath.Url.Percent
import MaskedPath.Yaml.Cursor
import MaskedPath.Yaml.Error
import MaskedPath.Yaml.Graph
import MaskedPath.Yaml.Lexer
import MaskedPath.Yaml.Scalar
import MaskedPath.Yaml.Scalars
import MaskedPath.Yaml.Tag
import MaskedPath.Yaml.Timestamp
import MaskedPath.Yaml.Token
import MaskedPath.Yaml.Value
import MaskedPath.Proofs.MoreMasks
import MaskedPath.Proofs.LostAttributions
import MaskedPath.Proofs.Chains
import MaskedPath.Proofs.RefusedArchives
import MaskedPath.Proofs.ArchiveErrors
import MaskedPath.Proofs.AttributionFailures
import MaskedPath.Proofs.Listings
import MaskedPath.Proofs.MergedMasks
import MaskedPath.Proofs.ClearedCache
import MaskedPath.Proofs.ArchiveKeys
import MaskedPath.Proofs.UnitEscapes
import MaskedPath.Proofs.SettingsFailures
import MaskedPath.Proofs.CacheSizes
import MaskedPath.Proofs.ReadingBack
import MaskedPath.Proofs.Verdicts
import MaskedPath.Proofs.BothViews
import MaskedPath.Proofs.LineBreaks
import MaskedPath.Proofs.MalformedEscapes
import MaskedPath.Proofs.Subtrees
import MaskedPath.Proofs.SameFiles
import MaskedPath.Proofs.ComposedDocuments
import MaskedPath.Proofs.ContinuedLines
import MaskedPath.Proofs.MaskEntries
import MaskedPath.Proofs.FirstMetadata
import MaskedPath.Proofs.FailedComputations
import MaskedPath.Proofs.MaskLists
import MaskedPath.Proofs.MaskSources
import MaskedPath.Proofs.PrintedText
import MaskedPath.Proofs.Commands
import MaskedPath.Proofs.StoredResults
import MaskedPath.Proofs.FinderBlocks
import MaskedPath.Proofs.PackageFlags
import MaskedPath.Proofs.Reopening
import MaskedPath.Proofs.EscapePairs
