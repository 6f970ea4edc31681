import CodeAtlas.Main
import CodeAtlas.Proofs.Order
import CodeAtlas.Proofs.Callgraph.Sweep
import CodeAtlas.Proofs.Callgraph.Queue
import CodeAtlas.Proofs.Callgraph.Graph
import CodeAtlas.Proofs.Callgraph.Budget
import CodeAtlas.Proofs.Callgraph.Chains
import CodeAtlas.Proofs.Assoc
import CodeAtlas.Proofs.Callgraph.Group
import CodeAtlas.Proofs.Callgraph.Root
import CodeAtlas.Proofs.Traced
import CodeAtlas.Proofs.Sections.Callgraphs
import CodeAtlas.Proofs.Rearranged
import CodeAtlas.Proofs.Json.Layout
import CodeAtlas.Proofs.Report
import CodeAtlas.Proofs.Files.Walk
import CodeAtlas.Proofs.Files.Place
import CodeAtlas.Proofs.Files.Prune
import CodeAtlas.Proofs.Files.Put
import CodeAtlas.Proofs.Files.Write
import CodeAtlas.Proofs.Text.Search
import CodeAtlas.Proofs.Text.Utf8
import CodeAtlas.Proofs.Tree.Scan
import CodeAtlas.Proofs.Tree.Unlisted
import CodeAtlas.Proofs.Tree.Lines
import CodeAtlas.Proofs.Impaired
import CodeAtlas.Proofs.Build
import CodeAtlas.Proofs.Module.Unnoticed
import CodeAtlas.Proofs.Module.Resolved
import CodeAtlas.Proofs.Module.Shared
import CodeAtlas.Proofs.Settings.Load
import CodeAtlas.Proofs.Compilation.Unnoticed
import CodeAtlas.Proofs.Compilation.Declared
import CodeAtlas.Proofs.Compilation.Listed
import CodeAtlas.Proofs.Compilation.Unmixed
import CodeAtlas.Proofs.Compilation.Overloads
import CodeAtlas.Proofs.Compilation.Fields
import CodeAtlas.Proofs.Compilation.Locals
import CodeAtlas.Proofs.Written
import CodeAtlas.Proofs.CommandLine.Rerun
import CodeAtlas.Proofs.Module.Found
import CodeAtlas.Proofs.Module.Declared
import CodeAtlas.Proofs.Module.Targets
import CodeAtlas.Proofs.Callgraph.Calls
import CodeAtlas.Proofs.Callgraph.Turns
import CodeAtlas.Proofs.Callgraph.Outside
import CodeAtlas.Proofs.Callgraph.RootText
import CodeAtlas.Proofs.Module.BareNames
import CodeAtlas.Proofs.Module.Signatures
import CodeAtlas.Proofs.Module.Parsers
import CodeAtlas.Proofs.Module.Shadowing
import CodeAtlas.Proofs.Callgraph.Depth
import CodeAtlas.Proofs.Callgraph.Supported
import CodeAtlas.Proofs.DepthFirst
import CodeAtlas.Proofs.Module.Hierarchy
import CodeAtlas.Proofs.Inheritance
import CodeAtlas.Proofs.Module.ClassNames
import CodeAtlas.Proofs.Compilation.OwnCalls
import CodeAtlas.Proofs.Compilation.Variadic
import CodeAtlas.Proofs.Compilation.Comments
import CodeAtlas.Proofs.Compilation.TypeTexts
import CodeAtlas.Proofs.Compilation.Starts
import CodeAtlas.Proofs.Regex.Run
import CodeAtlas.Proofs.Compilation.Included
import CodeAtlas.Proofs.Module.Parameterised
import CodeAtlas.Proofs.Module.Arguments
import CodeAtlas.Proofs.Tree.Directories
import CodeAtlas.Proofs.Settings.Sources
import CodeAtlas.Proofs.Failing
import CodeAtlas.Proofs.Detected
import CodeAtlas.Proofs.CommandLine.Exits
import CodeAtlas.Proofs.Module.CallSites
import CodeAtlas.Proofs.Module.Annotations
import CodeAtlas.Proofs.Constructors
import CodeAtlas.Proofs.Sections.Repeated
import CodeAtlas.Proofs.Identities
import CodeAtlas.Proofs.Module.RelativeImports
import CodeAtlas.Proofs.Module.Spellings
