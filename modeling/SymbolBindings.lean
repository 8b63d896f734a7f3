import SymbolBindings.CommandLine.Reader
import SymbolBindings.Examples
import SymbolBindings.Generate.Run
import SymbolBindings.Machine
import SymbolBindings.Main
import SymbolBindings.PathName
import SymbolBindings.Proofs.Text.Utf8
import SymbolBindings.Session.Run
import SymbolBindings.Trouble
import SymbolBindings.Proofs.Text.Blank
import SymbolBindings.Proofs.Delimited.Row
import SymbolBindings.Proofs.Delimited.Writing
import SymbolBindings.Proofs.Symbol.Fields
import SymbolBindings.Proofs.Symbol.Loading
import SymbolBindings.Proofs.Symbol.Layout
import SymbolBindings.Proofs.Generate.Layout
import SymbolBindings.Proofs.Generate.Verdict
import SymbolBindings.Proofs.Generate.Progress
import SymbolBindings.Proofs.Generate.Streaming
import SymbolBindings.Proofs.Generate.Counting
import SymbolBindings.Proofs.Generate.Acceptance
import SymbolBindings.Proofs.Text.Stops
import SymbolBindings.Proofs.HostType.Rendering
import SymbolBindings.Proofs.HostType.Decomposition
import SymbolBindings.Proofs.Declaration.Regular
import SymbolBindings.Proofs.Declaration.Reading
import SymbolBindings.Proofs.Generate.Omission
import SymbolBindings.Proofs.Generate.Stripping
import SymbolBindings.Proofs.Settings.Layers
import SymbolBindings.Proofs.Generate.Truncation
import SymbolBindings.Proofs.Delimited.Continuing
import SymbolBindings.Proofs.Generate.Interruption
import SymbolBindings.Proofs.FileTree.Creation
import SymbolBindings.Proofs.Generate.Offering
import SymbolBindings.Proofs.Session.Delivery
import SymbolBindings.Proofs.Session.Generating
import SymbolBindings.Proofs.Session.Emptying
import SymbolBindings.Proofs.HostType.Layering
import SymbolBindings.Proofs.Examples.Schedule
import SymbolBindings.Proofs.HostType.Reading
import SymbolBindings.Proofs.Declaration.Parameters
import SymbolBindings.Proofs.Declaration.Emission
import SymbolBindings.Proofs.Generate.Unresolved
import SymbolBindings.Proofs.Declaration.StrayCommas
import SymbolBindings.Proofs.Generate.Naming
import SymbolBindings.Proofs.Text.Literal
import SymbolBindings.Proofs.Declaration.Lines
import SymbolBindings.Proofs.Delimited.Starts
import SymbolBindings.Proofs.Symbol.Lines
import SymbolBindings.Proofs.Diagnostic.Reading
import SymbolBindings.Proofs.Settings.Fallback
import SymbolBindings.Proofs.Generate.Internal
import SymbolBindings.Proofs.Declaration.Groups
import SymbolBindings.Proofs.PathName.Steps
import SymbolBindings.Proofs.Text.Replacement
import SymbolBindings.Proofs.PathName.Argument
import SymbolBindings.Proofs.FileTree.Walking
import SymbolBindings.Proofs.Session.Launching
import SymbolBindings.Proofs.Examples.Artifact
import SymbolBindings.Proofs.Delimited.Resuming
import SymbolBindings.Proofs.Symbol.Safety
