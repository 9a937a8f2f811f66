import PropertyQuote.CSharp.Compilation
import PropertyQuote.CSharp.Grammar
import PropertyQuote.CSharp.Reader
import PropertyQuote.CSharp.Registry
import PropertyQuote.CommandLine.Run
import PropertyQuote.Generation
import PropertyQuote.Log.Message
import PropertyQuote.Main
import PropertyQuote.Project.Pass
import PropertyQuote.Proofs.CSharp.TypeNames
import PropertyQuote.Proofs.CSharp.Words
import PropertyQuote.Proofs.Collisions
import PropertyQuote.Proofs.Conservation
import PropertyQuote.Proofs.Fingerprint
import PropertyQuote.Proofs.Grouping
import PropertyQuote.Proofs.HintName
import PropertyQuote.Proofs.Json
import PropertyQuote.Proofs.Literal
import PropertyQuote.Proofs.Text
import PropertyQuote.Proofs.UnitDecoding
import PropertyQuote.Proofs.UnitText
import PropertyQuote.Proofs.Utf8
import PropertyQuote.Service
import PropertyQuote.Template.Reader
import PropertyQuote.Proofs.Disk.Places
import PropertyQuote.Proofs.Disk.Ways
import PropertyQuote.Proofs.Json.Names
import PropertyQuote.Proofs.Manifest
import PropertyQuote.Proofs.Output.Steps
import PropertyQuote.Proofs.Output.Series
import PropertyQuote.Proofs.Output.DryRun
import PropertyQuote.Proofs.UnitReturns
import PropertyQuote.Proofs.Repetition
import PropertyQuote.Proofs.Output.Interruption
import PropertyQuote.Proofs.CSharp.Programs
import PropertyQuote.Proofs.CSharp.Resolution
import PropertyQuote.Proofs.CSharp.UnrelatedFiles
import PropertyQuote.Proofs.CSharp.FileOrder
import PropertyQuote.Proofs.CSharp.Visits
import PropertyQuote.Proofs.CSharp.DirectiveScope
import PropertyQuote.Proofs.Independence
import PropertyQuote.Proofs.CSharp.Recognition
import PropertyQuote.Proofs.SourceTexts
import PropertyQuote.Proofs.CSharp.Descents
import PropertyQuote.Proofs.CSharp.Enclosure
import PropertyQuote.Proofs.CSharp.Capture
import PropertyQuote.Proofs.CSharp.Names
import PropertyQuote.Proofs.CSharp.GlobalNames
import PropertyQuote.Proofs.CSharp.AliasUses
import PropertyQuote.Proofs.CSharp.InForce
import PropertyQuote.Proofs.CSharp.Precedence
import PropertyQuote.Proofs.Payload
import PropertyQuote.Proofs.CSharp.TypeParameters
import PropertyQuote.Proofs.Scan.Eligibility
import PropertyQuote.Proofs.Scan.OutputRule
import PropertyQuote.Proofs.Scan.Walk
import PropertyQuote.Proofs.Output.Postponement
import PropertyQuote.Proofs.Output.Targets
import PropertyQuote.Proofs.Output.Listing
import PropertyQuote.Proofs.CSharp.Slices
import PropertyQuote.Proofs.CSharp.Numbers
import PropertyQuote.Proofs.Yaml.Composition
import PropertyQuote.Proofs.SettingsFile
