import TableReaders.Package.Delivery
import TableReaders.Schema.Printer
import TableReaders.Vector
import TableReaders.Proofs.Identifier
import TableReaders.Proofs.Outcome
import TableReaders.Proofs.Schema.Accepted
import TableReaders.Proofs.Package.Generation
import TableReaders.Proofs.Text.Lines
import TableReaders.Proofs.Package.Declarations
import TableReaders.Proofs.Package.Interfaces
import TableReaders.Proofs.Package.Delivery
import TableReaders.Proofs.Markup.Nested
import TableReaders.Proofs.Markup.Written
import TableReaders.Proofs.Schema.Written
import TableReaders.Proofs.Schema.RoundTrip
import TableReaders.Proofs.Markup.Opened
import TableReaders.Proofs.Schema.Level
import TableReaders.Proofs.Schema.Replacement
import TableReaders.Proofs.Markup.Completed
import TableReaders.Proofs.Schema.Truncation
import TableReaders.Proofs.Schema.Scope
import TableReaders.Proofs.Schema.History
import TableReaders.Proofs.Package.Composition
import TableReaders.Proofs.Package.Verdict
import TableReaders.Proofs.Schema.Definitions
import TableReaders.Proofs.Package.Evolution
import TableReaders.Proofs.Package.Uncommented
import TableReaders.Proofs.Storage.Places
import TableReaders.Proofs.Package.Effects
import TableReaders.Proofs.Package.Methods
import TableReaders.Proofs.Package.Policies
import TableReaders.Proofs.Schema.Demands
import TableReaders.Proofs.Package.Log
import TableReaders.Proofs.Package.Legality
import TableReaders.Proofs.Vector
import TableReaders.Proofs.Package.Comments
import TableReaders.Proofs.Markup.Reference
import TableReaders.Proofs.Package.Accessors
import TableReaders.Proofs.Schema.CharacterData
import TableReaders.Proofs.Package.FileNames
import TableReaders.Proofs.Package.Headings
import TableReaders.Proofs.Package.Imports
import TableReaders.Proofs.Text.Layout
import TableReaders.Proofs.Schema.Consumption
