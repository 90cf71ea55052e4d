import TypeSchema.Main
import TypeSchema.Proofs.Traversal
import TypeSchema.Proofs.Requests
import TypeSchema.Proofs.Collection
import TypeSchema.Proofs.WorkList
import TypeSchema.Proofs.References
import TypeSchema.Proofs.CharacterClasses
import TypeSchema.Proofs.WellFormed
import TypeSchema.Proofs.Reading
import TypeSchema.Proofs.FieldReading
import TypeSchema.Proofs.Boundaries
import TypeSchema.Proofs.Completeness
import TypeSchema.Proofs.Printing
import TypeSchema.Proofs.RoundTrip
import TypeSchema.Proofs.QualifiedNames
import TypeSchema.Proofs.Independence
import TypeSchema.Proofs.Nesting
import TypeSchema.Proofs.Termination
import TypeSchema.Proofs.WellFormedReading
import TypeSchema.Proofs.PrintedForm
import TypeSchema.Proofs.Qualification
import TypeSchema.Proofs.Registration
import TypeSchema.Proofs.TagLookup
import TypeSchema.Proofs.Commands
import TypeSchema.Proofs.Pointers
import TypeSchema.Proofs.Arrays
import TypeSchema.Proofs.Expansion
import TypeSchema.Proofs.NestingLimit
import TypeSchema.Proofs.Positions
import TypeSchema.Proofs.Progress
import TypeSchema.Proofs.SideBySide
import TypeSchema.Proofs.SurroundingBlanks
import TypeSchema.Proofs.DirectRequests
import TypeSchema.Proofs.DeclarationOrder
import TypeSchema.Proofs.Updates
