import SchemaWipe.Main
import SchemaWipe.Proofs.Answer
import SchemaWipe.Proofs.Assignment
import SchemaWipe.Proofs.Atomicity
import SchemaWipe.Proofs.AuditTrail
import SchemaWipe.Proofs.BlankVariables
import SchemaWipe.Proofs.Boundary
import SchemaWipe.Proofs.Checked
import SchemaWipe.Proofs.Clearing
import SchemaWipe.Proofs.ClosedInput
import SchemaWipe.Proofs.Confirmation
import SchemaWipe.Proofs.Correlation
import SchemaWipe.Proofs.Course
import SchemaWipe.Proofs.DecimalLiteral
import SchemaWipe.Proofs.Deeds
import SchemaWipe.Proofs.Effect
import SchemaWipe.Proofs.Emptying
import SchemaWipe.Proofs.EntryPoints
import SchemaWipe.Proofs.ExitCode
import SchemaWipe.Proofs.Explanation
import SchemaWipe.Proofs.Fields
import SchemaWipe.Proofs.Gate
import SchemaWipe.Proofs.Identifier
import SchemaWipe.Proofs.Interleaving
import SchemaWipe.Proofs.JoinedFiles
import SchemaWipe.Proofs.Listing
import SchemaWipe.Proofs.Loading
import SchemaWipe.Proofs.LogLevels
import SchemaWipe.Proofs.Mirror
import SchemaWipe.Proofs.Names
import SchemaWipe.Proofs.NestedKeys
import SchemaWipe.Proofs.Operations
import SchemaWipe.Proofs.PasswordSource
import SchemaWipe.Proofs.PlainWord
import SchemaWipe.Proofs.Precedence
import SchemaWipe.Proofs.Preview
import SchemaWipe.Proofs.Protocol
import SchemaWipe.Proofs.References
import SchemaWipe.Proofs.Rekeying
import SchemaWipe.Proofs.Replacement
import SchemaWipe.Proofs.Requests
import SchemaWipe.Proofs.SchemaInFile
import SchemaWipe.Proofs.Secrecy
import SchemaWipe.Proofs.Sequences
import SchemaWipe.Proofs.Shape
import SchemaWipe.Proofs.Statement
import SchemaWipe.Proofs.Substitution
import SchemaWipe.Proofs.Switches
import SchemaWipe.Proofs.Trimming
import SchemaWipe.Proofs.Unforeseen
import SchemaWipe.Proofs.Unwritable
import SchemaWipe.Proofs.Validity
import SchemaWipe.Proofs.VariableFile
import SchemaWipe.Proofs.Waiver
import SchemaWipe.Proofs.WholeNumber
import SchemaWipe.Proofs.WordValue
import SchemaWipe.Remote
import SchemaWipe.Service
