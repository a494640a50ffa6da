import KeyTree.Decimal.Read
import KeyTree.Json.Reader
import KeyTree.Schema.Lint
import KeyTree.Compiled.Resolve
import KeyTree.Text.Escape
import KeyTree.Text.Naming
import KeyTree.Layout.Basic
import KeyTree.Document.Keys
import KeyTree.Codegen.Source
import KeyTree.Document.Format
import KeyTree.Integers
import KeyTree.Exchange
import KeyTree.Document.Basic
import KeyTree.Yaml.Content
import KeyTree.Command.Run
import KeyTree.Main
import KeyTree.Proofs.Compiled.Chain
import KeyTree.Proofs.Document.Accepted
import KeyTree.Proofs.Codegen.Parity
import KeyTree.Proofs.Layout.Keys
import KeyTree.Proofs.Schema.Lint
import KeyTree.Proofs.Codegen.Accepted
import KeyTree.Proofs.Json.Scan
import KeyTree.Proofs.Json.Reading
import KeyTree.Proofs.Document.Written
import KeyTree.Proofs.Document.Saved
import KeyTree.Proofs.Decimal.Integer
import KeyTree.Proofs.Compiled.Distinct
import KeyTree.Proofs.Schema.Absent
import KeyTree.Proofs.Text.Identifiers
import KeyTree.Proofs.Codegen.StructNames
import KeyTree.Proofs.Text.Lexemes
import KeyTree.Proofs.Codegen.Confined
import KeyTree.Proofs.Compiled.Resolution
import KeyTree.Proofs.Compiled.Missing
import KeyTree.Proofs.Command.Render
import KeyTree.Proofs.Codegen.Spelling
import KeyTree.Proofs.Compiled.Faults
import KeyTree.Proofs.Compiled.Continued
import KeyTree.Proofs.Compiled.Needed
import KeyTree.Proofs.Compiled.Makers
import KeyTree.Proofs.Schema.Listing
import KeyTree.Proofs.Document.FirstFault
import KeyTree.Proofs.Document.Pruned
import KeyTree.Proofs.Compiled.Reports
import KeyTree.Proofs.Codegen.Separators
import KeyTree.Proofs.Layout.Addresses
import KeyTree.Proofs.Integers
import KeyTree.Proofs.Exchange
import KeyTree.Proofs.Text.Cuts
import KeyTree.Proofs.Text.NormalForm
