import ViewAssembly.Main
import ViewAssembly.Service.Basic
import ViewAssembly.Shipped.Functions
import ViewAssembly.Proofs.Assembly.Choices
import ViewAssembly.Proofs.Assembly.Failure
import ViewAssembly.Proofs.Assembly.Independence
import ViewAssembly.Proofs.Assembly.Order
import ViewAssembly.Proofs.Assembly.Settings
import ViewAssembly.Proofs.Assembly.Spelling
import ViewAssembly.Proofs.Assembly.TopLevel
import ViewAssembly.Proofs.Assembly.Undeclared
import ViewAssembly.Proofs.Assembly.Unoffered
import ViewAssembly.Proofs.Catalog
import ViewAssembly.Proofs.Header.Brought
import ViewAssembly.Proofs.Header.Layers
import ViewAssembly.Proofs.Header.Places
import ViewAssembly.Proofs.Json.Proper
import ViewAssembly.Proofs.Language.Hint
import ViewAssembly.Proofs.Language.Tree
import ViewAssembly.Proofs.Override.Entrywise
import ViewAssembly.Proofs.Override.Idempotence
import ViewAssembly.Proofs.Override.Keyed
import ViewAssembly.Proofs.Override.Merging
import ViewAssembly.Proofs.Override.Rank
import ViewAssembly.Proofs.Schema.Snapshot
import ViewAssembly.Proofs.Script.Comment
import ViewAssembly.Proofs.Script.Expression
import ViewAssembly.Proofs.Script.Inlined
import ViewAssembly.Proofs.Script.Search
import ViewAssembly.Proofs.Script.Template
import ViewAssembly.Proofs.Section.Filters
import ViewAssembly.Proofs.Section.Related
import ViewAssembly.Proofs.Section.Relations
import ViewAssembly.Proofs.Text.CommaList
import ViewAssembly.Proofs.View.Agreement
import ViewAssembly.Proofs.View.Blockwise
import ViewAssembly.Proofs.View.Functions
import ViewAssembly.Proofs.View.Record
import ViewAssembly.Proofs.View.Usable
