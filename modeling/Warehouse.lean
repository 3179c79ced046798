import Warehouse.Main
import Warehouse.Module.Writer
import Warehouse.Policy.Resolution
import Warehouse.Statement.Hive
import Warehouse.Statement.Redshift
import Warehouse.Statement.Upsert
import Warehouse.Statement.View
import Warehouse.Proofs.Binding.Sites
import Warehouse.Proofs.Instance.Values
import Warehouse.Proofs.Table.Coherence
import Warehouse.Proofs.Table.Reachable
import Warehouse.Proofs.Template.Cuts
import Warehouse.Proofs.Table.Comparisons
import Warehouse.Proofs.Policy.Earliest
import Warehouse.Proofs.Statement.Restriction
import Warehouse.Proofs.Statement.Overwrite
import Warehouse.Proofs.Table.Direct
import Warehouse.Proofs.Column.LoadItem
import Warehouse.Proofs.Table.Dropped
import Warehouse.Proofs.Statement.Loading
import Warehouse.Proofs.Template.Rendering
import Warehouse.Proofs.Text.Reading
import Warehouse.Proofs.Vocabulary.PrestoType
import Warehouse.Proofs.Binding.Steps
import Warehouse.Proofs.Vocabulary.Unambiguous
import Warehouse.Proofs.Module.Inheritance
import Warehouse.Proofs.Prototype.Rows
import Warehouse.Proofs.Module.Checked
import Warehouse.Proofs.Template.Groups
import Warehouse.Proofs.Catalog.History
import Warehouse.Proofs.Condition.Reading
import Warehouse.Proofs.Statement.Narrowing
import Warehouse.Proofs.Column.Remainder
import Warehouse.Proofs.Statement.Anonymisation
import Warehouse.Proofs.Policy.Coverage
import Warehouse.Proofs.Statement.Merge
import Warehouse.Proofs.Statement.ExistingRows
import Warehouse.Proofs.Module.Places
import Warehouse.Proofs.Module.OwnRules
import Warehouse.Proofs.Module.FullNames
import Warehouse.Proofs.Table.Redeclared
import Warehouse.Proofs.Statement.SharedCondition
import Warehouse.Proofs.Statement.SelectText
import Warehouse.Proofs.Dialect.Trino
import Warehouse.Proofs.Document.Records
import Warehouse.Proofs.Module.ReadBack
import Warehouse.Proofs.Template.Composition
import Warehouse.Proofs.Shape.Extending
import Warehouse.Proofs.Shape.Shared
import Warehouse.Proofs.Statement.Feeds
import Warehouse.Proofs.Shape.Reordered
import Warehouse.Proofs.Statement.Literals
import Warehouse.Proofs.Template.Filled
import Warehouse.Proofs.Vocabulary.Complete
import Warehouse.Proofs.Policy.ByShape
import Warehouse.Proofs.Vocabulary.Quoted
import Warehouse.Proofs.Statement.Objects
import Warehouse.Proofs.Statement.PartitionLists
import Warehouse.Proofs.Markdown.Rows
import Warehouse.Proofs.Statement.Bare
import Warehouse.Proofs.PartitionValue.Parentheses
import Warehouse.Proofs.Template.Expressions
import Warehouse.Proofs.Statement.SortKeys
import Warehouse.Proofs.TableName.Words
import Warehouse.Proofs.Template.Agreement
import Warehouse.Proofs.Template.Untouched
import Warehouse.Proofs.Statement.KeyDeletion
import Warehouse.Proofs.Statement.SetPartitions
