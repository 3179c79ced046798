import Warehouse.Statement.Anonymise
import Warehouse.Statement.Delete

/-!
What a policy means for a table: the statement that applies it to its earliest partition. The statement
is written for a fresh table with the values of that partition, and its condition ignores the partitions
that the policy does not name.
-/

namespace Warehouse

/-- The partition that a policy acts on first, which it must give. -/
def Policy.earliest (p : Policy) (e : Expiry) : Except Problem (Dict String) :=
  match e.earliest with
  | some values =>
    if values.isEmpty then .error (.policyIncomplete p.kind.label "earliest_partition is not specified")
    else .ok values
  | none => .error (.policyIncomplete p.kind.label "earliest_partition is not specified")

namespace Table

/-- The scope of the table's partition that ignores the partitions not named. -/
def scopeOf (t : Table) (named : Dict String) : Scope where
  ignored := t.partitionNames.filter fun name => !named.contains name

/-- The statement that applies a policy to the table. -/
def resolve (t : Table) (p : Policy) : Except Problem (Option String) :=
  match p with
  | .manual => .ok none
  | .retention e =>
    p.earliest e >>= fun values => t.withValues values >>= fun old =>
      .ok (some (old.deletePartition (old.scopeOf values)))
  | .anonymisation e =>
    p.earliest e >>= fun values => t.withValues values >>= fun old =>
      .ok (old.anonymisePartition (old.scopeOf values))

/-- The statement that applies the table's policy of a kind, if it has one. -/
def resolvePolicy (t : Table) (kind : PolicyKind) : Except Problem (Option String) :=
  match t.policies.find? kind with
  | some p => t.resolve p
  | none => .ok none

/-- The warnings that applying a policy gives. -/
def resolvePolicyWarnings (t : Table) (kind : PolicyKind) : List Warning :=
  match (t.policies.find? kind).bind (·.expiry?) with
  | some e => (e.earliest.map t.withValuesWarnings).getD []
  | none => []

end Table

end Warehouse
