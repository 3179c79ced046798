import Warehouse.Dict

/-!
Policies on old data: partitions that are dropped after some days, or whose personal data is removed,
or that are left to a person. A table has at most one policy of each kind.
-/

namespace Warehouse

/-- The kinds of policies. -/
inductive PolicyKind where
  | partitionRetention
  | partitionAnonymisation
  | manualAnonymisation
  deriving DecidableEq, Repr

namespace PolicyKind

/-- Every kind of policy, in order. -/
def all : List PolicyKind := [partitionRetention, partitionAnonymisation, manualAnonymisation]

/-- The kind's name in messages. -/
def label : PolicyKind → String
  | partitionRetention => "PartitionRetention"
  | partitionAnonymisation => "PartitionAnonymisation"
  | manualAnonymisation => "ManualAnonymisation"

/-- The kind's name in declaration files. -/
def key : PolicyKind → String
  | partitionRetention => "partition_retention"
  | partitionAnonymisation => "partition_anonymisation"
  | manualAnonymisation => "manual_anonymisation"

/-- The kind that a declaration file names. -/
def ofKey? (s : String) : Option PolicyKind := all.find? fun k => k.key = s

end PolicyKind

/-- When a policy acts on a partition: after so many days, and on which one first. -/
structure Expiry where
  daysAgo : UInt32
  earliest : Option (Dict String) := none
  deriving DecidableEq

/-- A policy on the partitions of a table. -/
inductive Policy where
  | retention (expiry : Expiry)
  | anonymisation (expiry : Expiry)
  | manual
  deriving DecidableEq

namespace Policy

/-- The kind of the policy. -/
def kind : Policy → PolicyKind
  | retention _ => .partitionRetention
  | anonymisation _ => .partitionAnonymisation
  | manual => .manualAnonymisation

/-- When the policy acts, if it acts by itself. -/
def expiry? : Policy → Option Expiry
  | retention e => some e
  | anonymisation e => some e
  | manual => none

end Policy

/-- The policies of a table, at most one of each kind. -/
structure Policies where
  retention : Option Expiry := none
  anonymisation : Option Expiry := none
  manual : Bool := false
  deriving DecidableEq

namespace Policies

/-- No policy. -/
def none : Policies := {}

/-- The policies with another one, which replaces the one of its kind. -/
def insert (ps : Policies) : Policy → Policies
  | .retention e => { ps with retention := some e }
  | .anonymisation e => { ps with anonymisation := some e }
  | .manual => { ps with manual := true }

/-- The policies of a list; of several of one kind the last counts. -/
def ofList (policies : List Policy) : Policies := policies.foldl insert none

/-- The policy of a kind. -/
def find? (ps : Policies) : PolicyKind → Option Policy
  | .partitionRetention => ps.retention.map .retention
  | .partitionAnonymisation => ps.anonymisation.map .anonymisation
  | .manualAnonymisation => if ps.manual then some .manual else Option.none

/-- The policies in the order of their kinds. -/
def toList (ps : Policies) : List Policy := PolicyKind.all.filterMap ps.find?

/-- The policies, with those of another collection for the kinds that have none. -/
def orElse (ps others : Policies) : Policies where
  retention := ps.retention.or others.retention
  anonymisation := ps.anonymisation.or others.anonymisation
  manual := ps.manual || others.manual

end Policies

end Warehouse
