import FlightRule.Digest.Sha256
import FlightRule.Format.Record
import FlightRule.Geo.Resolve
import FlightRule.Rule.Compiled

/-!
# Compilation of rule records

Compilation never fails.  A rule that references a missing flight table has the fixed outcome
`fail`; a rule with a relation that joins nothing has the fixed outcome `pass`; a rule whose
places cannot be resolved applies nowhere.  Each deviation leaves an issue.
-/

namespace FlightRule

/-- The first sixteen bytes of the digest of the record's written form, in hexadecimal. -/
def RuleRecord.fingerprint (record : RuleRecord) : String :=
  Text.hexOfBytes ((Digest.sha256 (Json.encode record).text.toUTF8.toList).take 16)

/-- Why a rule gets a fixed outcome instead of criteria. -/
inductive Defect where
  /-- A flight table does not exist. -/
  | missingTable (vendor : String) (itemNo : UInt32)
  /-- The relation at this position joins a slot in which nothing is coded. -/
  | danglingRelation (position : Nat)
deriving DecidableEq, Repr

namespace Defect

/-- The issue that a defect leaves. -/
def issue : Defect → Issue
  | missingTable vendor itemNo => .unresolvedTable vendor itemNo
  | danglingRelation position => .danglingRelation position

/-- The fixed outcome of a rule with a defect. -/
def outcome : Defect → Outcome
  | missingTable _ _ => .fail
  | danglingRelation _ => .pass

end Defect

/--
A step of compilation: the issues found so far, and unless a defect ends it, what it builds.  The
issue of the defect stands behind the others.
-/
structure Build (α : Type) where
  /-- What is built, or the defect that ends the compilation. -/
  result : Except Defect α
  /-- The issues found. -/
  issues : List Issue

namespace Build

/-- Nothing is wrong. -/
def done {α : Type} (value : α) : Build α := ⟨.ok value, []⟩

/-- Something is wrong, but compilation goes on. -/
def note (issues : List Issue) : Build Unit := ⟨.ok (), issues⟩

/-- A defect ends the compilation. -/
def stop {α : Type} (defect : Defect) : Build α := ⟨.error defect, [defect.issue]⟩

instance : Monad Build where
  pure := done
  bind first next :=
    match first.result with
    | .error defect => ⟨.error defect, first.issues⟩
    | .ok value => ⟨(next value).result, first.issues ++ (next value).issues⟩

variable {α β : Type}

/-- What is built does not depend on the issues met before. -/
theorem result_bind (first : Build α) (next : α → Build β) :
    (first >>= next).result = first.result >>= fun value => (next value).result := by
  change (match first.result with
    | .error defect => (⟨.error defect, first.issues⟩ : Build β)
    | .ok value => ⟨(next value).result, first.issues ++ (next value).issues⟩).result = _
  cases first.result <;> rfl

theorem result_bind_of_ok
    {first : Build α}
    {value : α}
    (built : first.result = .ok value)
    (next : α → Build β) :
    (first >>= next).result = (next value).result := by
  rw [result_bind, built]
  rfl

end Build

namespace Slot

/-- The condition of a coded slot. -/
def condition (slot : Slot) (context : Context) (vendor : String) : Build Condition :=
  if slot.tableItem = 0 then
    .done (.flight (.literal slot.carrier (.ofNumber slot.flight)))
  else
    match context.tables vendor slot.tableItem with
    | some table => .done (.table (.ofTable table))
    | none => .stop (.missingTable vendor slot.tableItem)

/-- The condition of a slot that a relation joins to the slots before it, if one does. -/
def joined
    (slot : Slot)
    (relation : Option Relation)
    (position : Nat)
    (context : Context)
    (vendor : String) : Build (Option (Relation × Condition)) :=
  match relation, slot.isCoded with
  | some relation, true => do
    let condition ← slot.condition context vendor
    return some (relation, condition)
  | some _, false => .stop (.danglingRelation position)
  | none, true => do
    Build.note [.orphanSlot (position + 1)]
    return none
  | none, false => .done none

end Slot

namespace Criteria

/--
The criteria of a first condition and the conditions joined to it, from left to right; but an AND
before a CONNECTING joins what the CONNECTING joins.
-/
def chain
    (first : Condition)
    (second third : Option (Relation × Condition)) : Criteria :=
  match second, third with
  | none, none => leaf first
  | some (relation, condition), none => combine relation (leaf first) (leaf condition)
  | none, some (relation, condition) => combine relation (leaf first) (leaf condition)
  | some (.and, second), some (.connecting, third) =>
    combine .and (leaf first) (combine .connecting (leaf second) (leaf third))
  | some (relation1, second), some (relation2, third) =>
    combine relation2 (combine relation1 (leaf first) (leaf second)) (leaf third)

end Criteria

namespace RuleRecord

/-- The first two slots of a range rule reference a flight table. -/
def rangeHasTable (record : RuleRecord) : Bool :=
  record.slots.first.tableItem != 0 || record.slots.second.tableItem != 0

/-- The first two slots are read as the ends of a range of flight numbers. -/
def readsRange (record : RuleRecord) (settings : Settings) : Bool :=
  record.application.isRange && !(record.rangeHasTable && settings.rangeWithTableAsPlain)

/-- The condition of the first slot; when nothing is coded in it, any flown segment will do. -/
def firstCondition (record : RuleRecord) (context : Context) (vendor : String) :
    Build Condition :=
  if record.slots.first.isCoded then record.slots.first.condition context vendor
  else do
    if record.slots.second.isCoded || record.slots.third.isCoded then
      Build.note [.missingFirstSlot]
    return .anyFlown

/-- The condition of a range: the first slot's carrier between the flight numbers of two slots. -/
def rangeCondition (record : RuleRecord) : Build Condition := do
  let first := Text.trim record.slots.first.carrier
  let second := Text.trim record.slots.second.carrier
  if second != "" && !Text.alike first second then
    Build.note [.rangeCarrierMismatch first second]
  return .flight (.literal first (.ofRange record.slots.first.flight record.slots.second.flight))

/-- The criteria of a rule with an application. -/
def criteria (record : RuleRecord) (context : Context) (vendor : String) : Build Criteria := do
  if record.application.isRange && record.rangeHasTable then
    Build.note [.rangeWithTable]
  if record.readsRange context.settings then
    let first ← record.rangeCondition
    let third ← record.slots.third.joined record.relation2 2 context vendor
    return .chain first none third
  else
    let first ← record.firstCondition context vendor
    let second ← record.slots.second.joined record.relation1 1 context vendor
    let third ← record.slots.third.joined record.relation2 2 context vendor
    return .chain first second third

/-- The filters of a record; an equipment without validity is admitted. -/
def filters (record : RuleRecord) : List SegmentFilter :=
  let equipment := Text.trim record.equipment
  let validity := if record.equipmentValidity = .blank then .valid else record.equipmentValidity
  let mask := WeekdaySet.ofText record.days
  (if equipment = "" then [] else [.equipment equipment validity]) ++
    if mask.isEmpty then [] else [.days mask]

/-- The requirement of a record whose data are available. -/
def requirement (record : RuleRecord) (context : Context) (vendor : String) :
    Build Requirement := do
  let criteria ←
    if record.application = .blank then pure none
    else some <$> record.criteria context vendor
  Build.note ((WeekdaySet.strayChars record.days).map .invalidDay)
  return {
    criteria
    filters := record.filters
    shape := ShapeConstraint.ofFlags record.shape record.geo.hidden }

/-- What a record asks for, and the issues met. -/
def demand (record : RuleRecord) (context : Context) (vendor : String) : Demand × List Issue :=
  match record.availability with
  | .dataUnavailable => (.fixed .fail, [])
  | .textOnly => (.fixed .skip, [])
  | .available =>
    let build := record.requirement context vendor
    match build.result with
    | .ok requirement => (.requires requirement, build.issues)
    | .error defect => (.fixed defect.outcome, build.issues)

/-- Where a record applies, and the issue met. -/
def reach (record : RuleRecord) (context : Context) (vendor : String) : Reach × List Issue :=
  match GeoScope.resolve context vendor record.geo with
  | .ok scope => (.within scope, [])
  | .error issue => (.nowhere, [issue])

/-- The compiled rule of a record; flight tables and geographic items are those of `vendor`. -/
def compile
    (record : RuleRecord)
    (use : RuleUse)
    (vendor : String)
    (context : Context) : CompiledRule where
  vendor := record.vendor
  itemNo := record.itemNo
  fingerprint := record.fingerprint
  use
  application := record.application
  direction := record.direction
  demand := (record.demand context vendor).1
  reach := (record.reach context vendor).1
  issues := (record.demand context vendor).2 ++ (record.reach context vendor).2

end RuleRecord

end FlightRule
