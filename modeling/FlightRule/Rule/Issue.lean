/-!
# Issues of a rule

What can be wrong with a rule and the reference data that it uses.  A rule with issues is compiled
all the same; `Issue.text` says what becomes of it.
-/

namespace FlightRule

/-- Something that is wrong with a rule. -/
inductive Issue where
  /-- A referenced flight table does not exist. -/
  | unresolvedTable (vendor : String) (itemNo : UInt32)
  /-- A referenced geographic item does not exist. -/
  | unresolvedGeoItem (vendor : String) (itemNo : UInt32)
  /-- The trip structure of a geographic item does not exist. -/
  | unresolvedTripStructure (number : UInt32)
  /-- A relation joins a slot in which nothing is coded. -/
  | danglingRelation (position : Nat)
  /-- Nothing is coded in the first slot, but something in a later one. -/
  | missingFirstSlot
  /-- A slot is coded but no relation joins it. -/
  | orphanSlot (slot : Nat)
  /-- The two ends of a range name different carriers. -/
  | rangeCarrierMismatch (first second : String)
  /-- A range rule also references a flight table. -/
  | rangeWithTable
  /-- A character of the weekdays is not the digit of a weekday. -/
  | invalidDay (char : Char)
deriving DecidableEq, Repr

/-- The message for an issue. -/
def Issue.text : Issue → String
  | unresolvedTable vendor itemNo =>
    "承运人航班表 " ++ vendor ++ "/" ++ toString itemNo.toNat ++ " 不存在，规则降级为 FAIL"
  | unresolvedGeoItem vendor itemNo =>
    "地理项 " ++ vendor ++ "/" ++ toString itemNo.toNat ++ " 不存在，规则降级为 SKIP"
  | unresolvedTripStructure number =>
    "行程结构范围 " ++ toString number.toNat ++ " 不存在，规则降级为 SKIP"
  | danglingRelation position =>
    "关系运算符 " ++ toString position ++ " 缺少右侧条件，规则降级为 PASS"
  | missingFirstSlot => "槽位 1 未编码，按任意飞行航段处理"
  | orphanSlot slot => "槽位 " ++ toString slot ++ " 已编码但没有关系运算符，已忽略"
  | rangeCarrierMismatch first second =>
    "区间两端承运人不同（" ++ first ++ " / " ++ second ++ "），按第一个承运人处理"
  | rangeWithTable => "区间方式与航班表同时使用，按普通方式处理"
  | invalidDay char => "星期代码 '" ++ String.singleton char ++ "' 无效，已忽略"

end FlightRule
