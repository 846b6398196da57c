import FlightRule.Format.Compiled
import FlightRule.Reference.Data
import FlightRule.Rule.Compile
import FlightRule.Rule.Evaluate

/-!
# Journal

What compilation, evaluation and storage report on their way.  Each event has a level and a
message; the journal of an operation is the list of its events in order.
-/

namespace FlightRule

/-- How important an event is. -/
inductive Level where
  | trace
  | debug
  | info
  | warn
  | error
deriving DecidableEq, Repr

/-- The name of a level. -/
def Level.name : Level → String
  | trace => "TRACE"
  | debug => "DEBUG"
  | info => "INFO"
  | warn => "WARN"
  | error => "ERROR"

/-- Something worth a line in the journal. -/
inductive Event where
  /-- A rule has an issue. -/
  | issueFound (rule : CompiledRule) (issue : Issue)
  /-- A rule is compiled. -/
  | ruleCompiled (rule : CompiledRule)
  /-- What a compiled rule asks for is shown. -/
  | demandShown (rule : CompiledRule)
  /-- A journey has no window for a rule. -/
  | windowMissing (rule : CompiledRule)
  /-- A rule is judged on the flown segments of its window. -/
  | ruleJudged (rule : CompiledRule) (flown : Nat) (spans : List Span) (outcome : Outcome)
  /-- Reference data are loaded. -/
  | referenceLoaded (data : ReferenceData)
  /-- There are no stored settings. -/
  | settingsAbsent (path : String)
  /-- Settings are stored. -/
  | settingsSaved (path : String)

/-- The vendor and number of a rule. -/
def CompiledRule.label (rule : CompiledRule) : String :=
  rule.vendor ++ "/" ++ toString rule.itemNo.toNat

/-- The text of a span in messages. -/
def Span.text (span : Span) : String :=
  "Span \x7b start: " ++ toString span.start ++ ", end: " ++ toString span.stop ++ " \x7d"

/-- The text of a list of spans in messages. -/
def Span.listText (spans : List Span) : String :=
  "[" ++ ", ".intercalate (spans.map Span.text) ++ "]"

namespace Event

/-- The level of an event. -/
def level : Event → Level
  | issueFound _ _ => .warn
  | ruleCompiled _ => .debug
  | demandShown _ => .debug
  | windowMissing _ => .trace
  | ruleJudged _ _ _ _ => .trace
  | referenceLoaded _ => .info
  | settingsAbsent _ => .debug
  | settingsSaved _ => .info

/-- The message of an event. -/
def message : Event → String
  | issueFound rule issue => "航班适用规则 " ++ rule.label ++ ": " ++ issue.text
  | ruleCompiled rule =>
    "已编译航班适用规则 " ++ rule.label ++ " (指纹 " ++ rule.fingerprint ++ ", " ++
      toString rule.issues.length ++ " 个问题)"
  | demandShown rule => "规则 " ++ rule.label ++ " 谓词树: " ++ (Json.encode rule.demand).text
  | windowMissing rule => "规则 " ++ rule.label ++ ": 地理作用域为空"
  | ruleJudged rule flown spans outcome =>
    "规则 " ++ rule.label ++ ": " ++ toString flown ++ " 个飞行航段, 见证 " ++
      Span.listText spans ++ ", 结果 " ++ outcome.word
  | referenceLoaded data =>
    "已载入参考数据: " ++ toString data.tableCount ++ " 个航班表, " ++
      toString data.geoItemCount ++ " 个地理项"
  | settingsAbsent path => "配置文件不存在，使用默认配置: " ++ path
  | settingsSaved path => "已保存引擎配置: " ++ path

end Event

namespace CompiledRule

/-- The journal of the compilation that gave a rule. -/
def journal (rule : CompiledRule) (settings : Settings) : List Event :=
  rule.issues.map (.issueFound rule) ++ .ruleCompiled rule ::
    if settings.showDemand then [.demandShown rule] else []

/-- The event of a finding, if it is worth one. -/
def event? (rule : CompiledRule) : Finding → Option Event
  | .outOfReach => none
  | .noWindow => some (.windowMissing rule)
  | .nothingFlown => none
  | .judged flown spans outcome => some (.ruleJudged rule flown spans outcome)

/-- The journal of an evaluation on the itinerary of a single fare. -/
def evaluationJournal
    (rule : CompiledRule)
    (context : Context)
    (itinerary : Itinerary) : List Event :=
  (rule.findings context itinerary).filterMap rule.event?

/-- The journal of an evaluation on a usage in a pricing unit. -/
def evaluationJournalInUnit
    (rule : CompiledRule)
    (context : Context)
    (unit : PricingUnit)
    (usage : FareUsage) : List Event :=
  (rule.findingsInUnit context unit usage).filterMap rule.event?

end CompiledRule

end FlightRule
