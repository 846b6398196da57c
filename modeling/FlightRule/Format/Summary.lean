import FlightRule.Context
import FlightRule.Json.Record

/-!
# Settings and contexts as texts

Settings are read and written as a JSON record.  The part of a context that is not reference data
also has a form in words, for the journal.
-/

namespace FlightRule

open Json

/-! ## The written form of settings -/

instance : Encode Settings where
  encode settings := ofFields [
    ("qualifier_softpass_as_skip", encode settings.softPassAsSkip),
    ("range_with_table_as_plain", encode settings.rangeWithTableAsPlain),
    ("log_compiled_tree", encode settings.showDemand)]

instance : Decode Settings where
  decode levels := readRecord levels fun levels => do
    let softPassAsSkip ← fieldOr "qualifier_softpass_as_skip" true (decode levels)
    let rangeWithTableAsPlain ← fieldOr "range_with_table_as_plain" true (decode levels)
    let showDemand ← fieldOr "log_compiled_tree" false (decode levels)
    return { softPassAsSkip, rangeWithTableAsPlain, showDemand }

/-! ## Summaries in words -/

/-- The word for a truth value. -/
def truthWord (value : Bool) : String :=
  if value then "true" else "false"

/-- The names and values of settings. -/
def Settings.summary (settings : Settings) : String :=
  "EngineConfig \x7b qualifier_softpass_as_skip: " ++ truthWord settings.softPassAsSkip ++
    ", range_with_table_as_plain: " ++ truthWord settings.rangeWithTableAsPlain ++
    ", log_compiled_tree: " ++ truthWord settings.showDemand ++ " \x7d"

/-- The names and values of a context, without its reference data. -/
def Context.summary (context : Context) : String :=
  "TransactionContext \x7b round_the_world: " ++ truthWord context.roundTheWorld ++
    ", config: " ++ context.settings.summary ++ ", .. \x7d"

end FlightRule
