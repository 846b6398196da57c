import FlightRule.Format.Summary
import FlightRule.Format.Travel
import FlightRule.Journal
import FlightRule.Storage.SettingsFile
import FlightRule.Storage.ReferenceFile
import FlightRule.Proofs.Criteria.Meaning
import FlightRule.Proofs.Criteria.Chain
import FlightRule.Proofs.Criteria.Flown
import FlightRule.Proofs.Geo.Ends
import FlightRule.Proofs.Shape.Order
import FlightRule.Proofs.Rule.Slots
import FlightRule.Proofs.Rule.Duality
import FlightRule.Proofs.Rule.Journey
import FlightRule.Proofs.Rule.Connecting
import FlightRule.Proofs.Rule.Unit
import FlightRule.Proofs.Rule.Defects
import FlightRule.Proofs.Rule.Alternatives
import FlightRule.Proofs.Rule.Flown
import FlightRule.Proofs.Rule.Places
import FlightRule.Proofs.Rule.Transaction
import FlightRule.Proofs.Rule.RoundTheWorld
import FlightRule.Proofs.Rule.Case
import FlightRule.Proofs.Rule.Use
import FlightRule.Proofs.Rule.Final
import FlightRule.Proofs.Rule.Paraphrase
import FlightRule.Proofs.Criteria.Equivalence
import FlightRule.Proofs.Ordered.Map
import FlightRule.Proofs.Reference.Additions
import FlightRule.Proofs.Reference.Loading
import FlightRule.Proofs.Rule.References
import FlightRule.Proofs.Rule.Unread
import FlightRule.Proofs.Rule.UsageOrder
import FlightRule.Proofs.Geo.Search
import FlightRule.Proofs.Geo.Passage
import FlightRule.Proofs.Geo.Checked
import FlightRule.Proofs.Geo.Resolution
import FlightRule.Proofs.Rule.Fingerprint
import FlightRule.Proofs.Rule.Nesting
import FlightRule.Proofs.Storage.Settings
import FlightRule.Proofs.Rule.Checked
import FlightRule.Proofs.Rule.Exchange
import FlightRule.Proofs.Criteria.Extent
import FlightRule.Proofs.Criteria.Laws
import FlightRule.Proofs.Criteria.Tables
import FlightRule.Proofs.Criteria.Weaker
import FlightRule.Proofs.Match.Flight
import FlightRule.Proofs.Match.OwnFlight
import FlightRule.Proofs.Calendar.Date
import FlightRule.Proofs.Rule.Weekdays
import FlightRule.Proofs.Shape.Kinds
import FlightRule.Proofs.Reference.Zones
