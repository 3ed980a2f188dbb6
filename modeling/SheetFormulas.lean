import SheetFormulas.Catalog.Standard
import SheetFormulas.Session
import SheetFormulas.Proofs.Calendar.SerialParts
import SheetFormulas.Proofs.Lookup.RealCell
import SheetFormulas.Proofs.Lookup.Blanks
import SheetFormulas.Proofs.Lookup.NearestAgreement
import SheetFormulas.Proofs.Value.Consistency
import SheetFormulas.Proofs.Calendar.WorkingDays
import SheetFormulas.Proofs.Value.TextNumber
import SheetFormulas.Proofs.Catalog.Call
import SheetFormulas.Proofs.Value.Relation
import SheetFormulas.Proofs.Choice.Course
import SheetFormulas.Proofs.Choice.ShortCircuit
import SheetFormulas.Proofs.Aggregate.FirstError
import SheetFormulas.Proofs.Lookup.Tables
import SheetFormulas.Proofs.Lookup.IndexOfMatch
import SheetFormulas.Proofs.Lookup.Refusals
import SheetFormulas.Proofs.Lookup.SelectedResult
import SheetFormulas.Proofs.Text.LetterCase
import SheetFormulas.Proofs.Wildcard.Language
import SheetFormulas.Proofs.Run.Answers
import SheetFormulas.Proofs.Calendar.EverySerial
import SheetFormulas.Proofs.Binary64.Rounding
import SheetFormulas.Proofs.Binary64.Arithmetic
import SheetFormulas.Proofs.Binary64.Signs
import SheetFormulas.Proofs.Binary64.Order
import SheetFormulas.Proofs.Binary64.Range
import SheetFormulas.Proofs.Binary64.Logarithm
import SheetFormulas.Proofs.Binary64.Exponential
import SheetFormulas.Proofs.Binary64.Power
import SheetFormulas.Proofs.Number.Arithmetic
import SheetFormulas.Proofs.Value.Data
import SheetFormulas.Proofs.Finance.Annuities
import SheetFormulas.Proofs.Finance.PeriodCount
import SheetFormulas.Proofs.Finance.Rates
import SheetFormulas.Proofs.Finance.Returns
import SheetFormulas.Proofs.Finance.Depreciation
import SheetFormulas.Proofs.Finance.Calls
import SheetFormulas.Proofs.Binary64.Scaling
import SheetFormulas.Proofs.Finance.InterestRate
import SheetFormulas.Proofs.Finance.InternalRate
import SheetFormulas.Proofs.Lookup.SortedSearch
import SheetFormulas.Proofs.Lookup.SortedScan
import SheetFormulas.Proofs.Lookup.NearestInLine
import SheetFormulas.Proofs.Catalog.Registration
import SheetFormulas.Proofs.Summation
import SheetFormulas.Proofs.Finance.CurrencyUnit
import SheetFormulas.Proofs.Wildcard.Escape
import SheetFormulas.Proofs.Lookup.EscapedText
import SheetFormulas.Proofs.Lookup.AddressedCells
import SheetFormulas.Proofs.Reference.Overlong
import SheetFormulas.Proofs.Calendar.Months
import SheetFormulas.Proofs.Calendar.RolledDates
import SheetFormulas.Proofs.Calendar.MonthsAway
import SheetFormulas.Proofs.Calendar.WeekNumbers
import SheetFormulas.Proofs.Calendar.WorkdayFormula
import SheetFormulas.Proofs.Calendar.IsoWeeks
import SheetFormulas.Proofs.Calendar.Differences
import SheetFormulas.Proofs.DateText.ThisYear
import SheetFormulas.Proofs.Calendar.DayFractions
import SheetFormulas.Proofs.Calendar.TimeOfDay
import SheetFormulas.Proofs.DateText.TimePart
import SheetFormulas.Proofs.Binary64.RoundingError
import SheetFormulas.Proofs.Binary64.NonFinite
import SheetFormulas.Proofs.Number.Signs
import SheetFormulas.Proofs.Number.ArithmeticFaults
import SheetFormulas.Proofs.Finance.Bisection
import SheetFormulas.Proofs.Finance.AdmissibleRates
import SheetFormulas.Proofs.Finance.RateDomain
import SheetFormulas.Proofs.Finance.DatedFlows
import SheetFormulas.Proofs.Number.Differences
import SheetFormulas.Proofs.Finance.DecliningLoss
import SheetFormulas.Proofs.Finance.VariableBalance
import SheetFormulas.Proofs.Finance.VariableDepreciation
import SheetFormulas.Proofs.Numeral.Leniency
import SheetFormulas.Proofs.Numeral.GivenSeparators
import SheetFormulas.Proofs.Numeral.SeparatorRoles
import SheetFormulas.Proofs.Decimal.Significant
import SheetFormulas.Proofs.Decimal.Layout
import SheetFormulas.Proofs.Value.NumberText
import SheetFormulas.Proofs.Value.FloatText
import SheetFormulas.Proofs.Value.Flattening
import SheetFormulas.Proofs.Aggregate.Counting
import SheetFormulas.Proofs.Aggregate.NumberLeaves
