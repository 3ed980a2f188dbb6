import SheetFormulas.ErrorKind

/-!
What can go wrong while a function runs. A *refusal* is part of the language: the function call
answers with an error value. A *failure* means that the call itself is wrong, or that a number
leaves every range; it passes through all function calls unchanged.
-/

namespace SheetFormulas

inductive Target where
  | number
  | boolean
  | text
  deriving DecidableEq

def Target.name : Target → String
  | number => "number"
  | boolean => "boolean"
  | text => "text"

/-- Why a value could not be converted to the type that is needed. -/
inductive CoercionCause where
  | unknownType (shown : String)
  | notANumber (target : Target)
  | text (text : String) (target : Target)
  | array (target : Target)
  | other (shown : String) (target : Target)
  | arrayCondition
  | equalSeparators
  | noLogicalValues (function : String)
  | emptyDate
  | unreadableDate (text : String)
  | notThisYear (text : String)
  | textExpected (function what : String)
  | numericDate (text what : String)
  | dateTooEarly (text : String)
  | arrayLookupValue
  | stated (message : String)
  deriving DecidableEq

def CoercionCause.message : CoercionCause → String
  | unknownType shown => "Unknown Excel type for value: " ++ shown
  | notANumber target => "NaN is not a valid " ++ target.name
  | text t target => "Cannot convert text '" ++ t ++ "' to " ++ target.name
  | array target => "Cannot convert array to " ++ target.name
  | other shown target => "Cannot convert " ++ shown ++ " to " ++ target.name
  | arrayCondition => "Condition must be a single value"
  | equalSeparators => "Decimal and group separators must differ"
  | noLogicalValues function => function ++ " has no logical values"
  | emptyDate => "Empty date text"
  | unreadableDate t => "Cannot parse '" ++ t ++ "' as a date or time"
  | notThisYear t => "'" ++ t ++ "' is not a valid date this year"
  | textExpected function what => function ++ " expects " ++ what
  | numericDate t what => "'" ++ t ++ "' is a number, not a " ++ what
  | dateTooEarly t => "'" ++ t ++ "' is before 1900"
  | arrayLookupValue => "Lookup value must be a single value"
  | stated message => message

/-- Why a function answers with an error value. -/
inductive Refusal where
  | coercion (cause : CoercionCause)
  /-- An error value met inside an argument. -/
  | carried (kind : ErrorKind)
  | notFinite (shown : String)
  -- dates
  | serialOutOfRange (shown : String)
  | beforeCalendar (shown : String)
  | yearOutOfRange (year : Int)
  | dateOutOfRange
  | weekType (function : String) (type : Int)
  | startAfterEnd
  | unknownUnit (code : String)
  -- aggregates and conditions
  | averageOfNothing
  | unpairedConditions
  | noTrueCondition
  | noMatchingCase
  | choiceIndex (index : Int)
  -- lookup
  | notOneLine
  | wildcardBinarySearch
  | matchMode (mode : Int)
  | searchMode (mode : Int)
  | indexBelowOne
  | indexOutsideTable (index : Int)
  | notFound (shown : String)
  | negativePosition
  | rowOutsideRow (row : Int)
  | indexOutOfRange (index : Int)
  | positionOutOfRange
  | sizesDiffer
  | emptyLookup
  | emptyReference
  | leavesReference
  -- references
  | malformedReference (text : String)
  | badColumn (text : String)
  | outsideGrid (text : String)
  | emptySheet
  | reversedRange
  -- payments and rates
  | resultNotFinite (formula : String)
  | zeroPeriods
  | periodOutOfRange (shown : String)
  | missingSign (kind : ErrorKind)
  | lengthsDiffer
  | earlyDate
  | tooFewFlows
  | rateIsMinusOne
  | rateTooLow
  | noRateNoPayment
  | noPeriodFits
  | periodsNotPositive
  | noSignChange
  | noConvergence (solver : String)
  | cumulativeSigns
  | cumulativeRange
  | noRealRate
  -- depreciation and compounding
  | zeroLife
  | lifeOrPeriod
  | fixedBalanceArguments
  | partialYearMonths
  | doubleBalanceArguments
  | variableBalancePeriods
  | variableBalanceArguments
  | effectiveArguments
  | nominalArguments
  /-- A refusal of a function that is not built in. -/
  | stated (kind : ErrorKind) (message : String)
  deriving DecidableEq

namespace Refusal

/-- The error value that a refused call answers with. -/
def kind : Refusal → ErrorKind
  | coercion _ => .badValue
  | carried kind => kind
  | unknownUnit _ => .badValue
  | averageOfNothing => .divisionByZero
  | unpairedConditions | noTrueCondition | noMatchingCase => .notAvailable
  | choiceIndex _ => .badValue
  | notOneLine => .notAvailable
  | wildcardBinarySearch | matchMode _ | searchMode _ | indexBelowOne => .badValue
  | indexOutsideTable _ => .badReference
  | notFound _ => .notAvailable
  | negativePosition => .badValue
  | rowOutsideRow _ | indexOutOfRange _ | positionOutOfRange => .badReference
  | sizesDiffer => .badValue
  | emptyLookup => .notAvailable
  | emptyReference | leavesReference => .badReference
  | malformedReference _ | badColumn _ | outsideGrid _ | emptySheet | reversedRange =>
    .badReference
  | missingSign kind => kind
  | rateIsMinusOne | zeroLife => .divisionByZero
  | stated kind _ => kind
  | _ => .badNumber

def message : Refusal → String
  | coercion cause =>
    let text := cause.message
    if text.isEmpty then ErrorKind.badValue.display else text
  | carried kind => kind.display
  | notFinite shown => shown ++ " is not a finite number"
  | serialOutOfRange shown => "Serial " ++ shown ++ " is out of range"
  | beforeCalendar shown => shown ++ " is before 1900"
  | yearOutOfRange year => "Year " ++ year.repr ++ " is out of range"
  | dateOutOfRange => "Date is out of range"
  | weekType function type => "Bad " ++ function ++ " type " ++ type.repr
  | startAfterEnd => "Start date is after end date"
  | unknownUnit code => "Unknown DATEDIF unit '" ++ code ++ "'"
  | averageOfNothing => "AVERAGE of no numbers"
  | unpairedConditions => "IFS needs condition/value pairs"
  | noTrueCondition => "No IFS condition was true"
  | noMatchingCase => "No SWITCH case matched"
  | choiceIndex index => "Bad CHOOSE index " ++ index.repr
  | notOneLine => "Lookup array must be one row or column"
  | wildcardBinarySearch => "Wildcard matching cannot use binary search"
  | matchMode mode => "Invalid match mode " ++ mode.repr
  | searchMode mode => "Invalid search mode " ++ mode.repr
  | indexBelowOne => "Index must be at least 1"
  | indexOutsideTable index => "Index " ++ index.repr ++ " is outside the table"
  | notFound shown => shown ++ " not found"
  | negativePosition => "Negative INDEX position"
  | rowOutsideRow row => "Row " ++ row.repr ++ " outside a row"
  | indexOutOfRange index => "Index " ++ index.repr ++ " is out of range"
  | positionOutOfRange => "INDEX position is out of range"
  | sizesDiffer => "Array sizes do not match"
  | emptyLookup => "Empty lookup array"
  | emptyReference => "Empty reference"
  | leavesReference => "OFFSET leaves the reference"
  | malformedReference text => "Malformed reference '" ++ text ++ "'"
  | badColumn text => "Bad column in '" ++ text ++ "'"
  | outsideGrid text => "'" ++ text ++ "' is outside the grid"
  | emptySheet => "Empty sheet name"
  | reversedRange => "Range start is after its end"
  | resultNotFinite formula => formula ++ " is not finite"
  | zeroPeriods => "Number of periods cannot be 0"
  | periodOutOfRange shown => "Period " ++ shown ++ " is out of range"
  | missingSign _ => "Need at least one inflow and one outflow"
  | lengthsDiffer => "Values and dates differ in length"
  | earlyDate => "A date precedes the first date"
  | tooFewFlows => "XIRR needs at least two flows"
  | rateIsMinusOne => "Rate cannot be -100%"
  | rateTooLow => "Rate must be above -100%"
  | noRateNoPayment => "Rate and payment are both 0"
  | noPeriodFits => "No number of periods fits"
  | periodsNotPositive => "nper must be positive"
  | noSignChange => "RATE found no sign change"
  | noConvergence solver => solver ++ " did not converge"
  | cumulativeSigns => "Rate, nper and pv must be positive"
  | cumulativeRange => "Invalid period range or type"
  | noRealRate => "MIRR has no real solution"
  | zeroLife => "Life cannot be 0"
  | lifeOrPeriod => "Invalid life or period"
  | fixedBalanceArguments => "Invalid DB arguments"
  | partialYearMonths => "Month must be 1-12"
  | doubleBalanceArguments => "Invalid DDB arguments"
  | variableBalancePeriods => "Invalid VDB periods"
  | variableBalanceArguments => "Invalid VDB arguments"
  | effectiveArguments => "Invalid EFFECT arguments"
  | nominalArguments => "Invalid NOMINAL arguments"
  | stated kind message => if message.isEmpty then kind.display else message

/-- Whether the refusal is a failed conversion. -/
def isCoercion : Refusal → Bool
  | coercion _ => true
  | _ => false

end Refusal

/-- Why a call cannot be answered at all. -/
inductive Failure where
  /-- The arguments do not fit the parameters. -/
  | arguments
  /-- A table row that holds no cells is indexed, measured or cut. -/
  | notARow
  /-- A cell beyond the end of its row. -/
  | pastRowEnd
  | missingEntry
  /-- A number too large for a double, or a power that overflows. -/
  | overflow
  | zeroDivision
  /-- A serial of less than one day has a time but no calendar date. -/
  | timeOnly
  /-- A value outside a function's domain, such as a whole number with too many digits. -/
  | invalid
  /-- A text that cannot be read, with the reason. -/
  | unreadable (message : String)
  /-- A number with too many digits for the arithmetic of remainders. -/
  | remainderTooLong
  /-- A year without its century that comes to lie before the first year of all. -/
  | negativeYear
  /-- Deferred values that force each other without end. -/
  | tooDeep
  deriving DecidableEq

/-- What can go wrong: a refusal or a failure. -/
inductive Fault where
  | refusal (cause : Refusal)
  | failure (cause : Failure)
  deriving DecidableEq

/-- The answer of a computation that may be refused or fail. -/
abbrev Outcome (α : Type) := Except Fault α

def refuse {α : Type} (cause : Refusal) : Outcome α := .error (.refusal cause)

/-- Refuses because of a failed conversion. -/
def refuseCoercion {α : Type} (cause : CoercionCause) : Outcome α := refuse (.coercion cause)

def fail {α : Type} (cause : Failure) : Outcome α := .error (.failure cause)

end SheetFormulas
