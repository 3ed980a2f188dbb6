import SheetFormulas.Catalog.Answer
import SheetFormulas.Finance.Amortization
import SheetFormulas.Finance.Compounding
import SheetFormulas.Finance.InterestRate
import SheetFormulas.Finance.InternalRate
import SheetFormulas.Finance.VariableBalance

/-!
The entries for loans, cash flows and depreciation.
-/

namespace SheetFormulas.Catalog

open Entry Parameter Finance

/-- A parameter that is zero where it is left out. -/
def orZero (name : String) : Parameter := optional name (.ofInt 0)

def annuities : List Entry := [
  fixed "PV" [required "rate", required "nper", required "pmt", orZero "fv", orZero "type"]
    fun _ rate periods payment future timing _ =>
      answer (Annuity.fromArguments Annuity.presentValue rate periods payment future timing),
  fixed "FV" [required "rate", required "nper", required "pmt", orZero "pv", orZero "type"]
    fun _ rate periods payment present timing _ =>
      answer (Annuity.fromArguments Annuity.futureValue rate periods payment present timing),
  fixed "PMT" [required "rate", required "nper", required "pv", orZero "fv", orZero "type"]
    fun _ rate periods present future timing _ =>
      answer (Annuity.fromArguments Annuity.payment rate periods present future timing),
  fixed "NPER" [required "rate", required "pmt", required "pv", orZero "fv", orZero "type"]
    fun _ rate payment present future timing _ =>
      answer (Annuity.periodCount rate payment present future timing),
  fixed "RATE"
    [required "nper", required "pmt", required "pv", orZero "fv", orZero "type",
      optional "guess" .empty]
    fun _ periods payment present future timing guess _ =>
      answerRun (PaymentPlan.rateOf periods payment present future timing guess),
  fixed "IPMT"
    [required "rate", required "per", required "nper", required "pv", orZero "fv", orZero "type"]
    fun _ rate period periods present future timing _ =>
      answer (Amortization.interestPart rate period periods present future timing),
  fixed "PPMT"
    [required "rate", required "per", required "nper", required "pv", orZero "fv", orZero "type"]
    fun _ rate period periods present future timing _ =>
      answer (Amortization.principalPart rate period periods present future timing),
  fixed "CUMIPMT"
    [required "rate", required "nper", required "pv", required "start_period",
      required "end_period", required "type"]
    fun _ rate periods present first last timing _ => answer do
      (← Amortization.Span.ofArguments rate periods present first last timing).totalInterest,
  fixed "CUMPRINC"
    [required "rate", required "nper", required "pv", required "start_period",
      required "end_period", required "type"]
    fun _ rate periods present first last timing _ => answer do
      (← Amortization.Span.ofArguments rate periods present first last timing).totalPrincipal]

def cashFlows : List Entry := [
  variadic "NPV" [required "rate"] fun _ rate values => answer (CashFlow.netPresent rate values),
  fixed "XNPV" [required "rate", required "values", required "dates"]
    fun _ rate values dates _ => answer (CashFlow.netPresentDated rate values dates),
  fixed "IRR" [required "values", optional "guess" (.ofFloat 0.1)]
    fun _ values guess _ => answerRun (InternalRate.periodic values guess),
  fixed "XIRR" [required "values", required "dates", optional "guess" (.ofFloat 0.1)]
    fun _ values dates guess _ => answerRun (InternalRate.dated values dates guess),
  fixed "MIRR" [required "values", required "finance_rate", required "reinvest_rate"]
    fun _ values finance reinvest _ => answer (CashFlow.modifiedReturn values finance reinvest),
  fixed "EFFECT" [required "nominal_rate", required "npery"]
    fun _ nominal periods _ => answer (Compounding.effectiveRate nominal periods),
  fixed "NOMINAL" [required "effect_rate", required "npery"]
    fun _ effective periods _ => answer (Compounding.nominalRate effective periods),
  fixed "FVSCHEDULE" [required "principal", required "schedule"]
    fun _ principal rates _ => answer (Compounding.schedule principal rates)]

def depreciation : List Entry := [
  fixed "SLN" [required "cost", required "salvage", required "life"]
    fun _ cost salvage life _ => answer (Depreciation.straightLine cost salvage life),
  fixed "SYD" [required "cost", required "salvage", required "life", required "per"]
    fun _ cost salvage life period _ => answer (Depreciation.digitSum cost salvage life period),
  fixed "DB"
    [required "cost", required "salvage", required "life", required "period",
      optional "month" (.ofInt 12)]
    fun _ cost salvage life period months _ =>
      answer (Depreciation.fixedBalance cost salvage life period months),
  fixed "DDB"
    [required "cost", required "salvage", required "life", required "period",
      optional "factor" (.ofInt 2)]
    fun _ cost salvage life period factor _ =>
      answer (Depreciation.decliningBalance cost salvage life period factor),
  fixed "VDB"
    [required "cost", required "salvage", required "life", required "start_period",
      required "end_period", optional "factor" (.ofInt 2), optional "no_switch" (.bool false)]
    fun _ cost salvage life start finish factor noSwitch _ =>
      answer (VariableBalance.depreciation cost salvage life start finish factor noSwitch)]

end SheetFormulas.Catalog
