import SheetFormulas.Catalog.Answer
import SheetFormulas.Dates.Clock
import SheetFormulas.Dates.Interval
import SheetFormulas.Dates.Week
import SheetFormulas.Dates.Workdays

/-!
The entries for dates and times.
-/

namespace SheetFormulas.Catalog

open Entry Parameter

/-- An entry with one serial as its argument. -/
def ofSerial (name : String) (part : Moment → Value → Outcome Nat) : Entry :=
  fixed name [required "serial_number"] fun context serial _ => answer (part context.now serial)

def dates : List Entry := [
  fixed "DATE" [required "year", required "month", required "day"]
    fun _ year month day _ => answer (Dates.date year month day),
  fixed "TIME" [required "hour", required "minute", required "second"]
    fun _ hour minute second _ => answer (Dates.time hour minute second),
  fixed "TODAY" [] fun context _ => answer (Dates.today context.now),
  fixed "NOW" [] fun context _ => answer (Dates.currentTime context.now),
  ofSerial "YEAR" Dates.year,
  ofSerial "MONTH" Dates.month,
  ofSerial "DAY" Dates.day,
  ofSerial "HOUR" Dates.hour,
  ofSerial "MINUTE" Dates.minute,
  ofSerial "SECOND" Dates.second,
  fixed "WEEKDAY" [required "serial_number", optional "return_type" (.ofInt 1)]
    fun context serial type _ => answer (Dates.weekday context.now serial type),
  fixed "WEEKNUM" [required "serial_number", optional "return_type" (.ofInt 1)]
    fun context serial type _ => answer (Dates.weekNumber context.now serial type),
  fixed "EDATE" [required "start_date", required "months"]
    fun context start months _ => answer (Dates.monthsAway context.now start months),
  fixed "EOMONTH" [required "start_date", required "months"]
    fun context start months _ => answer (Dates.monthEnd context.now start months),
  fixed "DATEDIF" [required "start_date", required "end_date", required "unit"]
    fun context start finish unit _ => answer (Dates.difference context.now start finish unit),
  fixed "DAYS" [required "end_date", required "start_date"]
    fun context finish start _ => answer (Dates.days context.now finish start),
  fixed "NETWORKDAYS" [required "start_date", required "end_date", optional "holidays" .empty]
    fun context start finish holidays _ =>
      answer (Dates.workdaysBetween context.now start finish holidays),
  fixed "WORKDAY" [required "start_date", required "days", optional "holidays" .empty]
    fun context start days holidays _ => answer (Dates.workday context.now start days holidays),
  fixed "DATEVALUE" [required "date_text"] fun context text _ =>
    answer (Dates.dateValue context.now text),
  fixed "TIMEVALUE" [required "time_text"] fun context text _ =>
    answer (Dates.timeValue context.now text)]

end SheetFormulas.Catalog
