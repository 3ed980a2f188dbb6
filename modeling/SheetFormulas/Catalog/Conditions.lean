import SheetFormulas.Aggregate
import SheetFormulas.Catalog.Answer
import SheetFormulas.Choice

/-!
The entries for aggregates, conditions and conversions.
-/

namespace SheetFormulas.Catalog

open Entry Parameter

def aggregates : List Entry := [
  variadic "SUM" [] fun _ arguments => answer (Aggregate.sum arguments),
  variadic "AVERAGE" [] fun _ arguments => answer (Aggregate.average arguments),
  variadic "MAX" [] fun _ arguments => answer (Aggregate.max arguments),
  variadic "MIN" [] fun _ arguments => answer (Aggregate.min arguments),
  seeingErrors <| variadic "COUNT" [] fun _ arguments => answer (Aggregate.count arguments),
  seeingErrors <| variadic "COUNTA" [] fun _ arguments =>
    return .ofNat (Aggregate.countFilled arguments),
  variadic "AND" [] fun _ arguments => answer (Aggregate.all arguments),
  variadic "OR" [] fun _ arguments => answer (Aggregate.any arguments),
  fixed "NOT" [required "value"] fun _ value _ => answer (Aggregate.not value),
  fixed "NUMBERVALUE"
    [required "text", optional "decimal_separator" (.text "."),
      optional "group_separator" (.text ",")]
    fun _ text decimal group _ => answer (Aggregate.numberValue text decimal group)]

def choices : List Entry := [
  seeingErrors <| fixed "IF"
    [required "condition", required "value_if_true", optional "value_if_false" (.bool false)]
    fun context test whenTrue whenFalse _ => Choice.either context test whenTrue whenFalse,
  seeingErrors <| fixed "IFERROR" [required "value", required "value_if_error"]
    fun context value other _ => Choice.orElse context Value.isError value other,
  seeingErrors <| fixed "IFNA" [required "value", required "value_if_na"]
    fun context value other _ =>
      Choice.orElse context (Value.isErrorOf .notAvailable) value other,
  seeingErrors <| variadic "IFS" [] fun context arguments => Choice.firstTrue context arguments,
  seeingErrors <| variadic "SWITCH" [required "expression"] fun context subject arguments =>
    Choice.switch context subject arguments,
  seeingErrors <| variadic "CHOOSE" [required "index_num"] fun context position arguments =>
    Choice.choose context position arguments]

def errorTests : List Entry := [
  fixed "NA" [] fun _ _ => return .error .notAvailable,
  seeingErrors <| fixed "ISERROR" [required "value"] fun _ value _ => return .bool value.isError,
  seeingErrors <| fixed "ISERR" [required "value"] fun _ value _ =>
    return .bool (value.isError && !value.isErrorOf .notAvailable),
  seeingErrors <| fixed "ISNA" [required "value"] fun _ value _ =>
    return .bool (value.isErrorOf .notAvailable)]

end SheetFormulas.Catalog
