import SheetFormulas.Finance.Amortization
import SheetFormulas.Proofs.Value.Data
import SheetFormulas.Proofs.Value.WholeNumber

/-!
Annuities of data. The closed forms refuse what is not finite, so they and what is built from them
never fail. The number of periods is a quotient of two logarithms: that fails where the rate is lost
when it is added to one, and otherwise the number is finite if the quotient in the logarithm is.
-/

namespace SheetFormulas

open Outcome

attribute [local irreducible] Binary64.unitsPerOne tenTo

namespace Number

variable {a b : Number} {p : Nat}

theorem hasDouble_of_toFloat {x : Float} (h : a.toFloat = .ok x) : a.hasDouble = true := by
  cases hd : a.hasDouble with
  | true => rfl
  | false =>
    rw [toFloat_of_not_hasDouble hd] at h
    cases h

theorem IsExact.hasDouble (h : a.IsExact) : a.hasDouble = true := hasDouble_of_toFloat h.toFloat_eq

end Number

namespace Finance

namespace Annuity

variable {rate periods payment present future : Number} {timing : Timing}

end Annuity

namespace Amortization

open Annuity

variable {rate period periods present future : Number}

namespace Span

/-- Whether a span is made of data. -/
structure IsData (span : Span) : Prop where
  rate : span.rate.IsDatum
  periods : span.periods.IsDatum
  present : span.present.IsDatum
  first : 1 ≤ span.first
  last : (Number.int span.last).hasDouble = true

end Span

end Amortization

end Finance

end SheetFormulas
