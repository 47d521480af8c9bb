import QuotaShare.Table.Name
import QuotaShare.Text.Blank
import QuotaShare.Decimal.Numeral

/-!
# Quotas

The quota of a table as it is configured: a text that may or may not stand for a rate.  It is kept
as a text so that a value that is no rate can be reported.
-/

namespace QuotaShare

/-- The configured quota of a table. -/
structure Quota where
  /-- The queries per second that the whole cluster may serve. -/
  perSecond : Option String
  deriving DecidableEq, Repr

namespace Quota

/-- The configured text without blanks around it, unless it is empty. -/
def raw? (q : Quota) : Option String :=
  (q.perSecond.map Text.trim).filter fun s => s != ""

/-- The configured rate, if it is a finite positive number. -/
def rate? (q : Quota) : Option Float :=
  (q.raw?.bind Decimal.float?).filter fun x => x.isFinite && decide (0.0 < x)

end Quota

/-- A table and its quota. -/
structure TableConfig where
  /-- The name of the table, which carries the suffix of its variant. -/
  table : String
  quota : Option Quota
  deriving DecidableEq, Repr

/-- The rate that a table's quota stands for. -/
def TableConfig.rate? (c : TableConfig) : Option Float :=
  c.quota.bind Quota.rate?

end QuotaShare
