import Statechart.Definition.Basic
import Statechart.Script
/-!
The built-in machine, the life of a subscription, and the script that goes with it.
-/

namespace Statechart.Preset

open Node (atomic compound)

/-- A subscription that has lapsed, for good or while its payment is tried again. -/
def expired : Node :=
  (compound "churned")
    |>.withState "churned" (atomic
      |>.withTransition "RESTART" "#subscription.subscribed"
      |>.withTransition "WIN_BACK" "#subscription.subscribed")
    |>.withState "inBillingRetry" (atomic
      |>.withTransition "RECOVER" "#subscription.subscribed"
      |>.withTransition "RESTART" "#subscription.subscribed"
      |>.withTransition "WIN_BACK" "#subscription.subscribed"
      |>.withTransition "FAILED_TO_RECOVER" "churned")

/-- A subscription in use: renewed again and again, about to end, or waiting for a late payment. -/
def subscribed : Node :=
  (compound "autoRenewing")
    |>.withState "autoRenewing" (atomic
      |>.withTransition "RENEW" "autoRenewing"
      |>.withTransition "CANCEL" "expiring"
      |>.withTransition "REFUND" "#subscription.expired"
      |>.withTransition "BILLING_ERROR" "inGracePeriod")
    |>.withState "expiring" (atomic
      |>.withTransition "EXPIRE" "#subscription.expired"
      |>.withTransition "RETAIN" "autoRenewing"
      |>.withTransition "RESTART" "autoRenewing")
    |>.withState "inGracePeriod" (atomic
      |>.withTransition "RECOVER" "autoRenewing"
      |>.withTransition "GRACE_PERIOD_END" "#subscription.expired.inBillingRetry")

/-- The life of a subscription. -/
def subscription : Definition :=
  { id := "subscription"
    context := some (.object [("provider", .null), ("plan", .null)])
    root := (compound "free")
      |>.withState "free" (atomic |>.withTransition "START" "subscribed")
      |>.withState "expired" expired
      |>.withState "subscribed" subscribed }

/-- The built-in definitions by name. -/
def definitions : List (String × Definition) := [("subscription", subscription)]

/-- A subscription that is renewed, cancelled and taken up again, and then lapses through the grace
period and the billing retry. -/
def reference : Script :=
  { Script.ofTypes ["START", "RENEW", "RENEW", "CANCEL", "RESTART", "RENEW", "RENEW",
      "BILLING_ERROR", "RECOVER", "BILLING_ERROR", "GRACE_PERIOD_END", "FAILED_TO_RECOVER"] with
    startAt := some "free" }

end Statechart.Preset
