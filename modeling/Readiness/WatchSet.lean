import Readiness.WatchSet.Lifetime
import Readiness.WatchSet.Membership
import Readiness.WatchSet.Polling

/-! # The operations of a watch set

Creating and destroying (`WatchSet.create`, `WatchSet.destroy`, `WatchSet.dispose`), adding
and removing (`WatchSet.add`, `WatchSet.remove`), polling (`WatchSet.poll`), and questions. -/
