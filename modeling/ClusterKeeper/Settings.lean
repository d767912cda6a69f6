import ClusterKeeper.Time.Backoff
/-!
The settings of a controller.
-/

namespace ClusterKeeper

/-- The settings of a controller; times are in seconds. -/
structure Settings where
  /-- Between checks of a resource whose cluster is still at work. -/
  requeueInterval : UInt64
  /-- Between checks of a resource that is as declared. -/
  resyncInterval : UInt64
  /-- The one namespace to watch; none watches all. -/
  watchNamespace : Option String
  /-- After the first failure. -/
  backoffInitial : UInt64
  /-- At most between failed attempts. -/
  backoffMaximum : UInt64
  deriving Repr, DecidableEq

namespace Settings

/-- The settings where nothing else is said. -/
def standard : Settings where
  requeueInterval := 10
  resyncInterval := 300
  watchNamespace := none
  backoffInitial := 5
  backoffMaximum := 300

/-- The delay before a look at a resource whose cluster is still at work. -/
def requeueDelay (s : Settings) : Delay := Delay.ofSeconds s.requeueInterval

/-- The delay before a look at a resource that is as declared. -/
def resyncDelay (s : Settings) : Delay := Delay.ofSeconds s.resyncInterval

/-- The backoff doubles with each failure. Its bound is never below its first delay. -/
def backoff (s : Settings) : Backoff where
  initial := Delay.ofSeconds s.backoffInitial
  maximum := Delay.ofSeconds (max s.backoffMaximum s.backoffInitial)
  multiplier := Binary64.ofNat 2

end Settings

end ClusterKeeper
