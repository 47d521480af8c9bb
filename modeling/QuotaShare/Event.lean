import QuotaShare.Error
import QuotaShare.Table.Quota
import QuotaShare.Text.Quoted

/-!
# Events

The events that operations report while they run, and computations that report events.  What an
operation answers does not depend on what it reports.
-/

namespace QuotaShare

/-- The result of a pass over the tracked tables. -/
structure Report where
  /-- The version of the view that the pass ran against. -/
  version : UInt64
  /-- How many limiters had their rate changed. -/
  rebuilt : Nat
  /-- How many limiters were removed. -/
  evicted : Nat
  /-- How many limiters were left. -/
  remaining : Nat
  deriving DecidableEq, Repr

/-- What became of a cluster view. -/
inductive Outcome where
  /-- There was no view. -/
  | noView
  /-- The version of the view was that of the last pass. -/
  | unchanged (version : UInt64)
  /-- Every tracked table was looked at again. -/
  | processed (report : Report)
  deriving DecidableEq, Repr

/-- The text of an outcome; a pass takes no time. -/
def Outcome.describe : Outcome → String
  | noView => "NoView"
  | unchanged version => Text.record "Unchanged" [("version", toString version)]
  | processed r =>
    "Processed(" ++ Text.record "RecomputeReport"
      [("version", toString r.version), ("rebuilt", toString r.rebuilt),
        ("evicted", toString r.evicted), ("remaining", toString r.remaining),
        ("elapsed", "0ns")] ++ ")"

/-- The weight of an event. -/
inductive Level where
  | error
  | warn
  | info
  | debug
  | trace
  deriving DecidableEq, Repr

/-- The text of a level. -/
def Level.text : Level → String
  | error => "ERROR"
  | warn => "WARN"
  | info => "INFO"
  | debug => "DEBUG"
  | trace => "TRACE"

/-- The value of a field of an event. -/
inductive Field where
  | text (s : String)
  | count (n : Nat)
  | rate (x : Float)

/-- The events that are reported. -/
inductive Event where
  /-- A quota is written to the store. -/
  | quotaStored (table : String) (version : UInt64)
  /-- The quotas of a file are about to be read. -/
  | quotasLoading (path : String)
  /-- The limiter of a table is about to be set up. -/
  | initializing (table : String)
  /-- The quota of the other variant of a table could not be read. -/
  | siblingUnread (table : String) (error : QuotaError)
  /-- The two variants of a table have different quotas. -/
  | siblingDiffers (raw own sibling : String) (variant : Variant)
  /-- A table has no quota. -/
  | noQuota (table : String)
  /-- A limiter cannot be set up without a view. -/
  | noViewForTable (table : String)
  /-- The online nodes of a table were counted. -/
  | nodesCounted (table : String) (nodes : Nat)
  /-- A quota is no rate. -/
  | quotaInvalid (table : String) (perSecond : Option String)
  /-- The version of a table's quota could not be read. -/
  | versionUnread (table : String) (error : QuotaError)
  /-- The store holds no quota for a table. -/
  | noStoredVersion (table : String)
  /-- The limiter of a table was set up. -/
  | initialized (table : String) (overall share : Float) (nodes : Nat) (version : UInt64)
  /-- The limiter of a table is about to be removed. -/
  | dropping (table : String)
  /-- A pass begins. -/
  | passStarted
  /-- A pass was skipped for lack of a view. -/
  | passWithoutView
  /-- A pass was skipped because the version of the view is that of the last pass. -/
  | passUnchanged (version : UInt64)
  /-- A tracked table is not part of the view. -/
  | tableNotInView (table : String)
  /-- A tracked table is not part of the store. -/
  | tableNotStored (table : String)
  /-- The quota of a tracked table could not be read. -/
  | quotaUnread (table : String) (error : QuotaError)
  /-- The quota of a tracked table is missing or no rate. -/
  | quotaLost (table : String)
  /-- Nothing changed for a tracked table. -/
  | tableUnchanged (table : String)
  /-- The limiter of a tracked table got a new rate. -/
  | rateChanged (table : String) (overall previous share : Float) (nodes : Nat)
  /-- A pass is over. -/
  | passFinished (report : Report)
  /-- A query was refused. -/
  | quotaExceeded (table : String) (share : Float) (hits : Nat)
  /-- The polling of views begins, with a period in milliseconds. -/
  | pollingStarted (resource : String) (period : UInt64)
  /-- A polled view was handled. -/
  | changeProcessed (outcome : Outcome)
  /-- The polling of views is over. -/
  | pollingStopped (resource : String)
  /-- A node told its peers in which state it serves a table. -/
  | statePublished (key state : String)
  /-- The view of a resource differs from the one before. -/
  | viewChanged (resource : String) (version : UInt64) (tables : Nat)

namespace Event

/-- The weight of an event. -/
def level : Event → Level
  | quotaInvalid .. => .error
  | siblingDiffers .. | noViewForTable .. | versionUnread .. | noStoredVersion ..
  | passWithoutView | quotaUnread .. => .warn
  | quotasLoading .. | initializing .. | noQuota .. | initialized .. | dropping ..
  | tableNotInView .. | tableNotStored .. | quotaLost .. | rateChanged .. | passFinished ..
  | pollingStarted .. | pollingStopped .. => .info
  | quotaStored .. | siblingUnread .. | nodesCounted .. | passStarted | passUnchanged ..
  | quotaExceeded .. | changeProcessed .. | statePublished .. | viewChanged .. => .debug
  | tableUnchanged .. => .trace

/-- What an event says. -/
def message : Event → String
  | quotaStored .. => "Storing table quota config"
  | quotasLoading .. => "Loading table quota configs"
  | initializing .. => "Initializing rate limiter for table"
  | siblingUnread .. => "Could not read sibling table quota"
  | siblingDiffers .. => "Offline and realtime variants of the table have different query quotas"
  | noQuota .. => "No qps config specified for table"
  | noViewForTable .. =>
    "Failed to init qps quota: no cluster view available for the broker resource"
  | nodesCounted .. => "Counted online nodes for table"
  | quotaInvalid .. => "Failed to init qps quota: invalid qps value"
  | versionUnread .. => "Failed to read table config version"
  | noStoredVersion .. => "Failed to init qps quota: table config has no stored version"
  | initialized .. => "Rate limiter for table has been initialized"
  | dropping .. => "Dropping rate limiter for table"
  | passStarted => "Start processing qps quota change"
  | passWithoutView =>
    "No cluster view available for the broker resource, skipping qps quota change"
  | passUnchanged .. =>
    "No qps quota change: cluster view for the broker resource remains the same"
  | tableNotInView .. => "No broker resource for table. Removing its rate limit"
  | tableNotStored .. =>
    "Table has been deleted from the config store. Removing its rate limit"
  | quotaUnread .. => "Failed to read table quota config"
  | quotaLost .. => "Query quota config is missing or invalid. Removing its rate limit"
  | tableUnchanged .. => "Online nodes and overall rate unchanged"
  | rateChanged .. => "Rate limiter for table has been updated"
  | passFinished .. => "Processed query quota change"
  | quotaExceeded .. => "Quota is exceeded for table"
  | pollingStarted .. => "Starting quota change handler"
  | changeProcessed .. => "Processed cluster change"
  | pollingStopped .. => "Quota change handler stopped"
  | statePublished .. => "Published table state"
  | viewChanged .. => "Cluster view changed"

/-- The text of a value that may be absent. -/
def optional : Option String → String
  | none => "None"
  | some s => "Some(" ++ Text.quoted s ++ ")"

/-- The named values of an event, apart from what it says. -/
def fields : Event → List (String × Field)
  | quotaStored table version => [("table", .text table), ("version", .text (toString version))]
  | quotasLoading path => [("path", .text path)]
  | siblingUnread table error | versionUnread table error | quotaUnread table error =>
    [("table", .text table), ("error", .text error.message)]
  | siblingDiffers raw own sibling variant =>
    [("table", .text raw), ("table_qps", .text own), ("sibling_table_qps", .text sibling),
      ("table_type", .text variant.label)]
  | initializing table | noQuota table | noViewForTable table | noStoredVersion table
  | dropping table | tableNotInView table | tableNotStored table | quotaLost table
  | tableUnchanged table => [("table", .text table)]
  | nodesCounted table nodes => [("table", .text table), ("num_online_nodes", .count nodes)]
  | quotaInvalid table perSecond =>
    [("table", .text table), ("max_queries_per_second", .text (optional perSecond))]
  | initialized table overall share nodes version =>
    [("table", .text table), ("overall_rate", .rate overall), ("per_node_rate", .rate share),
      ("num_online_nodes", .count nodes), ("config_version", .text (toString version))]
  | passStarted | passWithoutView => []
  | passUnchanged version => [("version", .count version.toNat)]
  | rateChanged table overall previous share nodes =>
    [("table", .text table), ("overall_rate", .rate overall),
      ("previous_per_node_rate", .rate previous), ("per_node_rate", .rate share),
      ("num_online_nodes", .count nodes)]
  | passFinished r =>
    [("version", .count r.version.toNat), ("rebuilt", .count r.rebuilt),
      ("evicted", .count r.evicted), ("remaining", .count r.remaining)]
  | quotaExceeded table share hits =>
    [("table", .text table), ("per_node_rate", .rate share), ("hits", .count hits)]
  | pollingStarted resource period =>
    [("resource", .text resource), ("poll_interval_ms", .count period.toNat)]
  | changeProcessed outcome => [("outcome", .text outcome.describe)]
  | pollingStopped resource => [("resource", .text resource)]
  | statePublished key state => [("key", .text key), ("state", .text state)]
  | viewChanged resource version tables =>
    [("resource", .text resource), ("version", .count version.toNat), ("tables", .count tables)]

end Event

/-- A value together with the events that were reported on the way to it. -/
structure Traced (α : Type) where
  value : α
  events : List Event

namespace Traced

variable {α β : Type}

instance : Monad Traced where
  pure a := ⟨a, []⟩
  bind x f :=
    let y := f x.value
    ⟨y.value, x.events ++ y.events⟩

private theorem id_map_traced (x : Traced α) :
  id <$> x = x
  := by
  obtain ⟨a, events⟩ := x
  change Traced.mk a (events ++ []) = ⟨a, events⟩
  rw [List.append_nil]

private theorem bind_assoc_traced {γ : Type} (x : Traced α) (f : α → Traced β)
    (g : β → Traced γ) :
  x >>= f >>= g = x >>= fun a => f a >>= g
  := by
  change Traced.mk _ (x.events ++ (f x.value).events ++ _) = _
  rw [List.append_assoc]
  rfl

instance : LawfulMonad Traced :=
  LawfulMonad.mk' Traced id_map_traced (fun _ _ => rfl) bind_assoc_traced

/-- Reports an event. -/
def report (e : Event) : Traced Unit := ⟨(), [e]⟩

@[simp]
theorem value_pure (a : α) :
  (pure a : Traced α).value = a
  := rfl

@[simp]
theorem value_bind (x : Traced α) (f : α → Traced β) :
  (x >>= f).value = (f x.value).value
  := rfl

@[simp]
theorem value_map (f : α → β) (x : Traced α) :
  (f <$> x).value = f x.value
  := rfl

@[simp]
theorem value_foldlM (f : β → α → Traced β) (b : β) (l : List α) :
  (l.foldlM f b).value = l.foldl (fun b a => (f b a).value) b
  := by
  induction l generalizing b with
  | nil => rfl
  | cons a l ih => rw [List.foldlM_cons, value_bind, ih, List.foldl_cons]

@[simp]
theorem events_pure (a : α) :
  (pure a : Traced α).events = []
  := rfl

@[simp]
theorem events_bind (x : Traced α) (f : α → Traced β) :
  (x >>= f).events = x.events ++ (f x.value).events
  := rfl

@[simp]
theorem events_map (f : α → β) (x : Traced α) :
  (f <$> x).events = x.events
  := List.append_nil x.events

/-- The events of a fold, if each step reports the same events whatever was done before. -/
theorem events_foldlM {f : β → α → Traced β} {g : α → List Event}
    (h : ∀ b a, (f b a).events = g a) (b : β) (l : List α) :
  (l.foldlM f b).events = l.flatMap g
  := by
  induction l generalizing b with
  | nil => rfl
  | cons a l ih => rw [List.foldlM_cons, events_bind, ih, h, List.flatMap_cons]

@[simp]
theorem events_report (e : Event) :
  (report e).events = [e]
  := rfl

end Traced

end QuotaShare
