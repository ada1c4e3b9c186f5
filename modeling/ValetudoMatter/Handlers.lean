import ValetudoMatter.Http.Client

/-!
# What the cluster handlers share

`handlers.rs`: the cell that counts its changes, the notifications that its setters issue, and the errors that a handler ends
with.
-/

namespace ValetudoMatter

/-- The clusters of endpoint 1. -/
inductive Cluster where
  | identify | rvcRunMode | rvcCleanMode | rvcOperationalState | serviceArea
  deriving DecidableEq, Repr

/-- A notification that the attributes of a cluster have changed. -/
structure Notification where
  endpoint : Nat
  cluster : Cluster
  deriving DecidableEq, Repr

/-- The context of an operation: the endpoint and the cluster it is on. -/
structure OperationContext where
  endpoint : Nat
  cluster : Cluster
  deriving DecidableEq, Repr

/-- `ctx.notify_own_cluster_changed()`. -/
def OperationContext.notifyOwnClusterChanged (ctx : OperationContext) : List Notification := [⟨ctx.endpoint, ctx.cluster⟩]

/-- `notify.notify_cluster_changed(endpoint, cluster)`. -/
def notifyClusterChanged (endpoint : Nat) (cluster : Cluster) : List Notification := [⟨endpoint, cluster⟩]

/-- The error codes in use; `tlv` is that of a request whose field does not decode. -/
inductive ErrorCode where
  | constraintError | failure | invalidCommand | tlv
  deriving DecidableEq, Repr

structure MatterError where
  code : ErrorCode
  details : Option AnyhowError
  deriving DecidableEq, Repr

/-- `Error::new(code)`. -/
def MatterError.new (code : ErrorCode) : MatterError := { code := code, details := none }

/-- `to_matter_err`. -/
def toMatterErr (err : AnyhowError) : MatterError := { code := .failure, details := some err }

/-- A field of a request, as it decodes. -/
abbrev Tlv (α : Type) : Type := Except MatterError α

/-! ## The cell that counts its changes -/

structure VersionedCell (α : Type) where
  inner : α
  dataver : UInt32
  deriving DecidableEq, Repr

namespace VersionedCell

variable {α : Type} [DecidableEq α]

/-- A cell with a random data version. -/
def new (inner : α) (rand : UInt32) : VersionedCell α := { inner := inner, dataver := rand }

/-- `self.dataver.changed()`. -/
def changed (c : VersionedCell α) : VersionedCell α := { c with dataver := c.dataver + 1 }

abbrev get (c : VersionedCell α) : α := c.inner

def set (c : VersionedCell α) (value : α) : VersionedCell α :=
  let oldValue := c.inner
  let c := { c with inner := value }
  if value ≠ oldValue then c.changed else c

def setNotify (c : VersionedCell α) (value : α) (ctx : OperationContext) : VersionedCell α × List Notification :=
  let oldValue := c.inner
  let c := { c with inner := value }
  if value ≠ oldValue then (c.changed, ctx.notifyOwnClusterChanged) else (c, [])

def replace (c : VersionedCell α) (value : α) : α × VersionedCell α :=
  let oldValue := c.inner
  let c := { c with inner := value }
  (oldValue, if value ≠ oldValue then c.changed else c)

/-- The version of a changed cell is bumped twice: by `replace`, and again here. -/
def replaceNotify (c : VersionedCell α) (value : α) (ctx : OperationContext) :
    α × VersionedCell α × List Notification :=
  let (oldValue, c) := c.replace value
  if oldValue ≠ value then (oldValue, c.changed, ctx.notifyOwnClusterChanged) else (oldValue, c, [])

omit [DecidableEq α] in
@[simp] theorem changed_inner (c : VersionedCell α) : c.changed.inner = c.inner := rfl

@[simp] theorem set_inner (c : VersionedCell α) (v : α) : (c.set v).inner = v := by
  by_cases h : v = c.inner <;> simp [set, h]

@[simp] theorem setNotify_inner (c : VersionedCell α) (v : α) (ctx : OperationContext) :
    (c.setNotify v ctx).1.inner = v := by
  by_cases h : v = c.inner <;> simp [setNotify, h]

@[simp] theorem replaceNotify_old (c : VersionedCell α) (v : α) (ctx : OperationContext) :
    (c.replaceNotify v ctx).1 = c.inner := by
  by_cases h : c.inner = v <;> simp [replaceNotify, replace, h]

@[simp] theorem replaceNotify_inner (c : VersionedCell α) (v : α) (ctx : OperationContext) :
    (c.replaceNotify v ctx).2.1.inner = v := by
  by_cases h : c.inner = v
  · simp [replaceNotify, replace, h]
  · simp [replaceNotify, replace, h, Ne.symm h]

@[simp] theorem replace_inner (c : VersionedCell α) (v : α) : (c.replace v).2.inner = v := by
  by_cases h : v = c.inner <;> simp [replace, h]

theorem set_dataver (c : VersionedCell α) (v : α) :
    (c.set v).dataver = c.dataver + UInt32.ofNat (if v ≠ c.inner then 1 else 0) := by
  by_cases h : v = c.inner <;> simp [set, changed, h]

theorem setNotify_dataver (c : VersionedCell α) (v : α) (ctx : OperationContext) :
    (c.setNotify v ctx).1.dataver = c.dataver + UInt32.ofNat (if v ≠ c.inner then 1 else 0) := by
  by_cases h : v = c.inner <;> simp [setNotify, changed, h]

theorem replace_dataver (c : VersionedCell α) (v : α) :
    (c.replace v).2.dataver = c.dataver + UInt32.ofNat (if v ≠ c.inner then 1 else 0) := by
  by_cases h : v = c.inner <;> simp [replace, changed, h]

/-- `replace_notify` counts a change twice. -/
theorem replaceNotify_dataver (c : VersionedCell α) (v : α) (ctx : OperationContext) :
    (c.replaceNotify v ctx).2.1.dataver =
      c.dataver + UInt32.ofNat (if v ≠ c.inner then 1 else 0) + UInt32.ofNat (if v ≠ c.inner then 1 else 0) := by
  by_cases h : v = c.inner
  · simp [replaceNotify, replace, h]
  · simp [replaceNotify, replace, changed, h, Ne.symm h]

/-- `set_notify` notifies exactly when the value changes. -/
theorem setNotify_notified (c : VersionedCell α) (v : α) (ctx : OperationContext) :
    (c.setNotify v ctx).2 = if v ≠ c.inner then ctx.notifyOwnClusterChanged else [] := by
  by_cases h : v = c.inner <;> simp [setNotify, h]

/-- `replace_notify` notifies exactly when the value changes. -/
theorem replaceNotify_notified (c : VersionedCell α) (v : α) (ctx : OperationContext) :
    (c.replaceNotify v ctx).2.2 = if c.inner ≠ v then ctx.notifyOwnClusterChanged else [] := by
  by_cases h : c.inner = v <;> simp [replaceNotify, replace, h]

end VersionedCell

end ValetudoMatter
