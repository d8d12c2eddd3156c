import NantianGateway.Observability.RateLimit

/-!
# Tenants

`TenantManager` knows which tenant a key belongs to, which models it may use, and how much of its
quota it has used up.  Only the quotas change (`sameTenants_checkQuota`).
-/

namespace NantianGateway.Ai

open Observability (saturatingAdd)

structure TenantQuota where
  tokensPerMinute : ℕ := 0
  tokensPerDay : ℕ := 0
  requestsPerMinute : ℕ := 0
  deriving DecidableEq

structure Tenant where
  tenantId : String
  apiKeys : List String
  quota : TenantQuota := {}
  allowedModels : List String := []
  deriving DecidableEq

structure TenantQuotaState where
  minuteTokens : ℕ := 0
  dayTokens : ℕ := 0
  minuteRequests : ℕ := 0
  minuteReset : Instant
  dayReset : Instant

namespace TenantQuotaState

def minute : Duration := 60 * 10 ^ 9

def day : Duration := 86400 * 10 ^ 9

def new (now : Instant) : TenantQuotaState where
  minuteReset := now + minute
  dayReset := now + day

variable (state : TenantQuotaState) (now : Instant)

def reset : TenantQuotaState :=
  let state := if state.minuteReset ≤ now then
      { state with minuteTokens := 0, minuteRequests := 0, minuteReset := now + minute }
    else state
  if state.dayReset ≤ now then { state with dayTokens := 0, dayReset := now + day } else state

def consume (quota : TenantQuota) (tokens : ℕ) : Bool × TenantQuotaState :=
  let state := state.reset now
  let newMinuteTokens := saturatingAdd state.minuteTokens tokens
  let newDayTokens := saturatingAdd state.dayTokens tokens
  let newMinuteRequests := saturatingAdd state.minuteRequests 1
  if 0 < quota.tokensPerMinute ∧ quota.tokensPerMinute < newMinuteTokens then (false, state)
  else if 0 < quota.tokensPerDay ∧ quota.tokensPerDay < newDayTokens then (false, state)
  else if 0 < quota.requestsPerMinute ∧ quota.requestsPerMinute < newMinuteRequests then
    (false, state)
  else
    (true, { state with
      minuteTokens := newMinuteTokens
      dayTokens := newDayTokens
      minuteRequests := newMinuteRequests })

end TenantQuotaState

structure TenantManager where
  tenants : Table String Tenant
  apiKeyIndex : Table String String
  quotaState : Table String TenantQuotaState := Table.empty
  checkCount : UInt64 := 0

namespace TenantManager

/-- A key that several tenants have belongs to the last of them. -/
def new (tenants : List Tenant) : TenantManager where
  tenants := Table.ofEntries (tenants.map fun tenant => (tenant.tenantId, tenant))
  apiKeyIndex := Table.ofEntries
    (tenants.flatMap fun tenant => tenant.apiKeys.map fun key => (key, tenant.tenantId))

variable (manager : TenantManager)

def resolve (apiKey : String) : Option Tenant :=
  (manager.apiKeyIndex apiKey).bind manager.tenants

def cleanupInterval : UInt64 := 1000

def maybeCleanup : TenantManager :=
  let counted := { manager with checkCount := manager.checkCount + 1 }
  if manager.checkCount % cleanupInterval = 0 then
    { counted with
      quotaState := fun id => if (manager.tenants id).isSome then manager.quotaState id else none }
  else counted

def checkQuota (now : Instant) (tenantId : String) (tokens : ℕ) : Bool × TenantManager :=
  match manager.tenants tenantId with
  | none => (false, manager)
  | some tenant =>
    if tenant.quota.tokensPerMinute = 0 ∧ tenant.quota.tokensPerDay = 0
        ∧ tenant.quota.requestsPerMinute = 0 then
      (true, manager)
    else
      let manager := manager.maybeCleanup
      let entry := (manager.quotaState tenantId).getD (TenantQuotaState.new now)
      let answer := entry.consume now tenant.quota tokens
      (answer.1, { manager with quotaState := manager.quotaState.insert tenantId answer.2 })

/-- No listed models means that all are allowed. -/
def checkModelAccess (tenantId model : String) : Bool :=
  match manager.tenants tenantId with
  | none => false
  | some tenant => tenant.allowedModels.isEmpty || tenant.allowedModels.any (· == model)

/-! ## What stays the same -/

def SameTenants (manager manager' : TenantManager) : Prop :=
  manager'.tenants = manager.tenants ∧ manager'.apiKeyIndex = manager.apiKeyIndex

/-- The key belongs to a tenant that may use the model. -/
def Permits (apiKey : Option String) (model : String) : Prop :=
  ∃ key tenant, apiKey = some key ∧ manager.resolve key = some tenant
    ∧ manager.checkModelAccess tenant.tenantId model = true

variable {manager}

theorem SameTenants.refl : SameTenants manager manager := ⟨rfl, rfl⟩

theorem SameTenants.trans {manager' manager'' : TenantManager} (h : SameTenants manager manager')
    (h' : SameTenants manager' manager'') : SameTenants manager manager'' :=
  ⟨h'.1.trans h.1, h'.2.trans h.2⟩

variable {manager' : TenantManager}

theorem SameTenants.resolve (h : SameTenants manager manager')
    (apiKey : String) : manager'.resolve apiKey = manager.resolve apiKey := by
  unfold TenantManager.resolve
  rw [h.1, h.2]

theorem SameTenants.checkModelAccess (h : SameTenants manager manager') (tenantId model : String) :
    manager'.checkModelAccess tenantId model = manager.checkModelAccess tenantId model := by
  unfold TenantManager.checkModelAccess
  rw [h.1]

variable (manager)

theorem sameTenants_checkQuota (now : Instant) (tenantId : String) (tokens : ℕ) :
    SameTenants manager (manager.checkQuota now tenantId tokens).2 := by
  have hcleanup : SameTenants manager manager.maybeCleanup := by
    unfold maybeCleanup
    split
    · exact ⟨rfl, rfl⟩
    · exact ⟨rfl, rfl⟩
  unfold checkQuota
  split
  · exact SameTenants.refl
  · split
    · exact SameTenants.refl
    · exact hcleanup

end TenantManager

end NantianGateway.Ai
