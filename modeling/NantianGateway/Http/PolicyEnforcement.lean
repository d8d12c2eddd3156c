import NantianGateway.Http.RequestSelection

/-!
# Where security policies are enforced

On the HTTP path the handlers check the addresses, the login and the passwords of the policy of the
selected backend; the section on JWT is read by no handler.  The fast path, the gRPC path and the
fallback call no handler at all.
-/

namespace NantianGateway.Http

open Text Stages Option

/-! ## Policies -/

def policySections (policy : SecurityPolicyConfig) : List PolicySection :=
  (policy.ip.map .ip).toList ++ ((policy.authn.bind (·.oidc)).map .oidc).toList ++
    ((policy.authn.bind (·.basicAuth)).map .basicAuth).toList ++
      ((policy.authn.bind (·.jwt)).map .jwt).toList

def clusterPolicy (s : Snapshot) (backendName : String) : Option SecurityPolicyConfig :=
  (s.backends.reverse.find? fun cluster => backendClusterName cluster = backendName).bind
    fun cluster => cluster.securityPolicy

variable (st : FilterState)

def FilterState.backendName : Option String :=
  (st.fastSelectedBackend.map fun selected => selected.backendName).or
    (st.selectedBackend.map fun selected => selected.backendName)

/-- Every section of the policy was checked for the request and let it pass. -/
def Enforced (policy : SecurityPolicyConfig) : Prop :=
  ∀ policySection ∈ policySections policy, .checked policySection true ∈ st.events

instance (st : FilterState) (policy : SecurityPolicyConfig) : Decidable (Enforced st policy) :=
  inferInstanceAs (Decidable (∀ _ ∈ _, _))

section

variable {cr : Crates} {s : Snapshot}

theorem clusterPolicy_eq (h : s.Indexed cr) (backendName : String) :
    ((s.backendIndex backendName).bind fun index =>
        s.backends[index]?.bind fun backend => backend.securityPolicy)
      = clusterPolicy s backendName := by
  have hclusters : s.backends.reverse = s.backends.zipIdx.reverse.map Prod.fst := by
    rw [List.map_reverse, List.zipIdx_map_fst]
  rw [h.backendIndex_eq, clusterPolicy, hclusters, List.find?_map]
  cases hfind : s.backends.zipIdx.reverse.find? fun entry =>
      backendClusterName entry.1 = backendName with
  | none => simp only [Function.comp_def, hfind]; rfl
  | some entry =>
    have hat := getElem?_of_mem_zipIdx (List.mem_reverse.mp (List.mem_of_find?_eq_some hfind))
    simp only [Function.comp_def, hfind, map_some, bind_some, hat]

theorem securityPolicy_of_selectHttpRoute (h : s.Indexed cr) {request : RequestMeta}
    {sessionResolver : SessionPersistence → Option PersistentSessionTarget} {now : Instant}
    {st : SelectionState} {route : SelectedHttpRoute}
    (hroute : (selectHttpRoute cr s request sessionResolver now st).1 = some route) :
    route.securityPolicy = route.backendName.bind (clusterPolicy s) := by
  rw [selectHttpRoute_eq] at hroute
  obtain ⟨candidate, -, rfl⟩ := map_eq_some_iff.mp hroute
  exact congrArg (fun policyOf => (candidate.toSelected s).backendName.bind policyOf)
    (funext (clusterPolicy_eq h))

end

/-! ## The checks of a forwarded request -/

section

variable {o : Outcomes} {route : SelectedHttpRoute}

theorem events_httpRouteEffect :
    (httpRouteEffect o route st).events = st.events ++ ipChecks route.securityPolicy ++
      oidcChecks route.securityPolicy ++ basicAuthChecks route.securityPolicy ++
        jwtChecks route.filters := by
  rw [httpRouteEffect, takeBackend]
  split <;> rfl

theorem backendName_httpRouteEffect {backendName : String}
    (h : (httpRouteEffect o route {}).backendName = some backendName) :
    route.backendName = some backendName := by
  rw [httpRouteEffect, takeBackend] at h
  split at h
  next selected hselected =>
    rw [selectedBackendFromHttpRoute] at hselected
    split at hselected
    next backend name hbackend hname =>
      obtain rfl := Option.some.inj (Except.ok.inj hselected)
      exact hname.trans h
    next => cases hselected
    next => cases hselected
  next => cases h

theorem enforced_httpRouteEffect_iff {policy : SecurityPolicyConfig}
    (hpolicy : route.securityPolicy = some policy) :
    Enforced (httpRouteEffect o route {}) policy ↔ (policy.authn.bind (·.jwt)) = none := by
  rw [Enforced, events_httpRouteEffect, hpolicy]
  constructor
  · intro h
    by_contra hsome
    obtain ⟨config, hconfig⟩ := ne_none_iff_exists'.mp hsome
    have hchecked := h (.jwt config) (by simp [policySections, hconfig])
    simp [ipChecks, oidcChecks, basicAuthChecks, jwtChecks] at hchecked
  · intro hnone policySection hmem
    simp only [policySections, hnone, map_none, toList_none, List.append_nil,
      List.mem_append, mem_toList, map_eq_some_iff] at hmem
    rcases hmem with (⟨config, hconfig, rfl⟩ | ⟨config, hconfig, rfl⟩) | ⟨config, hconfig, rfl⟩
    · simp [ipChecks, hconfig]
    · simp [oidcChecks, hconfig]
    · simp [basicAuthChecks, hconfig]

theorem enforced_iff_of_no_events {st : FilterState} (h : st.events = [])
    (policy : SecurityPolicyConfig) : Enforced st policy ↔ policySections policy = [] := by
  rw [Enforced, h, List.eq_nil_iff_forall_not_mem]
  simp

theorem enforced_record_responded (reply : Reply) (policy : SecurityPolicyConfig) :
    Enforced (st.record (.responded reply)) policy ↔ Enforced st policy := by
  simp [Enforced, FilterState.record]

end

/-! ## The enforcement -/

/-- **What a policy is worth.**  Every section of the policy of the backend has been checked and
passed if and only if there is none, or the request went by an HTTP route and there is none on JWT.
-/
theorem policy_enforced_iff (cr : Crates) (s : Snapshot) (proxy : GatewayProxy)
    (request : DownstreamRequest) (moments : InitialMoments) (crate : IpNetCrate) (o : Outcomes)
    (st : FilterState)
    (hforwarded : doRequestFilter crate o
      (initialSelections cr (s.rebuildRuntimeIndexes cr) proxy request moments) {}
        = (.done false, st))
    (horiginal : st.isMirrorSubrequest = false) (backendName : String)
    (hbackend : st.backendName = some backendName) (policy : SecurityPolicyConfig)
    (hpolicy : clusterPolicy s backendName = some policy) :
    Enforced st policy ↔ policySections policy = [] ∨
      ByHttpRoute (initialSelections cr (s.rebuildRuntimeIndexes cr) proxy request moments) ∧
        (policy.authn.bind (·.jwt)) = none := by
  have hstate := forwarded_eq hforwarded horiginal
  generalize hselections : initialSelections cr (s.rebuildRuntimeIndexes cr) proxy request moments
    = selections at *
  have hforget : Enforced st policy ↔ Enforced (forwardedState o selections) policy := by
    rcases hstate with rfl | rfl
    · exact Iff.rfl
    · exact enforced_record_responded _ _ _
  have hname : (forwardedState o selections).backendName = some backendName := by
    rcases hstate with rfl | rfl <;> exact hbackend
  rw [hforget]
  have hhttp : selections.http
      = initialHttp cr (s.rebuildRuntimeIndexes cr) proxy request moments :=
    hselections ▸ rfl
  obtain ⟨fast, grpc, http, fallback⟩ := selections
  cases fast with
  | some selected => simp [enforced_iff_of_no_events, forwardedState, ByHttpRoute]
  | none =>
    cases grpc with
    | some selected => simp [enforced_iff_of_no_events, forwardedState, ByHttpRoute]
    | none =>
      cases http with
      | none => cases fallback <;> simp [enforced_iff_of_no_events, forwardedState, ByHttpRoute]
      | some route =>
        have hindexed := (indexed_rebuild cr s).asOf moments.http
        have hroute : route.securityPolicy = some policy := by
          rw [initialHttp] at hhttp
          split at hhttp
          · rw [securityPolicy_of_selectHttpRoute hindexed hhttp.symm,
              backendName_httpRouteEffect hname]
            exact hpolicy
          · cases hhttp
        rw [show forwardedState o ⟨none, none, some route, fallback⟩ = httpRouteEffect o route {}
          from rfl, enforced_httpRouteEffect_iff hroute]
        constructor
        · exact fun hjwt => .inr ⟨⟨rfl, rfl, rfl⟩, hjwt⟩
        · rintro (hnone | ⟨-, hjwt⟩)
          · simpa [policySections] using (List.append_eq_nil_iff.mp hnone).2
          · exact hjwt

private def guardedSnapshot («matches» : List HttpMatch)
    (policy : SecurityPolicyConfig) : Snapshot :=
  { listeners :=
      [{ name := "http", port := 80, protocol := "HTTP", attachedRoutes := ["default/web"] }]
    httpRoutes :=
      [{ name := "web"
         «namespace» := "default"
         rules :=
          [{ «matches» := «matches»
             backendRefs := [{ «namespace» := "default", name := "app", port := 8080 }] }] }]
    backends :=
      [{ name := "app:8080"
         «namespace» := "default"
         endpoints := [{ address := "10.0.0.1", port := 8080, healthy := true }]
         securityPolicy := some policy }] }

private def forwardedFrom (s : Snapshot) (headers : BTreeMap (List String)) (clientAddr : String) :
    Option FilterState :=
  match doRequestFilter cidrBlocks { clientAddr := some clientAddr }
    (initialSelections inertCrates (s.rebuildRuntimeIndexes inertCrates) {}
      { headers := headers, serverPort := 80 } {}) {} with
  | (.done false, st) => some st
  | _ => none

private def denyTen : SecurityPolicyConfig := { ip := some { denyCidrs := ["10.0.0.0/8"] } }

/-- **The fast path forwards a request that the policy denies.** -/
theorem fast_path_skips_policy :
    handleIpFilter cidrBlocks (some denyTen) (some "10.1.2.3:4242")
      = some (send403 "IP not allowed") ∧
    clusterPolicy (guardedSnapshot [] denyTen) "default/app:8080" = some denyTen ∧
    (forwardedFrom (guardedSnapshot [] denyTen) .empty "10.1.2.3:4242").map (fun st =>
      (st.isMirrorSubrequest, st.backendName, decide (Enforced st denyTen)))
        = some (false, some "default/app:8080", false) := by
  decide +kernel

private def canaryMatch : HttpMatch := { headers := [{ name := "x-env", value := "canary" }] }

private def canaryHeaders : BTreeMap (List String) :=
  ⟨[("x-env", ["canary"])], List.pairwise_singleton _ _⟩

theorem policy_enforced_on_http_route :
    ∃ st, doRequestFilter cidrBlocks { clientAddr := some "192.0.2.7:4242" }
        (initialSelections inertCrates
          ((guardedSnapshot [canaryMatch] denyTen).rebuildRuntimeIndexes inertCrates) {}
          { headers := canaryHeaders, serverPort := 80 } {}) {} = (.done false, st) ∧
      Enforced st denyTen := by
  have hrun : (forwardedFrom (guardedSnapshot [canaryMatch] denyTen) canaryHeaders
      "192.0.2.7:4242").map (fun st => (st.isMirrorSubrequest, st.backendName))
        = some (false, some "default/app:8080") := by
    decide +kernel
  have hselections : ByHttpRoute (initialSelections inertCrates
      ((guardedSnapshot [canaryMatch] denyTen).rebuildRuntimeIndexes inertCrates) {}
      { headers := canaryHeaders, serverPort := 80 } {}) := by
    refine ⟨?_, ?_, ?_⟩ <;> decide +kernel
  obtain ⟨st, hst, hview⟩ := map_eq_some_iff.mp hrun
  rw [forwardedFrom] at hst
  split at hst
  next st' hforwarded =>
    obtain rfl := Option.some.inj hst
    refine ⟨_, hforwarded, ?_⟩
    exact (policy_enforced_iff inertCrates _ {} _ {} cidrBlocks _ _ hforwarded
      (congrArg Prod.fst hview) _ (congrArg Prod.snd hview) denyTen (by decide +kernel)).mpr
        (.inr ⟨hselections, rfl⟩)
  next => cases hst

end NantianGateway.Http
