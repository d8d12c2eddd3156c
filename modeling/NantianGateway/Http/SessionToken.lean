import NantianGateway.Ir.Types
import NantianGateway.Lib.SignedText

/-!
# Session tokens

The endpoint that a session pins a client to travels in a signed token, and every response carries
a new one.  The idle deadline is counted anew by every token; the absolute deadline is taken over.
So the life of a session is a chain (`refreshRun`).  The keyed hash is any function, and the
serialisation any codec.
-/

namespace NantianGateway.Http

open Text SignedText

structure SessionToken where
  v : UInt8
  sn : String
  st : String
  bn : String
  a : String
  p : UInt32
  ax : Option UInt64
  ix : Option UInt64
  deriving DecidableEq

structure ResolvedSession where
  target : PersistentSessionTarget
  absoluteExpiresAt : Option UInt64
  deriving DecidableEq

def SessionToken.resolved (payload : SessionToken) : ResolvedSession where
  target := {
    backendName := payload.bn
    endpoint := { address := payload.a, port := payload.p, healthy := true } }
  absoluteExpiresAt := payload.ax

inductive TokenError where
  | malformed
  | encoding
  | signature
  | json
  | version
  | name
  | transport
  | absoluteTimeout
  | idleTimeout
  deriving DecidableEq

def TokenError.text : TokenError → Option String
  | .malformed => some "malformed session token"
  | .signature => some "session token signature mismatch"
  | .version => some "unsupported session token version"
  | .name => some "session token name mismatch"
  | .transport => some "session token transport mismatch"
  | .absoluteTimeout => some "session token absolute timeout exceeded"
  | .idleTimeout => some "session token idle timeout exceeded"
  | .encoding | .json => none

def asSecs (duration : Duration) : ℕ := duration / 1000000000

def saturatingAdd (a b : ℕ) : ℕ := min (a + b) (2 ^ 64 - 1)

def transportText (policy : SessionPersistence) : String :=
  if policy.isCookie then "Cookie" else "Header"

theorem transportText_eq_iff (policy policy' : SessionPersistence) :
    transportText policy = transportText policy' ↔ policy.isCookie = policy'.isCookie := by
  rw [transportText, transportText]
  cases policy.isCookie <;> cases policy'.isCookie <;> decide

def buildTokenPayload (now : ℕ) (policy : SessionPersistence) (selected : SelectedBackend)
    (previous : Option ResolvedSession) : SessionToken where
  v := 1
  sn := policy.sessionName
  st := transportText policy
  bn := selected.backendName
  a := selected.backend.address
  p := selected.backend.port
  ax := policy.absoluteTimeout.map fun timeout =>
    (previous.bind (·.absoluteExpiresAt)).getD (.ofNat (saturatingAdd now (asSecs timeout)))
  ix := policy.idleTimeout.map fun timeout => .ofNat (saturatingAdd now (asSecs timeout))

section

variable (mac : List UInt8 → List UInt8 → List UInt8) (json : Codec SessionToken)
  (secret : List UInt8)

def encodePayload (payload : SessionToken) : String := signed mac secret (json.write payload)

def passed (now : ℕ) (deadline : Option UInt64) : Bool :=
  deadline.any fun expiry => expiry.toNat < now

def decodeToken (now : ℕ) (policy : SessionPersistence) (raw : String) :
    Except TokenError ResolvedSession := do
  let some (encodedBody, encodedSignature) := splitOnce '.' raw | throw .malformed
  let some body := Base64.decode encodedBody.toList | throw .encoding
  let some signature := Base64.decode encodedSignature.toList | throw .encoding
  if signature ≠ mac secret body then throw .signature
  let some payload := json.read body | throw .json
  if payload.v ≠ 1 then throw .version
  if payload.sn ≠ policy.sessionName then throw .name
  if payload.st ≠ transportText policy then throw .transport
  if passed now payload.ax then throw .absoluteTimeout
  if passed now payload.ix then throw .idleTimeout
  return payload.resolved

/-- **Reading back a token**: every check but the signature is left to its payload. -/
theorem decodeToken_encodePayload (now : ℕ) (policy : SessionPersistence) (payload : SessionToken) :
    decodeToken mac json secret now policy (encodePayload mac json secret payload) =
      if payload.v ≠ 1 then .error .version
      else if payload.sn ≠ policy.sessionName then .error .name
      else if payload.st ≠ transportText policy then .error .transport
      else if passed now payload.ax then .error .absoluteTimeout
      else if passed now payload.ix then .error .idleTimeout
      else .ok payload.resolved := by
  unfold decodeToken encodePayload
  rw [splitOnce_signed]
  simp only [String.toList_ofList, Base64.decode_encode, json.read_write, ne_eq, not_true_eq_false,
    if_false]
  split_ifs <;> rfl

/-! ## Deadlines -/

/-- The second up to which a session lasts whatever its client does: the one that the token before
had, or counted from `now` in whole seconds, if the policy has an absolute timeout. -/
def absoluteDeadline (now : ℕ) (policy : SessionPersistence) (previous : Option ResolvedSession) :
    Option ℕ :=
  policy.absoluteTimeout.map fun timeout =>
    ((previous.bind (·.absoluteExpiresAt)).map UInt64.toNat).getD
      (min (now + timeout / 1000000000) (2 ^ 64 - 1))

/-- The second up to which the client may stay away. -/
def idleDeadline (now : ℕ) (policy : SessionPersistence) : Option ℕ :=
  policy.idleTimeout.map fun timeout => min (now + timeout / 1000000000) (2 ^ 64 - 1)

theorem toNat_saturatingAdd (a b : ℕ) :
    (UInt64.ofNat (saturatingAdd a b)).toNat = min (a + b) (2 ^ 64 - 1) :=
  UInt64.toNat_ofNat_of_lt' (by rw [saturatingAdd, UInt64.size]; omega)

theorem map_toNat_ax (now : ℕ) (policy : SessionPersistence) (selected : SelectedBackend)
    (previous : Option ResolvedSession) :
    (buildTokenPayload now policy selected previous).ax.map UInt64.toNat
      = absoluteDeadline now policy previous := by
  rw [buildTokenPayload, absoluteDeadline, Option.map_map]
  refine Option.map_congr fun timeout _ => ?_
  cases previous.bind (·.absoluteExpiresAt) with
  | none => exact toNat_saturatingAdd now (asSecs timeout)
  | some expiry => rfl

theorem map_toNat_ix (now : ℕ) (policy : SessionPersistence) (selected : SelectedBackend)
    (previous : Option ResolvedSession) :
    (buildTokenPayload now policy selected previous).ix.map UInt64.toNat
      = idleDeadline now policy := by
  rw [buildTokenPayload, idleDeadline, Option.map_map]
  exact Option.map_congr fun timeout _ => toNat_saturatingAdd now (asSecs timeout)

theorem passed_iff {now : ℕ} {deadline : Option UInt64} :
    passed now deadline = true ↔ ∃ expiry ∈ deadline.map UInt64.toNat, expiry < now := by
  cases deadline <;> simp [passed]

theorem passed_eq_false_iff {now : ℕ} {deadline : Option UInt64} :
    passed now deadline = false ↔ ∀ expiry ∈ deadline.map UInt64.toNat, now ≤ expiry := by
  cases deadline <;> simp [passed]

/-! ## The chain of a session -/

/-- A return of the client: when, under which policy, and the backend then selected. -/
structure Refresh where
  now : ℕ
  policy : SessionPersistence
  selected : SelectedBackend

def refresh (raw : String) (step : Refresh) : Except TokenError String := do
  let previous ← decodeToken mac json secret step.now step.policy raw
  return encodePayload mac json secret
    (buildTokenPayload step.now step.policy step.selected (some previous))

def refreshRun (raw : String) (steps : List Refresh) : Except TokenError String :=
  steps.foldlM (refresh mac json secret) raw

/-- A deadline that stands is not moved later; no deadline is the latest of all. -/
def NoLater (deadline first : Option ℕ) : Prop :=
  ∀ expiry, first = some expiry → ∃ expiry' ≤ expiry, deadline = some expiry'

variable {mac json secret}

theorem resolved_of_decodeToken {now : ℕ} {policy : SessionPersistence} {payload : SessionToken}
    {session : ResolvedSession}
    (h : decodeToken mac json secret now policy (encodePayload mac json secret payload)
      = .ok session) : session = payload.resolved := by
  rw [decodeToken_encodePayload] at h
  split_ifs at h
  exact (Except.ok.inj h).symm

theorem refresh_eq_ok {payload : SessionToken} {step : Refresh} {raw : String}
    (h : refresh mac json secret (encodePayload mac json secret payload) step = .ok raw) :
    raw = encodePayload mac json secret
      (buildTokenPayload step.now step.policy step.selected (some payload.resolved)) := by
  rw [refresh] at h
  cases hdecoded : decodeToken mac json secret step.now step.policy
      (encodePayload mac json secret payload) with
  | error err =>
    rw [hdecoded] at h
    cases h
  | ok session =>
    rw [hdecoded] at h
    obtain rfl := resolved_of_decodeToken hdecoded
    exact (Except.ok.inj h).symm

/-- The absolute deadline is taken over by a policy that has one. -/
theorem ax_refreshed {payload : SessionToken} {step : Refresh}
    (htimeout : step.policy.absoluteTimeout.isSome = true) {expiry : UInt64}
    (hexpiry : payload.ax = some expiry) :
    (buildTokenPayload step.now step.policy step.selected (some payload.resolved)).ax
      = some expiry := by
  obtain ⟨timeout, htimeout⟩ := Option.isSome_iff_exists.mp htimeout
  simp only [buildTokenPayload, htimeout, Option.map_some, Option.bind_some,
    SessionToken.resolved, hexpiry, Option.getD_some]

theorem refreshRun_cons {payload : SessionToken} {step : Refresh} {steps : List Refresh}
    {raw : String}
    (h : refreshRun mac json secret (encodePayload mac json secret payload) (step :: steps)
      = .ok raw) :
    refreshRun mac json secret (encodePayload mac json secret
      (buildTokenPayload step.now step.policy step.selected (some payload.resolved))) steps
      = .ok raw := by
  rw [refreshRun, List.foldlM_cons] at h
  cases hrefresh : refresh mac json secret (encodePayload mac json secret payload) step with
  | error err =>
    rw [hrefresh] at h
    cases h
  | ok next =>
    rw [hrefresh] at h
    rw [← refresh_eq_ok hrefresh]
    exact h

/-- **A chain of one policy** keeps the absolute deadline as it is. -/
theorem refreshRun_same {policy : SessionPersistence} {steps : List Refresh} {raw : String}
    (hsame : ∀ step ∈ steps, step.policy = policy) {payload : SessionToken}
    (hsome : payload.ax.isSome = policy.absoluteTimeout.isSome)
    (h : refreshRun mac json secret (encodePayload mac json secret payload) steps = .ok raw) :
    ∃ payload', raw = encodePayload mac json secret payload' ∧ payload'.ax = payload.ax := by
  induction steps generalizing payload with
  | nil => exact ⟨payload, (Except.ok.inj h).symm, rfl⟩
  | cons step steps ih =>
    have hpolicy := hsame step List.mem_cons_self
    have hkept : (buildTokenPayload step.now step.policy step.selected
        (some payload.resolved)).ax = payload.ax := by
      cases hax : payload.ax with
      | some expiry =>
        refine ax_refreshed ?_ hax
        rw [hpolicy, ← hsome, hax]
        rfl
      | none =>
        rw [hax, ← hpolicy] at hsome
        simp only [buildTokenPayload, Option.not_isSome_iff_eq_none.mp
          (Bool.eq_false_iff.mp hsome.symm), Option.map_none]
    rw [← hkept]
    refine ih (fun later hlater => hsame later (List.mem_cons_of_mem _ hlater)) ?_
      (refreshRun_cons h)
    rw [hkept, hsome]

/-- **A whole chain** does not move the absolute deadline later, if every policy has one when the
first token does. -/
theorem refreshRun_deadline {first : Option ℕ} {steps : List Refresh} {raw : String}
    (hkeep : first.isSome = true → ∀ step ∈ steps, step.policy.absoluteTimeout.isSome = true)
    {payload : SessionToken} (hfirst : NoLater (payload.ax.map UInt64.toNat) first)
    (h : refreshRun mac json secret (encodePayload mac json secret payload) steps = .ok raw) :
    ∃ payload', raw = encodePayload mac json secret payload' ∧
      NoLater (payload'.ax.map UInt64.toNat) first := by
  induction steps generalizing payload with
  | nil => exact ⟨payload, (Except.ok.inj h).symm, hfirst⟩
  | cons step steps ih =>
    refine ih (fun hsome later hlater => hkeep hsome later (List.mem_cons_of_mem _ hlater)) ?_
      (refreshRun_cons h)
    intro limit hlimit
    obtain ⟨limit', hle, hmap⟩ := hfirst limit hlimit
    obtain ⟨expiry, hax, rfl⟩ := Option.map_eq_some_iff.mp hmap
    refine ⟨expiry.toNat, hle, ?_⟩
    rw [ax_refreshed (hkeep (hlimit ▸ rfl) step List.mem_cons_self) hax]
    rfl

/-- **A session token.** Read by a policy of its own up to both deadlines, it gives the backend it
was written for; read after one of them, or by a policy of another name or transport, nothing.  A
chain of returns to one policy keeps the absolute deadline, and no chain of policies that have one
moves it later. -/
theorem session_token_confined (mac : List UInt8 → List UInt8 → List UInt8)
    (json : Codec SessionToken) (secret : List UInt8) (now : ℕ) (policy : SessionPersistence)
    (selected : SelectedBackend) (previous : Option ResolvedSession) :
    (∀ t, (∀ deadline ∈ absoluteDeadline now policy previous, t ≤ deadline) →
      (∀ deadline ∈ idleDeadline now policy, t ≤ deadline) →
      ∃ session, decodeToken mac json secret t policy (encodePayload mac json secret
          (buildTokenPayload now policy selected previous)) = .ok session ∧
        session.target = {
          backendName := selected.backendName
          endpoint := {
            address := selected.backend.address
            port := selected.backend.port
            healthy := true } } ∧
        session.absoluteExpiresAt.map UInt64.toNat = absoluteDeadline now policy previous) ∧
    (∀ t, (∃ deadline ∈ absoluteDeadline now policy previous, deadline < t) ∨
        (∃ deadline ∈ idleDeadline now policy, deadline < t) →
      ∃ err, decodeToken mac json secret t policy (encodePayload mac json secret
        (buildTokenPayload now policy selected previous)) = .error err) ∧
    (∀ t policy', policy'.sessionName ≠ policy.sessionName ∨ policy'.isCookie ≠ policy.isCookie →
      ∃ err, decodeToken mac json secret t policy' (encodePayload mac json secret
        (buildTokenPayload now policy selected previous)) = .error err) ∧
    (∀ steps, (∀ step ∈ steps, step.policy = policy) → ∀ raw,
      refreshRun mac json secret (encodePayload mac json secret
        (buildTokenPayload now policy selected previous)) steps = .ok raw →
      ∃ payload, raw = encodePayload mac json secret payload ∧
        payload.ax.map UInt64.toNat = absoluteDeadline now policy previous) ∧
    ∀ steps, (policy.absoluteTimeout.isSome = true →
        ∀ step ∈ steps, step.policy.absoluteTimeout.isSome = true) → ∀ raw,
      refreshRun mac json secret (encodePayload mac json secret
        (buildTokenPayload now policy selected previous)) steps = .ok raw →
      ∃ payload, raw = encodePayload mac json secret payload ∧
        NoLater (payload.ax.map UInt64.toNat) (absoluteDeadline now policy previous) := by
  have hax := map_toNat_ax now policy selected previous
  have hindex := map_toNat_ix now policy selected previous
  refine ⟨fun t habsolute hidle => ?_, fun t hpassed => ?_, fun t policy' hother => ?_,
    fun steps hsteps raw hrun => ?_, fun steps hsteps raw hrun => ?_⟩
  · rw [← hax, ← passed_eq_false_iff] at habsolute
    rw [← hindex, ← passed_eq_false_iff] at hidle
    refine ⟨(buildTokenPayload now policy selected previous).resolved, ?_, rfl, hax⟩
    rw [decodeToken_encodePayload, if_neg (fun h => h rfl), if_neg (fun h => h rfl),
      if_neg (fun h => h rfl), if_neg (by rw [habsolute]; decide), if_neg (by rw [hidle]; decide)]
  · rw [← hax, ← hindex, ← passed_iff, ← passed_iff] at hpassed
    rw [decodeToken_encodePayload, if_neg (fun h => h rfl), if_neg (fun h => h rfl),
      if_neg (fun h => h rfl)]
    split_ifs with habsolute hidle
    · exact ⟨_, rfl⟩
    · exact ⟨_, rfl⟩
    · exact absurd hpassed (not_or.mpr ⟨habsolute, hidle⟩)
  · rw [decodeToken_encodePayload, if_neg (fun h => h rfl)]
    split_ifs with hname htransport
    · exact ⟨_, rfl⟩
    · exact ⟨_, rfl⟩
    all_goals
      exfalso
      rcases hother with hother | hother
      · exact hname hother.symm
      · exact htransport fun heq => hother ((transportText_eq_iff policy policy').mp heq).symm
  · obtain ⟨payload, hraw, hkept⟩ := refreshRun_same hsteps
      (by simp only [buildTokenPayload, Option.isSome_map]) hrun
    exact ⟨payload, hraw, hkept ▸ hax⟩
  · refine refreshRun_deadline (fun hsome => hsteps ?_) (fun limit h => ⟨limit, le_rfl, ?_⟩) hrun
    · simpa only [absoluteDeadline, Option.isSome_map] using hsome
    · rw [hax, h]

end

/-! ## A short session -/

instance encodableSessionToken : Encodable SessionToken :=
  Encodable.ofLeftInverse (fun token => ((token.v.toNat, token.sn, token.st, token.bn),
      (token.a, token.p.toNat, token.ax.map UInt64.toNat, token.ix.map UInt64.toNat)))
    (fun fields => ⟨.ofNat fields.1.1, fields.1.2.1, fields.1.2.2.1, fields.1.2.2.2, fields.2.1,
      .ofNat fields.2.2.1, fields.2.2.2.1.map .ofNat, fields.2.2.2.2.map .ofNat⟩)
    fun token => by simp [Function.comp_def]

def numberedTokens : Codec SessionToken := .ofEncodable SessionToken

def untagged (_ _ : List UInt8) : List UInt8 := []

/-- A session that lasts ten seconds and may stay idle for five. -/
def shortSession : SessionPersistence :=
  { sessionName := "sid", absoluteTimeout := some 10000000000, idleTimeout := some 5000000000 }

def appBackend : SelectedBackend :=
  ⟨.http, "web", "default", none, .empty, "http", "HTTP", { address := "10.0.0.1", port := 8080 },
    "default/app:8080", [], none, none, none, none, none⟩

def shortToken (now : ℕ) (previous : Option ResolvedSession) : SessionToken :=
  buildTokenPayload now shortSession appBackend previous

theorem refreshRun_shortToken (mac : List UInt8 → List UInt8 → List UInt8)
    (json : Codec SessionToken) (secret : List UInt8) :
    refreshRun mac json secret (encodePayload mac json secret (shortToken 100 none))
        [⟨104, shortSession, appBackend⟩, ⟨108, shortSession, appBackend⟩]
      = .ok (encodePayload mac json secret (shortToken 108
          (some (shortToken 104 (some (shortToken 100 none).resolved)).resolved))) := by
  have hfirst : decodeToken mac json secret 104 shortSession
      (encodePayload mac json secret (shortToken 100 none))
          = .ok (shortToken 100 none).resolved := by
    rw [decodeToken_encodePayload]
    rfl
  have hsecond : decodeToken mac json secret 108 shortSession
      (encodePayload mac json secret (shortToken 104 (some (shortToken 100 none).resolved)))
        = .ok (shortToken 104 (some (shortToken 100 none).resolved)).resolved := by
    rw [decodeToken_encodePayload]
    rfl
  rw [refreshRun, List.foldlM_cons, refresh, hfirst]
  change refreshRun mac json secret (encodePayload mac json secret
    (shortToken 104 (some (shortToken 100 none).resolved))) _ = _
  rw [refreshRun, List.foldlM_cons, refresh, hsecond]
  rfl

/-- **Ten seconds in all, five at a time**: read in time, read late, and kept alive twice. -/
theorem session_token_confined_short :
    (∃ session, decodeToken untagged numberedTokens [] 105 shortSession
        (encodePayload untagged numberedTokens [] (shortToken 100 none)) = .ok session ∧
      session.absoluteExpiresAt.map UInt64.toNat = some 110) ∧
    (∃ err, decodeToken untagged numberedTokens [] 106 shortSession
        (encodePayload untagged numberedTokens [] (shortToken 100 none)) = .error err) ∧
    ∃ raw payload, refreshRun untagged numberedTokens []
        (encodePayload untagged numberedTokens [] (shortToken 100 none))
        [⟨104, shortSession, appBackend⟩, ⟨108, shortSession, appBackend⟩] = .ok raw ∧
      raw = encodePayload untagged numberedTokens [] payload ∧
      payload.ax.map UInt64.toNat = some 110 := by
  obtain ⟨hread, hlate, -, hchain, -⟩ :=
    session_token_confined untagged numberedTokens [] 100 shortSession appBackend none
  have hdeadline : absoluteDeadline 100 shortSession none = some 110 := rfl
  have hidle : idleDeadline 100 shortSession = some 105 := rfl
  rw [hdeadline] at hread hlate hchain
  rw [hidle] at hread hlate
  refine ⟨?_, hlate 106 (.inr ⟨105, rfl, by decide⟩), ?_⟩
  · obtain ⟨session, hsession, -, hexpires⟩ := hread 105 (by simp) (by simp)
    exact ⟨session, hsession, hexpires⟩
  · have hrun := refreshRun_shortToken untagged numberedTokens []
    obtain ⟨payload, hraw, hkept⟩ := hchain _ (by simp) _ hrun
    exact ⟨_, payload, hrun, hraw, hkept⟩

end NantianGateway.Http
