import NantianGateway.Lib.SignedText

/-!
# The session cookie of the authorization code flow

**`create_session_cookie` refuses to sign under the empty key, `verify_session` does not.**  A run
is a log of signings: cookies the gateway issued, and tags an attacker computed under known keys.  A
cookie is attainable if its tag under the verification key is in the log.
-/

namespace NantianGateway.Http

open Text SignedText

structure OidcSessionPayload where
  sub : String
  exp : UInt64
  accessTokenHash : String
  deriving DecidableEq

structure SecretMaterial where
  name : String := ""
  keyPem : String := ""
  deriving DecidableEq

def sessionSigningKey (secrets : List SecretMaterial) (sessionSigningKeyRef : String) : String :=
  ((secrets.find? (·.name = sessionSigningKeyRef)).map (·.keyPem)).getD ""

section

variable (mac : String → List UInt8 → List UInt8) (json : Codec OidcSessionPayload)

def verifySession (cookieValue signingKey : String) (now : UInt64) : Bool :=
  match splitOnce '.' cookieValue with
  | none => false
  | some (payloadB64, signatureB64) =>
    match Base64.decode payloadB64.toList, Base64.decode signatureB64.toList with
    | some payload, some signature =>
      if signature ≠ mac signingKey payload then false
      else
        match json.read payload with
        | none => false
        | some session => now < session.exp
    | _, _ => false

def createSessionCookie (payload : OidcSessionPayload) (signingKey : String) :
    Except String String :=
  if signingKey = "" then .error "session signing key not found"
  else .ok (signed mac signingKey (json.write payload))

theorem verifySession_iff {cookie key : String} {now : UInt64} :
    verifySession mac json cookie key now = true ↔
      ∃ body payload, cookie = signed mac key body ∧ json.read body = some payload ∧
        now < payload.exp := by
  constructor
  · intro h
    unfold verifySession at h
    split at h
    · cases h
    · rename_i front back hcut
      split at h
      · rename_i body tag hbody htag
        split_ifs at h with htagged
        split at h
        · cases h
        · rename_i payload hread
          refine ⟨body, payload, opens_iff.mp ⟨_, hcut, hbody, ?_⟩, hread, of_decide_eq_true h⟩
          rw [htag, not_not.mp htagged]
      · cases h
  · rintro ⟨body, payload, rfl, hread, hlive⟩
    simp only [verifySession, splitOnce_signed, String.toList_ofList, Base64.decode_encode, ne_eq,
      not_true_eq_false, if_false, hread, hlive, decide_true]

/-! ## Who has signed -/

inductive Signing where
  | issue (payload : OidcSessionPayload) (key : String)
  | compute (key : String) (body : List UInt8)
  deriving DecidableEq

/-- The tag a signing leaves behind; under the empty key the gateway issues none. -/
def Signing.tagged : Signing → Option (String × List UInt8)
  | .issue payload key => if key = "" then none else some (key, json.write payload)
  | .compute key body => some (key, body)

def Confined (known : String → Prop) (log : List Signing) : Prop :=
  ∀ key body, .compute key body ∈ log → known key

variable {mac json} {known : String → Prop} {log : List Signing} {key cookie : String}
    {now : UInt64}

theorem createSessionCookie_eq_ok {payload : OidcSessionPayload} (hkey : key ≠ "") :
    createSessionCookie mac json payload key = .ok (signed mac key (json.write payload)) :=
  if_neg hkey

theorem issued_of_verifySession (hlog : Confined known log)
    (hcookie : Attainable mac (log.filterMap (Signing.tagged json)) key cookie)
    (haccept : verifySession mac json cookie key now = true) :
    (∃ payload, .issue payload key ∈ log ∧ createSessionCookie mac json payload key = .ok cookie ∧
      now < payload.exp) ∨ known key := by
  obtain ⟨body, payload, rfl, hread, hlive⟩ := (verifySession_iff mac json).mp haccept
  obtain ⟨signing, hmem, htagged⟩ := List.mem_filterMap.mp (hcookie body rfl)
  cases signing with
  | compute key' body' =>
    obtain ⟨rfl, rfl⟩ := Prod.mk.inj (Option.some.inj htagged)
    exact .inr (hlog _ _ hmem)
  | issue payload' key' =>
    rw [Signing.tagged] at htagged
    split_ifs at htagged with hnil
    obtain ⟨rfl, rfl⟩ := Prod.mk.inj (Option.some.inj htagged)
    rw [json.read_write] at hread
    obtain rfl := Option.some.inj hread
    exact .inl ⟨payload', hmem, createSessionCookie_eq_ok hnil, hlive⟩

theorem attainable_computed (body : List UInt8) :
    Attainable mac ([Signing.compute key body].filterMap (Signing.tagged json)) key
      (signed mac key body) := by
  intro body' h
  rw [body_eq_of_signed_eq h]
  exact List.mem_singleton.mpr rfl

end

/-- **Soundness of the session cookie.** The keys under which every accepted cookie could have been
issued are those not known, and known ones that are not empty. -/
theorem oidc_session_sound_iff (mac : String → List UInt8 → List UInt8)
    (json : Codec OidcSessionPayload) (known : String → Prop) (key : String) :
    (¬ known key → ∀ log cookie now, Confined known log →
      Attainable mac (log.filterMap (Signing.tagged json)) key cookie →
      verifySession mac json cookie key now = true →
      ∃ payload, .issue payload key ∈ log ∧
        createSessionCookie mac json payload key = .ok cookie ∧ now < payload.exp) ∧
    ((∀ log cookie now, Confined known log →
      Attainable mac (log.filterMap (Signing.tagged json)) key cookie →
      verifySession mac json cookie key now = true →
      ∃ payload, createSessionCookie mac json payload key = .ok cookie ∧ now < payload.exp) ↔
        ¬ known key ∨ key ≠ "" ∧ ∀ body payload, json.read body = some payload →
          0 < payload.exp → body = json.write payload) := by
  refine ⟨fun hknown log cookie now hlog hcookie haccept => ?_, fun hsound => ?_, fun hkey => ?_⟩
  · exact (issued_of_verifySession hlog hcookie haccept).resolve_right hknown
  · rw [or_iff_not_imp_left, not_not]
    intro hknown
    have hforge : ∀ body payload, json.read body = some payload → 0 < payload.exp →
        key ≠ "" ∧ body = json.write payload := by
      intro body payload hread hlive
      have haccept : verifySession mac json (signed mac key body) key (payload.exp - 1) = true :=
        (verifySession_iff mac json).mpr ⟨body, payload, rfl, hread,
          UInt64.sub_lt (by decide) hlive⟩
      have hlog : Confined known [.compute key body] := by
        intro key' body' hmem
        obtain ⟨rfl, rfl⟩ := Signing.compute.inj (List.mem_singleton.mp hmem)
        exact hknown
      obtain ⟨payload', hcreate, -⟩ := hsound _ _ _ hlog (attainable_computed body) haccept
      rw [createSessionCookie] at hcreate
      split_ifs at hcreate with hnil
      have hbody := body_eq_of_signed_eq (Except.ok.inj hcreate)
      rw [← hbody, json.read_write] at hread
      rw [← hbody, Option.some.inj hread]
      exact ⟨hnil, rfl⟩
    refine ⟨?_, fun body payload hread hlive => (hforge body payload hread hlive).2⟩
    exact (hforge _ ⟨"", 1, ""⟩ (json.read_write _) (by decide)).1
  · intro log cookie now hlog hcookie haccept
    rcases issued_of_verifySession hlog hcookie haccept with ⟨payload, -, hcreate⟩ | hknown
    · exact ⟨payload, hcreate⟩
    · obtain ⟨hnil, hcanonical⟩ := hkey.resolve_left (not_not.mpr hknown)
      obtain ⟨body, payload, rfl, hread, hlive⟩ := (verifySession_iff mac json).mp haccept
      refine ⟨payload, ?_, hlive⟩
      rw [hcanonical body payload hread (UInt64.lt_of_le_of_lt UInt64.zero_le hlive)]
      exact createSessionCookie_eq_ok hnil

def keyThenBody (key : String) (body : List UInt8) : List UInt8 :=
  key.toList.map (fun c => UInt8.ofNat c.toNat) ++ body

instance encodableOidcSessionPayload : Encodable OidcSessionPayload :=
  Encodable.ofLeftInverse
    (fun session => (session.sub, session.exp.toNat, session.accessTokenHash))
    (fun fields => ⟨fields.1, .ofNat fields.2.1, fields.2.2⟩) fun session => by simp

def numberedJson : Codec OidcSessionPayload := .ofEncodable OidcSessionPayload

def forgedSession : OidcSessionPayload := ⟨"mallory", 4102444800, ""⟩

/-- **No secret has the configured name**: the key is empty, and an attacker who knows no other key
signs a session that the gateway accepts. -/
theorem oidc_session_forged_under_empty_key : sessionSigningKey [] "session-key" = "" ∧
    Confined (· = "") [.compute "" (numberedJson.write forgedSession)] ∧
    Attainable keyThenBody ([Signing.compute "" (numberedJson.write forgedSession)].filterMap
        (Signing.tagged numberedJson)) ""
          (signed keyThenBody "" (numberedJson.write forgedSession)) ∧
    verifySession keyThenBody numberedJson
      (signed keyThenBody "" (numberedJson.write forgedSession)) "" 1700000000 = true ∧
    ∀ payload, createSessionCookie keyThenBody numberedJson payload "" ≠
      .ok (signed keyThenBody "" (numberedJson.write forgedSession)) := by
  refine ⟨rfl, fun key body hmem => ?_, attainable_computed _, ?_, fun payload hcreate => ?_⟩
  · exact (Signing.compute.inj (List.mem_singleton.mp hmem)).1
  · exact (verifySession_iff _ _).mpr ⟨_, forgedSession, rfl, numberedJson.read_write _, by decide⟩
  · rw [createSessionCookie, if_pos rfl] at hcreate
    cases hcreate

end NantianGateway.Http
