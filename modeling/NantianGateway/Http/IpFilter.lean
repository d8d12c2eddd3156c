import NantianGateway.Ir.Types
import NantianGateway.Lib.NetAddr

/-!
# Access by client address

`handle_ip_filter` cuts the text of a socket address at the last colon and parses what stands before
it.  For IPv4 the filter decides what the lists mean (`IpAllowed`).  **An IPv6 client is refused
whenever a list has an entry**, since the text before the port is the address in brackets.
-/

namespace NantianGateway.Http

open Text NetAddr

structure LocalResponse where
  status : ℕ
  headers : List (String × String) := []
  body : String := ""
  deriving DecidableEq

def send403 (message : String) : LocalResponse where
  status := 403
  headers := [("content-type", "text/plain"), ("content-length", toString (len message))]
  body := message

structure IpNetCrate where
  Net : Type
  parse : String → Option Net
  contains : Net → IpAddr → Bool

variable (crate : IpNetCrate)

def IpNetCrate.holds (entry : String) (ip : IpAddr) : Bool :=
  (crate.parse entry).any (crate.contains · ip)

def clientIp (clientAddr : String) : Option IpAddr :=
  parseIpAddr ((rsplitOnce ':' clientAddr).elim clientAddr Prod.fst)

def handleIpFilter (securityPolicy : Option SecurityPolicyConfig) (clientAddr : Option String) :
    Option LocalResponse :=
  match securityPolicy.bind (·.ip) with
  | none => none
  | some config =>
    if config.allowCidrs = [] ∧ config.denyCidrs = [] then none
    else
      match clientAddr.bind clientIp with
      | none => some (send403 "IP not allowed")
      | some ip =>
        -- the allow list is read first, then the deny list
        if config.allowCidrs ≠ [] ∧ ¬ config.allowCidrs.any (crate.holds · ip) then
          some (send403 "IP not allowed")
        else if config.denyCidrs.any (crate.holds · ip) then some (send403 "IP not allowed")
        else none

/-- What the two lists of a policy mean for an address. -/
def IpAllowed (config : SecurityIpConfig) (ip : IpAddr) : Prop :=
  (∀ entry ∈ config.denyCidrs, crate.holds entry ip = false) ∧
    (config.allowCidrs = [] ∨ ∃ entry ∈ config.allowCidrs, crate.holds entry ip = true)

section

variable {crate} (policy : SecurityPolicyConfig) (config : SecurityIpConfig)

theorem handleIpFilter_of_clientIp {clientAddr : String} {ip : IpAddr}
    (hip : clientIp clientAddr = some ip) :
    handleIpFilter crate (some { policy with ip := some config }) (some clientAddr) = none ↔
      IpAllowed crate config ip := by
  have hdeny : (∀ entry ∈ config.denyCidrs, crate.holds entry ip = false) ↔
      config.denyCidrs.any (crate.holds · ip) = false := by
    simp only [List.any_eq_false, Bool.not_eq_true]
  have hallow : (∃ entry ∈ config.allowCidrs, crate.holds entry ip = true) ↔
      config.allowCidrs.any (crate.holds · ip) = true := List.any_eq_true.symm
  rw [IpAllowed, hdeny, hallow]
  simp only [handleIpFilter, Option.bind_some, hip]
  by_cases hnil : config.allowCidrs = []
  · cases hany : config.denyCidrs.any (crate.holds · ip) with
    | true =>
      have hne : config.denyCidrs ≠ [] := by
        rintro hempty
        rw [hempty] at hany
        cases hany
      simp [hnil, hne]
    | false => simp [hnil]
  · cases config.allowCidrs.any (crate.holds · ip) <;>
      cases config.denyCidrs.any (crate.holds · ip) <;> simp [hnil]

theorem clientIp_ipv4 (ip : Ipv4Addr) (port : UInt16) :
    clientIp (SocketAddr.v4 ip port).text = some (.v4 ip) := by
  rw [clientIp, rsplitOnce_text]
  exact parseIpAddr_ipv4 ip

theorem clientIp_ipv6 (ip : Ipv6Addr) (port : UInt16) (scopeId : UInt32) :
    clientIp (SocketAddr.v6 ip port scopeId).text = none := by
  rw [clientIp, rsplitOnce_text]
  change parseIpAddr (String.ofList (SocketAddr.v6 ip port scopeId).hostText) = none
  rw [SocketAddr.hostText]
  split
  · exact parseIpAddr_bracket _
  · exact parseIpAddr_bracket _

theorem handleIpFilter_ipv4 (ip : Ipv4Addr) (port : UInt16) :
    handleIpFilter crate (some { policy with ip := some config })
        (some (SocketAddr.v4 ip port).text) = none ↔ IpAllowed crate config (.v4 ip) :=
  handleIpFilter_of_clientIp policy config (clientIp_ipv4 ip port)

theorem handleIpFilter_ipv6 (ip : Ipv6Addr) (port : UInt16) (scopeId : UInt32) :
    handleIpFilter crate (some { policy with ip := some config })
        (some (SocketAddr.v6 ip port scopeId).text) = none ↔
      config.allowCidrs = [] ∧ config.denyCidrs = [] := by
  simp only [handleIpFilter, Option.bind_some, clientIp_ipv6]
  split_ifs with h
  · exact ⟨fun _ => h, fun _ => rfl⟩
  · exact ⟨False.elim, fun hempty => absurd hempty h⟩

end

/-- **When the filter decides what its lists say**: exactly if the client is an IPv4 client, or
there is no list, or the lists refuse the client. -/
theorem handleIpFilter_agrees_iff (policy : SecurityPolicyConfig) (config : SecurityIpConfig)
    (addr : SocketAddr) :
    (handleIpFilter crate (some { policy with ip := some config }) (some addr.text) = none ↔
        IpAllowed crate config addr.ip) ↔
      addr.isIpv4 = true ∨ (config.allowCidrs = [] ∧ config.denyCidrs = []) ∨
        ¬ IpAllowed crate config addr.ip := by
  cases addr with
  | v4 ip port =>
    exact ⟨fun _ => .inl rfl, fun _ => handleIpFilter_ipv4 policy config ip port⟩
  | v6 ip port scopeId =>
    rw [handleIpFilter_ipv6]
    have hnil : config.allowCidrs = [] ∧ config.denyCidrs = [] →
        IpAllowed crate config (SocketAddr.v6 ip port scopeId).ip := by
      rintro ⟨hallow, hdeny⟩
      refine ⟨fun entry hentry => ?_, .inl hallow⟩
      rw [hdeny] at hentry
      exact absurd hentry List.not_mem_nil
    constructor
    · intro h
      by_cases hallowed : IpAllowed crate config (SocketAddr.v6 ip port scopeId).ip
      · exact .inr (.inl (h.mpr hallowed))
      · exact .inr (.inr hallowed)
    · rintro (h | h | h)
      · cases h
      · exact ⟨fun _ => hnil h, fun _ => h⟩
      · exact ⟨hnil, fun hallowed => absurd hallowed h⟩

def cidrBlocks : IpNetCrate := ⟨IpNet, parseIpNet, IpNet.contains⟩

instance (config : SecurityIpConfig) (ip : IpAddr) : Decidable (IpAllowed crate config ip) :=
  inferInstanceAs (Decidable (_ ∧ _))

/-- **An IPv6 client in an allowed block is refused**, and so is one that no denied block
holds. -/
theorem handleIpFilter_refuses_ipv6 :
    (SocketAddr.v6 (.ofGroups [0x2001, 0xdb8, 0, 0, 0, 0, 0, 1]) 443 0).text = "[2001:db8::1]:443" ∧
    IpAllowed cidrBlocks { allowCidrs := ["2001:db8::/32"] }
      (.v6 (.ofGroups [0x2001, 0xdb8, 0, 0, 0, 0, 0, 1])) ∧
    handleIpFilter cidrBlocks (some { ip := some { allowCidrs := ["2001:db8::/32"] } })
      (some "[2001:db8::1]:443") = some (send403 "IP not allowed") ∧
    IpAllowed cidrBlocks { denyCidrs := ["10.0.0.0/8"] }
      (.v6 (.ofGroups [0x2001, 0xdb8, 0, 0, 0, 0, 0, 1])) ∧
    handleIpFilter cidrBlocks (some { ip := some { denyCidrs := ["10.0.0.0/8"] } })
      (some "[2001:db8::1]:443") = some (send403 "IP not allowed") := by
  decide +kernel

end NantianGateway.Http
