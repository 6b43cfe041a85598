import Cortado.Lib.Outcome
import Cortado.Net.AddrText
import Cortado.Net.RouteTable

/-!
# Configuration

A configuration holds addresses as text.  `Config.validate` decides whether
every later `expect("already validated")` of the source succeeds; a
`ValidConfig` carries that fact, so its accessors are total.
-/

namespace Cortado

open Net Outcome

inductive ConfigError where
  | cidrMissingPrefixLen (spec : String)
  | cidrAddress (spec : String)
  | cidrPrefixLen (spec : String)
  | cidrTooLong (spec : String) (max : Nat)
  | proxyAddr
  | tunIp
  | dnsServer
  | metricsAddr
  | halfCredentials
  | usernameLength
  | passwordLength
  deriving DecidableEq, Repr

def ConfigError.message : ConfigError → String
  | .cidrMissingPrefixLen spec =>
      "cidr " ++ spec ++ " is missing a prefix length"
  | .cidrAddress spec => "cidr " ++ spec ++ " has an invalid address"
  | .cidrPrefixLen spec => "cidr " ++ spec ++ " has an invalid prefix length"
  | .cidrTooLong spec max =>
      "cidr " ++ spec ++ " prefix length exceeds " ++ toString max
  | .proxyAddr =>
      "proxy_addr is not a valid socket address (expected ip:port)"
  | .tunIp => "tun_ip is not a valid IPv4 address"
  | .dnsServer => "dns_server is not a valid IP address"
  | .metricsAddr =>
      "metrics_addr is not a valid socket address (expected ip:port)"
  | .halfCredentials =>
      "username and password must both be set or both be absent"
  | .usernameLength => "username length must be between 1 and 255"
  | .passwordLength => "password length must be between 1 and 255"

def parseCidr (spec : String) : Except ConfigError (IpAddr × Nat) :=
  match splitOnce '/' spec.toList with
  | none => .error (.cidrMissingPrefixLen spec)
  | some (addrPart, prefixPart) =>
      match IpAddr.parse? (String.ofList addrPart) with
      | none => .error (.cidrAddress spec)
      | some addr =>
          match parseU8? (String.ofList prefixPart) with
          | none => .error (.cidrPrefixLen spec)
          | some prefixLen =>
              let max := if addr.isIpv4 then 32 else 128
              if prefixLen > max then .error (.cidrTooLong spec max)
              else .ok (addr, prefixLen)

structure Config where
  proxyAddr : String := "127.0.0.1:1080"
  username : Option String := none
  password : Option String := none
  tunName : String := "cortado0"
  tunIp : String := "10.0.0.1"
  verbose : Bool := false
  dnsServer : String := "1.1.1.1"
  overrideDns : Bool := true
  dnsOverTcp : Bool := true
  bypassCidrs : List String := []
  metricsAddr : Option String := none
  deriving DecidableEq, Repr

namespace Config

def require (condition : Bool) (error : ConfigError) :
    Except ConfigError Unit :=
  if condition then .ok () else .error error

def validateCidrs : List String → Except ConfigError Unit
  | [] => .ok ()
  | cidr :: cidrs => do
      let _ ← parseCidr cidr
      validateCidrs cidrs

def validateMetrics (cfg : Config) : Except ConfigError Unit :=
  match cfg.metricsAddr with
  | some addr => require (SocketAddr.parse? addr).isSome .metricsAddr
  | none => .ok ()

def validateCredentials (cfg : Config) : Except ConfigError Unit :=
  match cfg.username, cfg.password with
  | some _, none => .error .halfCredentials
  | none, some _ => .error .halfCredentials
  | some user, some pass => do
      require (!(user.isEmpty || user.utf8ByteSize > 255)) .usernameLength
      require (!(pass.isEmpty || pass.utf8ByteSize > 255)) .passwordLength
  | none, none => .ok ()

def validate (cfg : Config) : Except ConfigError Unit := do
  require (SocketAddr.parse? cfg.proxyAddr).isSome .proxyAddr
  require (Ipv4Addr.parse? cfg.tunIp).isSome .tunIp
  require (!cfg.overrideDns || (IpAddr.parse? cfg.dnsServer).isSome) .dnsServer
  validateCidrs cfg.bypassCidrs
  validateMetrics cfg
  validateCredentials cfg

end Config

theorem Config.require_eq_ok {condition : Bool} {error : ConfigError}
    {result : Unit} (success : require condition error = .ok result) :
    condition = true := by
  by_contra failed
  simp [require, failed] at success

theorem Config.validateCidrs_eq_ok {cidrs : List String} {result : Unit}
    (success : validateCidrs cidrs = .ok result) :
    ∀ cidr ∈ cidrs, (parseCidr cidr).toOption.isSome = true := by
  induction cidrs with
  | nil => simp
  | cons head tail induction =>
      obtain ⟨entry, parsed, rest⟩ := bind_eq_ok success
      intro cidr member
      rcases List.mem_cons.mp member with rfl | later
      · simp [parsed, Except.toOption]
      · exact induction rest cidr later

/-- A configuration that passed validation. -/
structure ValidConfig where
  config : Config
  valid : config.validate = .ok ()

namespace ValidConfig

theorem parses (cfg : ValidConfig) :
    (SocketAddr.parse? cfg.config.proxyAddr).isSome = true ∧
      (cfg.config.overrideDns = true →
        (IpAddr.parse? cfg.config.dnsServer).isSome = true) ∧
      ∀ cidr ∈ cfg.config.bypassCidrs,
        (parseCidr cidr).toOption.isSome = true := by
  obtain ⟨_, proxy, rest⟩ := bind_eq_ok cfg.valid
  obtain ⟨_, _, rest⟩ := bind_eq_ok rest
  obtain ⟨_, dns, rest⟩ := bind_eq_ok rest
  obtain ⟨_, cidrs, _⟩ := bind_eq_ok rest
  refine ⟨Config.require_eq_ok proxy, ?_, Config.validateCidrs_eq_ok cidrs⟩
  intro overridden
  simpa [overridden] using Config.require_eq_ok dns

theorem parses_tunIp (cfg : ValidConfig) :
    (Ipv4Addr.parse? cfg.config.tunIp).isSome = true := by
  obtain ⟨_, _, rest⟩ := bind_eq_ok cfg.valid
  obtain ⟨_, tunIp, _⟩ := bind_eq_ok rest
  exact Config.require_eq_ok tunIp

theorem parses_metricsAddr (cfg : ValidConfig) :
    ∀ addr ∈ cfg.config.metricsAddr,
      (SocketAddr.parse? addr).isSome = true := by
  obtain ⟨_, _, rest⟩ := bind_eq_ok cfg.valid
  obtain ⟨_, _, rest⟩ := bind_eq_ok rest
  obtain ⟨_, _, rest⟩ := bind_eq_ok rest
  obtain ⟨_, _, rest⟩ := bind_eq_ok rest
  obtain ⟨_, metrics, _⟩ := bind_eq_ok rest
  intro addr configured
  rw [Option.mem_def] at configured
  rw [Config.validateMetrics, configured] at metrics
  exact Config.require_eq_ok metrics

/-- Credentials come in pairs, and their lengths fit into a byte. -/
theorem credential_cases (cfg : ValidConfig) :
    (cfg.config.username = none ∧ cfg.config.password = none) ∨
      ∃ user pass, cfg.config.username = some user ∧
        cfg.config.password = some pass ∧
        0 < user.utf8ByteSize ∧ user.utf8ByteSize ≤ 255 ∧
        0 < pass.utf8ByteSize ∧ pass.utf8ByteSize ≤ 255 := by
  obtain ⟨_, _, rest⟩ := bind_eq_ok cfg.valid
  obtain ⟨_, _, rest⟩ := bind_eq_ok rest
  obtain ⟨_, _, rest⟩ := bind_eq_ok rest
  obtain ⟨_, _, rest⟩ := bind_eq_ok rest
  obtain ⟨_, _, credentials⟩ := bind_eq_ok rest
  unfold Config.validateCredentials at credentials
  split at credentials
  · cases credentials
  · cases credentials
  · rename_i user pass hasUser hasPass
    obtain ⟨_, userLength, passLength⟩ := bind_eq_ok credentials
    have userOk := Config.require_eq_ok userLength
    have passOk := Config.require_eq_ok passLength
    simp only [String.isEmpty, Bool.not_eq_true', Bool.or_eq_false_iff,
      beq_eq_false_iff_ne, decide_eq_false_iff_not] at userOk passOk
    refine Or.inr ⟨user, pass, hasUser, hasPass, ?_⟩
    omega
  · rename_i noUser noPass
    exact Or.inl ⟨noUser, noPass⟩

def proxySocketAddr (cfg : ValidConfig) : SocketAddr :=
  (SocketAddr.parse? cfg.config.proxyAddr).get cfg.parses.1

def dnsAddr (cfg : ValidConfig) : Option IpAddr :=
  if overridden : cfg.config.overrideDns = true then
    some ((IpAddr.parse? cfg.config.dnsServer).get
      (cfg.parses.2.1 overridden))
  else none

def bypassRoutes (cfg : ValidConfig) : CidrList :=
  cfg.config.bypassCidrs.pmap
    (fun cidr (accepted : (parseCidr cidr).toOption.isSome = true) =>
      (parseCidr cidr).toOption.get accepted)
    cfg.parses.2.2

def tunIpv4 (cfg : ValidConfig) : Ipv4Addr :=
  (Ipv4Addr.parse? cfg.config.tunIp).get cfg.parses_tunIp

def metricsSocketAddr (cfg : ValidConfig) : Option SocketAddr :=
  cfg.config.metricsAddr.pmap
    (fun addr (accepted : (SocketAddr.parse? addr).isSome = true) =>
      (SocketAddr.parse? addr).get accepted)
    cfg.parses_metricsAddr

end ValidConfig

/-- No accepted entry is longer than the addresses of its family. -/
def ValidBypass (bypass : CidrList) : Prop :=
  ∀ entry ∈ bypass, entry.2 ≤ entry.1.width

theorem parseCidr_bound {spec : String} {entry : IpAddr × Nat}
    (parsed : parseCidr spec = .ok entry) : entry.2 ≤ entry.1.width := by
  unfold parseCidr at parsed
  split at parsed
  · contradiction
  · split at parsed
    · contradiction
    · rename_i addr _
      split at parsed
      · contradiction
      · rename_i prefixLen _
        have widthEq : (if addr.isIpv4 then 32 else 128) = addr.width := by
          cases addr <;> rfl
        simp only [widthEq] at parsed
        split at parsed
        · contradiction
        · rename_i bounded
          cases parsed
          exact Nat.le_of_not_gt bounded

theorem ValidConfig.validBypass (cfg : ValidConfig) :
    ValidBypass cfg.bypassRoutes := by
  intro entry member
  simp only [bypassRoutes, List.mem_pmap] at member
  obtain ⟨spec, inList, rfl⟩ := member
  exact parseCidr_bound
    (eq_ok_of_toOption_eq_some (Option.some_get _).symm)

structure ProxyConfig where
  addr : SocketAddr
  username : Option String
  password : Option String
  connectTimeoutSecs : Nat
  tcpNodelay : Bool
  deriving DecidableEq, Repr

def defaultConnectTimeoutSecs : Nat := 10

def ProxyConfig.fromConfig (cfg : ValidConfig) : ProxyConfig :=
  { addr := cfg.proxySocketAddr
    username := cfg.config.username
    password := cfg.config.password
    connectTimeoutSecs := defaultConnectTimeoutSecs
    tcpNodelay := true }

/-! ## Configurations for examples -/

def v4ProxyConfig : ValidConfig :=
  ⟨{ proxyAddr := "203.0.113.9:1080" }, by decide⟩

/-- Another proxy, bypass list and name server. -/
def movedConfig : ValidConfig :=
  ⟨{ proxyAddr := "198.51.100.7:1080"
     bypassCidrs := ["10.0.0.0/8"]
     dnsServer := "9.9.9.9" }, by decide⟩

/-- The same proxy with two bypass entries. -/
def twoBypassConfig : ValidConfig :=
  ⟨{ proxyAddr := "203.0.113.9:1080"
     bypassCidrs := ["10.0.0.0/8", "172.16.0.0/12"] }, by decide⟩

end Cortado
