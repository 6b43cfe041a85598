import Mathlib.Tactic.IntervalCases
import Cortado.Config
import Cortado.Dns.Wire
import Cortado.Lib.Dialogue

/-!
# The handshake of UDP ASSOCIATE

The client offers its methods, authenticates if the proxy asks for it, sends
its request and reads the address of the relay.  `MethodReply` and `BindReply`
are the replies that it accepts.
-/

namespace Cortado.Socks

open Net Dialogue
open Dns (fromBeBytes)

inductive HandshakeError where
  | methodReply
  | methodVersion (version : UInt8)
  | needsCredentials
  | authReply
  | authRejected
  | noMethod
  | unsupportedMethod (method : UInt8)
  | replyHeader
  | replyVersion (version : UInt8)
  | replyCode (code : UInt8)
  | ipv4Address
  | ipv6Address
  | domainLength
  | domainAddress
  | domainUnsupported
  | addressType (kind : UInt8)
  | bindPort
  deriving DecidableEq, Repr

def HandshakeError.message : HandshakeError → String
  | .methodReply => "failed to read SOCKS5 method selection reply"
  | .methodVersion version =>
      "invalid SOCKS5 version in method reply: " ++ toString version
  | .needsCredentials => "proxy requires username/password authentication"
  | .authReply => "failed to read SOCKS5 auth reply"
  | .authRejected => "SOCKS5 authentication rejected by proxy"
  | .noMethod =>
      "SOCKS5 proxy offered no acceptable authentication method"
  | .unsupportedMethod method =>
      "SOCKS5 proxy selected unsupported auth method " ++ toString method
  | .replyHeader => "failed to read SOCKS5 reply header"
  | .replyVersion version =>
      "invalid SOCKS5 version in reply: " ++ toString version
  | .replyCode code =>
      "SOCKS5 request failed with reply code " ++ toString code
  | .ipv4Address => "failed to read SOCKS5 IPv4 bind address"
  | .ipv6Address => "failed to read SOCKS5 IPv6 bind address"
  | .domainLength => "failed to read SOCKS5 domain length"
  | .domainAddress => "failed to read SOCKS5 domain bind address"
  | .domainUnsupported =>
      "SOCKS5 proxy returned a domain bind address " ++
        "which is not supported for UDP"
  | .addressType kind =>
      "SOCKS5 reply used unsupported address type " ++ toString kind
  | .bindPort => "failed to read SOCKS5 bind port"

abbrev Handshake := Talk HandshakeError

def utf8 (text : String) : List UInt8 :=
  text.toByteArray.data.toList

def methodOffer (proxy : ProxyConfig) : List UInt8 :=
  if proxy.username.isSome then [0x05, 0x02, 0x00, 0x02]
  else [0x05, 0x01, 0x00]

/-- The lengths are cut to a byte. -/
def credentialMessage (user pass : String) : List UInt8 :=
  0x01 :: UInt8.ofNat user.utf8ByteSize :: (utf8 user ++
    UInt8.ofNat pass.utf8ByteSize :: utf8 pass)

/-- `context` on a missing value. -/
def orFail {α : Type} (value : Option α) (error : HandshakeError) :
    Handshake α :=
  match value with
  | some value => return value
  | none => throw error

/-- The proxy selected username and password. -/
def authenticate (proxy : ProxyConfig) : Handshake Unit := do
  let user ← orFail proxy.username .needsCredentials
  let pass ← orFail proxy.password .needsCredentials
  writeAll (credentialMessage user pass)
  let authResp ← readExact 2 .authReply
  if authResp[1] ≠ 0x00 then
    throw .authRejected
  else
    return ()

/-- How the client goes on with the selected method. -/
def followMethod (proxy : ProxyConfig) (method : UInt8) : Handshake Unit :=
  if method = 0x00 then
    return ()
  else if method = 0x02 then
    authenticate proxy
  else if method = 0xFF then
    throw .noMethod
  else
    throw (.unsupportedMethod method)

def negotiateAuth (proxy : ProxyConfig) : Handshake Unit := do
  writeAll (methodOffer proxy)
  let resp ← readExact 2 .methodReply
  if resp[0] ≠ 0x05 then
    throw (.methodVersion resp[0])
  else
    followMethod proxy resp[1]

/-- The address of a reply, by its kind. -/
def readBindIp (kind : UInt8) : Handshake IpAddr := do
  if kind = 0x01 then
    let octets ← readExact 4 .ipv4Address
    return .v4 (.ofOctets octets[0].toNat octets[1].toNat octets[2].toNat
      octets[3].toNat)
  else if kind = 0x04 then
    let octets ← readExact 16 .ipv6Address
    return .v6 (.fromOctets octets.toList)
  else if kind = 0x03 then
    let len ← readExact 1 .domainLength
    let _domain ← readExact len[0].toNat .domainAddress
    throw .domainUnsupported
  else
    throw (.addressType kind)

def readBindAddress : Handshake SocketAddr := do
  let head ← readExact 4 .replyHeader
  if head[0] ≠ 0x05 then
    throw (.replyVersion head[0])
  else if head[1] ≠ 0x00 then
    throw (.replyCode head[1])
  else
    let ip ← readBindIp head[3]
    let port ← readExact 2 .bindPort
    return .new ip (fromBeBytes port[0] port[1])

def isUnspecified : IpAddr → Bool
  | .v4 addr => addr == 0
  | .v6 addr => addr == 0

def normalizeRelay (reply proxy : SocketAddr) : SocketAddr :=
  if isUnspecified reply.ip then .new proxy.ip reply.port else reply

def associateRequest : List UInt8 :=
  [0x05, 0x03, 0x00, 0x01, 0, 0, 0, 0, 0, 0]

/-- The connection stands, writes succeed and no timeout passes. -/
def udpAssociate (proxy : ProxyConfig) : Handshake SocketAddr := do
  negotiateAuth proxy
  writeAll associateRequest
  let reply ← readBindAddress
  return normalizeRelay reply proxy.addr

/-! ## Accepted replies -/

/-- A method that the client can go on with. -/
inductive MethodReply (credentials : Bool) : List UInt8 → Prop
  | noAuth : MethodReply credentials [0x05, 0x00]
  | password (version : UInt8) (configured : credentials = true) :
      MethodReply credentials [0x05, 0x02, version, 0x00]

/-- A successful reply to the request, with its address. -/
inductive BindReply : List UInt8 → SocketAddr → Prop
  | v4 (reserved a b c d high low : UInt8) :
      BindReply [0x05, 0x00, reserved, 0x01, a, b, c, d, high, low]
        (.new (.v4 (.ofOctets a.toNat b.toNat c.toNat d.toNat))
          (fromBeBytes high low))
  | v6 (reserved : UInt8) (octets : Vector UInt8 16) (high low : UInt8) :
      BindReply ([0x05, 0x00, reserved, 0x04] ++ octets.toList ++ [high, low])
        (.new (.v6 (.fromOctets octets.toList)) (fromBeBytes high low))

/-- Username and password, if both are configured. -/
def credentials (proxy : ProxyConfig) : Option (String × String) :=
  match proxy.username, proxy.password with
  | some user, some pass => some (user, pass)
  | _, _ => none

/-- The proxy selected username and password. -/
def SelectsPassword (reply : List UInt8) : Prop :=
  [0x05, 0x02] <+: reply

theorem exists_two (bytes : Vector UInt8 2) :
    ∃ first second, bytes = #v[first, second] := by
  refine ⟨bytes[0], bytes[1], ?_⟩
  apply Vector.ext
  intro index bound
  interval_cases index <;> rfl

theorem exists_four (bytes : Vector UInt8 4) :
    ∃ first second third fourth,
      bytes = #v[first, second, third, fourth] := by
  refine ⟨bytes[0], bytes[1], bytes[2], bytes[3], ?_⟩
  apply Vector.ext
  intro index bound
  interval_cases index <;> rfl

/-! ## Authentication -/

/-- A reply that accepts the credentials. -/
def AuthReply : Grammar Unit :=
  fun reply _ => ∃ version, reply = [version, 0x00]

theorem authReply_iff (reply : List UInt8) (value : Unit) :
    (Grammar.bytes 2).andThen
        (fun resp => (Grammar.silence ()).when ¬resp[1] ≠ 0x00) reply value ↔
      AuthReply reply value := by
  constructor
  · rintro ⟨_, resp, _, rfl, rfl, accepted, rfl, _⟩
    obtain ⟨version, status, rfl⟩ := exists_two resp
    have zero : status = 0x00 := not_not.mp accepted
    exact ⟨version, by rw [zero]; rfl⟩
  · rintro ⟨version, rfl⟩
    exact ⟨_, #v[version, 0x00], [], rfl, rfl, not_not.mpr rfl, rfl, rfl⟩

theorem authenticate_of_none {proxy : ProxyConfig}
    (missing : credentials proxy = none) (line : Line) :
    (authenticate proxy).on line = (.error .needsCredentials, line) := by
  unfold credentials at missing
  unfold authenticate
  cases user : proxy.username with
  | none => rfl
  | some name =>
      cases pass : proxy.password with
      | none => rfl
      | some word =>
          rw [user, pass] at missing
          cases missing

theorem authenticate_of_some {proxy : ProxyConfig} {user pass : String}
    (configured : credentials proxy = some (user, pass)) (line : Line) :
    Settled AuthReply (credentialMessage user pass) (authenticate proxy)
      line := by
  have both : proxy.username = some user ∧ proxy.password = some pass := by
    unfold credentials at configured
    split at configured
    · rename_i name word hasName hasWord
      cases configured
      exact ⟨hasName, hasWord⟩
    · cases configured
  unfold authenticate
  rw [both.1, both.2]
  simp only [orFail, pure_bind]
  refine Settled.say (Settled.congr authReply_iff ?_) (List.append_nil _)
  refine Settled.bind (Grammar.code_bytes 2) (settled_readExact 2 _ _) ?_
    (fun _ => rfl) rfl
  intro reply after resp means reads
  exact Settled.orThrow _ (fun _ => settled_pure () _) (fun _ => rfl)

/-! ## The method -/

/-- What the client writes after a selected method. -/
def credentialsFor (proxy : ProxyConfig) (method : UInt8) : List UInt8 :=
  match credentials proxy with
  | some (user, pass) =>
      if method = 0x02 then credentialMessage user pass else []
  | none => []

theorem credentialsFor_of_ne (proxy : ProxyConfig) {method : UInt8}
    (other : method ≠ 0x02) : credentialsFor proxy method = [] := by
  unfold credentialsFor
  split
  · exact if_neg other
  · rfl

/-- The rest of an accepted reply after its method. -/
def MethodRest (proxy : ProxyConfig) (method : UInt8) : Grammar Unit :=
  fun reply _ => (method = 0x00 ∧ reply = []) ∨
    (method = 0x02 ∧ (credentials proxy).isSome = true ∧ AuthReply reply ())

theorem settled_followMethod (proxy : ProxyConfig) (method : UInt8)
    (line : Line) :
    Settled (MethodRest proxy method) (credentialsFor proxy method)
      (followMethod proxy method) line := by
  unfold followMethod
  by_cases isOpen : method = 0x00
  · have other : method ≠ 0x02 := by
      rw [isOpen]
      decide
    rw [if_pos isOpen, credentialsFor_of_ne proxy other]
    refine (settled_pure () line).congr ?_
    intro reply value
    simp [Grammar.silence, MethodRest, isOpen]
  · rw [if_neg isOpen]
    by_cases isPassword : method = 0x02
    · subst isPassword
      rw [if_pos rfl]
      cases configured : credentials proxy with
      | none =>
          have quiet : credentialsFor proxy 0x02 = [] := by
            rw [credentialsFor, configured]
          rw [quiet]
          refine .refused ?_ (authenticate_of_none configured line)
            (List.append_nil _).symm
          rintro ⟨reply, value, means, _⟩
          simp [MethodRest, configured] at means
      | some pair =>
          obtain ⟨user, pass⟩ := pair
          have written : credentialsFor proxy 0x02 =
              credentialMessage user pass := by
            rw [credentialsFor, configured]
            rfl
          rw [written]
          refine (authenticate_of_some configured line).congr ?_
          intro reply value
          simp [MethodRest, configured]
    · have foreign : ∀ reply value,
          Grammar.nothing reply value ↔ MethodRest proxy method reply value := by
        intro reply value
        simp [Grammar.nothing, MethodRest, isOpen, isPassword]
      rw [if_neg isPassword, credentialsFor_of_ne proxy isPassword]
      split
      · exact (settled_throw _ line).congr foreign
      · exact (settled_throw _ line).congr foreign

/-- What the client writes between its offer and its request. -/
def credentialPart (proxy : ProxyConfig) : List UInt8 → List UInt8
  | version :: method :: _ =>
      if version = 0x05 then credentialsFor proxy method else []
  | _ => []

theorem methodReply_iff (proxy : ProxyConfig) (reply : List UInt8)
    (value : Unit) :
    (Grammar.bytes 2).andThen (fun resp =>
        (MethodRest proxy resp[1]).when ¬resp[0] ≠ 0x05) reply value ↔
      MethodReply (credentials proxy).isSome reply := by
  constructor
  · rintro ⟨_, resp, rest, rfl, rfl, version, selected⟩
    obtain ⟨first, method, rfl⟩ := exists_two resp
    have five : first = 0x05 := not_not.mp version
    subst five
    rcases selected with ⟨isOpen, rfl⟩ | ⟨isPassword, configured, status, rfl⟩
    · have zero : method = 0x00 := isOpen
      subst zero
      exact .noAuth
    · have two : method = 0x02 := isPassword
      subst two
      exact .password status configured
  · intro accepted
    cases accepted with
    | noAuth =>
        exact ⟨_, #v[0x05, 0x00], [], rfl, rfl, not_not.mpr rfl,
          Or.inl ⟨rfl, rfl⟩⟩
    | password status configured =>
        exact ⟨_, #v[0x05, 0x02], [status, 0x00], rfl, rfl, not_not.mpr rfl,
          Or.inr ⟨rfl, configured, status, rfl⟩⟩

theorem settled_negotiateAuth (proxy : ProxyConfig) (line : Line) :
    Settled (fun reply _ => MethodReply (credentials proxy).isSome reply)
      (methodOffer proxy ++ credentialPart proxy line.unread)
      (negotiateAuth proxy) line := by
  unfold negotiateAuth
  refine Settled.say (Settled.congr (methodReply_iff proxy) ?_) rfl
  refine Settled.bind (Grammar.code_bytes 2) (settled_readExact 2 _ _) ?_ ?_
    (List.nil_append _)
  · intro reply after resp means reads
    obtain ⟨version, method, rfl⟩ := exists_two resp
    have isReply : reply = [version, method] := means
    have unread : line.unread = [version, method] ++ after := isReply ▸ reads
    have part : credentialPart proxy line.unread =
        if version = 0x05 then credentialsFor proxy method else [] := by
      rw [unread]
      rfl
    rw [part]
    refine Settled.orThrow _ ?_ ?_
    · intro isFive
      have five : version = 0x05 := not_not.mp isFive
      rw [if_pos five]
      exact settled_followMethod proxy method _
    · intro other
      exact if_neg other
  · intro foreign
    unfold credentialPart
    split
    · rename_i version method rest unread
      refine absurd ⟨[version, method], #v[version, method], rfl, rest, ?_⟩
        foreign
      exact unread.symm
    · rfl

/-! ## The bound address -/

/-- The meaning of the octets of an address. -/
def v4Of (octets : Vector UInt8 4) : IpAddr :=
  .v4 (.ofOctets octets[0].toNat octets[1].toNat octets[2].toNat
    octets[3].toNat)

def v6Of (octets : Vector UInt8 16) : IpAddr :=
  .v6 (.fromOctets octets.toList)

/-- The bytes of an address of a kind. -/
def BindIp (kind : UInt8) : Grammar IpAddr :=
  fun reply ip =>
    (kind = 0x01 ∧ (Grammar.bytes 4).map v4Of reply ip) ∨
      (kind = 0x04 ∧ (Grammar.bytes 16).map v6Of reply ip)

theorem code_bindIp (kind : UInt8) : (BindIp kind).Code := by
  intro first second after later left right isFirst isSecond
  rcases isFirst with ⟨isV4, isFirst⟩ | ⟨isV6, isFirst⟩
  · rcases isSecond with ⟨_, isSecond⟩ | ⟨isV6, _⟩
    · exact (Grammar.code_bytes 4).map v4Of isFirst isSecond
    · exact absurd (isV4.symm.trans isV6) (by decide)
  · rcases isSecond with ⟨isV4, _⟩ | ⟨_, isSecond⟩
    · exact absurd (isV4.symm.trans isV6) (by decide)
    · exact (Grammar.code_bytes 16).map v6Of isFirst isSecond

/-- A domain is read and refused. -/
theorem settled_refuseDomain (line : Line) :
    Settled Grammar.nothing []
      (do
        let len ← readExact 1 HandshakeError.domainLength
        let _domain ← readExact len[0].toNat HandshakeError.domainAddress
        throw HandshakeError.domainUnsupported : Handshake IpAddr) line := by
  have refuses : ∀ (count : Nat) (line : Line),
      Settled Grammar.nothing []
        (do
          let _domain ← readExact count HandshakeError.domainAddress
          throw HandshakeError.domainUnsupported : Handshake IpAddr) line := by
    intro count line
    refine Settled.congr ?_ (Settled.bind (Grammar.code_bytes count)
      (settled_readExact count _ line) (fun _ _ => settled_throw _ _)
      (fun _ => rfl) rfl)
    intro reply ip
    simp [Grammar.andThen, Grammar.nothing]
  refine Settled.congr ?_ (Settled.bind (Grammar.code_bytes 1)
    (settled_readExact 1 _ line) (fun _ _ => refuses _ _) (fun _ => rfl) rfl)
  intro reply ip
  simp [Grammar.andThen, Grammar.nothing]

theorem settled_readBindIp (kind : UInt8) (line : Line) :
    Settled (BindIp kind) [] (readBindIp kind) line := by
  unfold readBindIp
  by_cases isV4 : kind = 0x01
  · rw [if_pos isV4]
    refine Settled.congr ?_ ((settled_readExact 4 _ line).map v4Of)
    intro reply ip
    simp [BindIp, isV4]
  · rw [if_neg isV4]
    by_cases isV6 : kind = 0x04
    · rw [if_pos isV6]
      refine Settled.congr ?_ ((settled_readExact 16 _ line).map v6Of)
      intro reply ip
      simp [BindIp, isV6]
    · have foreign : ∀ reply ip,
          Grammar.nothing reply ip ↔ BindIp kind reply ip := by
        intro reply ip
        simp [Grammar.nothing, BindIp, isV4, isV6]
      rw [if_neg isV6]
      split
      · exact (settled_refuseDomain line).congr foreign
      · exact (settled_throw _ line).congr foreign

/-- The port and the address before it. -/
def BindRest (ip : IpAddr) : Grammar SocketAddr :=
  (Grammar.bytes 2).map fun port => .new ip (fromBeBytes port[0] port[1])

theorem bindReply_iff (reply : List UInt8) (addr : SocketAddr) :
    (Grammar.bytes 4).andThen (fun head =>
        ((((BindIp head[3]).andThen BindRest).when ¬head[1] ≠ 0x00).when
          ¬head[0] ≠ 0x05)) reply addr ↔
      BindReply reply addr := by
  constructor
  · rintro ⟨_, head, _, rfl, rfl, isFive, isZero, _, ip, _, rfl, isIp, port,
      rfl, rfl⟩
    obtain ⟨version, code, reserved, kind, rfl⟩ := exists_four head
    obtain ⟨high, low, rfl⟩ := exists_two port
    have five : version = 0x05 := not_not.mp isFive
    have zero : code = 0x00 := not_not.mp isZero
    subst five zero
    rcases isIp with ⟨isV4, octets, rfl, rfl⟩ | ⟨isV6, octets, rfl, rfl⟩
    · obtain ⟨a, b, c, d, rfl⟩ := exists_four octets
      have one : kind = 0x01 := isV4
      subst one
      exact .v4 reserved a b c d high low
    · have four : kind = 0x04 := isV6
      subst four
      exact .v6 reserved octets high low
  · intro accepted
    cases accepted with
    | v4 reserved a b c d high low =>
        exact ⟨_, #v[0x05, 0x00, reserved, 0x01], _, rfl, rfl,
          not_not.mpr rfl, not_not.mpr rfl, _, _, _, rfl,
          Or.inl ⟨rfl, #v[a, b, c, d], rfl, rfl⟩, #v[high, low], rfl, rfl⟩
    | v6 reserved octets high low =>
        refine ⟨_, #v[0x05, 0x00, reserved, 0x04], octets.toList ++ [high, low],
          ?_, rfl, not_not.mpr rfl, not_not.mpr rfl, _, _, _, rfl,
          Or.inr ⟨rfl, octets, rfl, rfl⟩, #v[high, low], rfl, rfl⟩
        rw [List.append_assoc]
        rfl

theorem settled_readBindAddress (line : Line) :
    Settled BindReply [] readBindAddress line := by
  unfold readBindAddress
  refine Settled.congr bindReply_iff ?_
  refine Settled.bind (Grammar.code_bytes 4) (settled_readExact 4 _ line) ?_
    (fun _ => rfl) rfl
  intro reply after head means reads
  refine Settled.orThrow _ (fun _ => ?_) (fun _ => rfl)
  refine Settled.orThrow _ (fun _ => ?_) (fun _ => rfl)
  refine Settled.bind (code_bindIp _) (settled_readBindIp _ _) ?_
    (fun _ => rfl) rfl
  intro ipReply ipAfter ip ipMeans ipReads
  exact (settled_readExact 2 _ _).map _

/-! ## The whole handshake -/

/-- Accepted replies to the offer, for what is configured. -/
def Negotiation (proxy : ProxyConfig) : Grammar Unit :=
  fun reply _ => MethodReply (credentials proxy).isSome reply

/-- Accepted replies of the proxy, with the relay that they name. -/
def AssociateReply (proxy : ProxyConfig) : Grammar SocketAddr :=
  (Negotiation proxy).andThen fun _ =>
    Grammar.map BindReply fun answer => normalizeRelay answer proxy.addr

theorem code_negotiation (proxy : ProxyConfig) :
    (Negotiation proxy).Code := by
  intro first second after later _ _ isFirst isSecond same
  refine ⟨?_, rfl⟩
  cases isFirst with
  | noAuth =>
      cases isSecond with
      | noAuth => rfl
      | password version configured => simp at same
  | password version configured =>
      cases isSecond with
      | noAuth => simp at same
      | password other otherConfigured =>
          simp only [List.cons_append, List.cons.injEq, true_and] at same
          rw [same.1]

theorem code_bindReply : Grammar.Code BindReply := by
  refine Grammar.Code.congr ?_ bindReply_iff
  apply Grammar.Code.andThen (Grammar.code_bytes 4)
  intro head
  have rest := (code_bindIp head[3]).andThen fun ip =>
    (Grammar.code_bytes 2).map fun port =>
      SocketAddr.new ip (fromBeBytes port[0] port[1])
  exact (rest.when _).when _

theorem code_associateReply (proxy : ProxyConfig) :
    (AssociateReply proxy).Code :=
  (code_negotiation proxy).andThen fun _ => code_bindReply.map _

theorem settled_udpAssociate (proxy : ProxyConfig) (line : Line) :
    ∃ request,
      Settled (AssociateReply proxy)
        (methodOffer proxy ++ credentialPart proxy line.unread ++ request)
        (udpAssociate proxy) line ∧
      ((Negotiation proxy).Heads line.unread → request = associateRequest) ∧
      (¬(Negotiation proxy).Heads line.unread → request = []) := by
  have negotiated := settled_negotiateAuth proxy line
  by_cases heads : (Negotiation proxy).Heads line.unread
  · refine ⟨associateRequest, ?_, fun _ => rfl,
      fun outside => absurd heads outside⟩
    refine Settled.bind (code_negotiation proxy) negotiated ?_
      (fun outside => absurd heads outside) rfl
    intro reply after _ means reads
    exact Settled.say ((settled_readBindAddress _).map _) (List.append_nil _)
  · refine ⟨[], ?_, fun inside => absurd inside heads, fun _ => rfl⟩
    refine Settled.bind (code_negotiation proxy) negotiated ?_
      (fun _ => rfl) rfl
    intro reply after value means reads
    exact absurd ⟨reply, value, means, after, reads.symm⟩ heads

/-! ## Credentials on the wire -/

/-- The reader of RFC 1929: a version, and two texts of 1 to 255 bytes with
their lengths. -/
def parseCredentials : List UInt8 → Option (String × String)
  | 0x01 :: userLen :: rest =>
      match rest.drop userLen.toNat with
      | passLen :: pass =>
          if userLen ≠ 0 ∧ passLen ≠ 0 ∧ pass.length = passLen.toNat then do
            let user ← String.fromUTF8? ⟨(rest.take userLen.toNat).toArray⟩
            let pass ← String.fromUTF8? ⟨pass.toArray⟩
            return (user, pass)
          else none
      | [] => none
  | _ => none

theorem length_utf8 (text : String) : (utf8 text).length = text.utf8ByteSize := by
  rw [utf8, Array.length_toList]
  exact String.size_toByteArray

theorem fromUTF8_utf8 (text : String) :
    String.fromUTF8? ⟨(utf8 text).toArray⟩ = some text := by
  have bytes : (⟨(utf8 text).toArray⟩ : ByteArray) = text.toByteArray := by
    rw [utf8, Array.toArray_toList]
  rw [bytes, String.fromUTF8?, dif_pos text.isValidUTF8]
  rfl

theorem toNat_length {text : String} (short : text.utf8ByteSize ≤ 255) :
    (UInt8.ofNat text.utf8ByteSize).toNat = (utf8 text).length := by
  rw [length_utf8, UInt8.toNat_ofNat']
  omega

theorem parseCredentials_message {user pass : String}
    (userSome : 0 < user.utf8ByteSize) (userShort : user.utf8ByteSize ≤ 255)
    (passSome : 0 < pass.utf8ByteSize) (passShort : pass.utf8ByteSize ≤ 255) :
    parseCredentials (credentialMessage user pass) = some (user, pass) := by
  have userLen := toNat_length userShort
  have passLen := toNat_length passShort
  have nonzero : ∀ {text : String}, 0 < text.utf8ByteSize →
      text.utf8ByteSize ≤ 255 → UInt8.ofNat text.utf8ByteSize ≠ 0 := by
    intro text some short zero
    have none := congrArg UInt8.toNat zero
    rw [toNat_length short, length_utf8] at none
    exact Nat.ne_of_gt some none
  simp only [credentialMessage, parseCredentials, userLen, List.drop_left,
    List.take_left]
  rw [if_pos ⟨nonzero userSome userShort, nonzero passSome passShort,
    passLen.symm⟩, fromUTF8_utf8, fromUTF8_utf8]
  rfl

theorem credentialPart_of_selected {proxy : ProxyConfig} {user pass : String}
    {reply : List UInt8} (configured : credentials proxy = some (user, pass))
    (selected : SelectsPassword reply) :
    credentialPart proxy reply = credentialMessage user pass := by
  obtain ⟨rest, rfl⟩ := selected
  simp [credentialPart, credentialsFor, configured]

theorem credentialPart_of_not_selected {proxy : ProxyConfig}
    {reply : List UInt8}
    (other : ¬(SelectsPassword reply ∧ (credentials proxy).isSome = true)) :
    credentialPart proxy reply = [] := by
  unfold credentialPart
  split
  · rename_i version method rest
    split
    · rename_i five
      unfold credentialsFor
      split
      · rename_i user pass configured
        apply if_neg
        intro two
        apply other
        refine ⟨⟨rest, ?_⟩, ?_⟩
        · rw [five, two]
          rfl
        · rw [configured]
          rfl
      · rfl
    · rfl
  · rfl

/-- The handshake of a client with a valid configuration, with the bytes that
the proxy sends. -/
def associate (cfg : ValidConfig) (reply : List UInt8) :
    Except HandshakeError SocketAddr × Line :=
  (udpAssociate (.fromConfig cfg)).on { unread := reply, written := [] }

theorem isSome_credentials (cfg : ValidConfig) :
    (credentials (.fromConfig cfg)).isSome = cfg.config.username.isSome := by
  unfold credentials ProxyConfig.fromConfig
  rcases cfg.credential_cases with ⟨noUser, noPass⟩ |
      ⟨user, pass, hasUser, hasPass, _⟩
  · rw [noUser, noPass]
    rfl
  · rw [hasUser, hasPass]
    rfl

theorem mem_associateReply_iff (cfg : ValidConfig) (relay : SocketAddr)
    (reply rest : List UInt8) :
    (∃ accepted, AssociateReply (.fromConfig cfg) accepted relay ∧
      reply = accepted ++ rest) ↔
      ∃ method bind answer, reply = method ++ bind ++ rest ∧
        MethodReply cfg.config.username.isSome method ∧
        BindReply bind answer ∧
        relay = normalizeRelay answer cfg.proxySocketAddr := by
  rw [← isSome_credentials]
  constructor
  · rintro ⟨_, ⟨method, _, bind, rfl, isMethod, answer, isBind, rfl⟩, reads⟩
    exact ⟨method, bind, answer, reads, isMethod, isBind, rfl⟩
  · rintro ⟨method, bind, answer, reads, isMethod, isBind, rfl⟩
    exact ⟨_, ⟨method, (), bind, rfl, isMethod, answer, isBind, rfl⟩, reads⟩

/-- An unspecified relay address stands for the proxy. -/
example :
    let proxy : ProxyConfig :=
      { addr := .v4 (.ofOctets 10 0 0 1) 1080
        username := some "user"
        password := some "pass"
        connectTimeoutSecs := defaultConnectTimeoutSecs
        tcpNodelay := true }
    (udpAssociate proxy).on
        { unread := [5, 2, 1, 0, 5, 0, 0, 1, 0, 0, 0, 0, 4, 56, 9]
          written := [] } =
      (.ok (.v4 (.ofOctets 10 0 0 1) 1080),
        { unread := [9]
          written := [5, 2, 0, 2, 1, 4, 117, 115, 101, 114, 4, 112, 97, 115,
            115, 5, 3, 0, 1, 0, 0, 0, 0, 0, 0] }) := by
  decide +kernel

end Cortado.Socks
