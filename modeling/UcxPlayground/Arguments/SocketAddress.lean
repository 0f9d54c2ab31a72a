import UcxPlayground.Arguments.HelloWorld

/-!
# Ports and address strings

How the C++ programs and `ucp_client_server` make a socket address of their arguments:
both `set_sock_addr`s clear the structure first and do not look at the result of
`inet_pton`, and the number of the port goes through a `uint16_t`.
-/

set_option autoImplicit false

namespace UcxPlayground.Arguments

inductive SockAddr where
  | inet (address : BitVec 32) (port : BitVec 16)
  | inet6 (address : BitVec 128) (port : BitVec 16)
  deriving DecidableEq, Repr

def SockAddr.port : SockAddr → BitVec 16
  | .inet _ port => port
  | .inet6 _ port => port

/-- `inet_pton`, by family; `none` is a string that it rejects, and then it
writes nothing. -/
structure InetPton where
  inet : String → Option (BitVec 32)
  inet6 : String → Option (BitVec 128)

variable (inetPton : InetPton)

/-- `set_sock_addr` of `ucx_helper.cpp`. -/
def setSockAddr (addressStr : Option String) (port : BitVec 16) : SockAddr :=
  match addressStr with
  | some address => .inet ((inetPton.inet address).getD 0) port
  | none => .inet 0 port

/-- The address that `main` of `server.cpp` listens on. The constructor of
`UcpListener` takes the port as a `uint16_t`. -/
def Server.listenAddr (serverIp : String) (serverPort : Int) : SockAddr :=
  setSockAddr inetPton (some serverIp) (BitVec.ofInt 16 serverPort)

/-- The address that `main` of `client.cpp` connects to. The constructor of
`UcpEndPoint` takes the port as an `int`. -/
def Client.connectAddr (serverIp : String) (serverPort : Int) : SockAddr :=
  setSockAddr inetPton (some serverIp) (BitVec.ofInt 16 serverPort)

namespace ClientServer

/-- `set_sock_addr` of `ucp_client_server.c`. -/
def setSockAddr (settings : Variables) (addressStr : Option String) : SockAddr :=
  match settings.aiFamily, addressStr with
  | .inet, some address => .inet ((inetPton.inet address).getD 0) settings.serverPort
  | .inet, none => .inet 0 settings.serverPort
  | .inet6, some address => .inet6 ((inetPton.inet6 address).getD 0) settings.serverPort
  | .inet6, none => .inet6 0 settings.serverPort

theorem setSockAddr_port (settings : Variables) (addressStr : Option String) :
    (setSockAddr inetPton settings addressStr).port = settings.serverPort := by
  unfold setSockAddr
  split <;> rfl

/-- A client connects to the server's address, a server listens on its own. -/
def mainAddr (settings : Variables) : SockAddr :=
  match settings.serverAddr with
  | some serverAddr => setSockAddr inetPton settings (some serverAddr)
  | none => setSockAddr inetPton settings settings.listenAddr

def Opt.a? : Opt → Option String
  | .a optarg => some optarg
  | _ => none

def Opt.l? : Opt → Option String
  | .l optarg => some optarg
  | _ => none

def Opt.p? : Opt → Option Int
  | .p port => some port
  | _ => none

def Opt.six? : Opt → Option AddressFamily
  | .six => some .inet6
  | _ => none

def addressArg (opts : List Opt) : Option String :=
  match lastOf Opt.a? opts with
  | some address => some address
  | none => lastOf Opt.l? opts

def familyArg (opts : List Opt) : AddressFamily :=
  (lastOf Opt.six? opts).getD .inet

end ClientServer

/-- The string denotes an address of the family. -/
def Denotes (family : AddressFamily) (addressStr : String) : Prop :=
  match family with
  | .inet => (inetPton.inet addressStr).isSome
  | .inet6 => (inetPton.inet6 addressStr).isSome

instance (family : AddressFamily) (addressStr : String) :
    Decidable (Denotes inetPton family addressStr) := by
  unfold Denotes
  split <;> infer_instance

/-- The address is the one that the string denotes, or the wildcard where there
is no string, and the port is the one that was given, if one was. -/
def Faithful (family : AddressFamily) (addressStr : Option String) (port : Option Int)
    (sockAddr : SockAddr) : Prop :=
  (∀ given ∈ port, (sockAddr.port.toNat : Int) = given) ∧
    match sockAddr with
    | .inet address _ =>
        family = .inet ∧ some address = addressStr.elim (some 0) inetPton.inet
    | .inet6 address _ =>
        family = .inet6 ∧ some address = addressStr.elim (some 0) inetPton.inet6

def IsPort (port : Int) : Prop :=
  0 ≤ port ∧ port < 65536

instance (port : Int) : Decidable (IsPort port) :=
  inferInstanceAs (Decidable (_ ∧ _))

theorem ofInt_port_iff {port : Int} :
    ((BitVec.ofInt 16 port).toNat : Int) = port ↔ IsPort port := by
  rw [BitVec.toNat_ofInt, IsPort]
  omega

theorem getD_denoted_iff {Address : Type} {denoted : Option Address} {other : Address} :
    some (denoted.getD other) = denoted ↔ denoted.isSome = true := by
  cases denoted <;> simp

theorem given_port_iff {port : Int} :
    (∀ given ∈ some port, ((BitVec.ofInt 16 port).toNat : Int) = given) ↔ IsPort port := by
  simp only [Option.mem_some_iff, forall_eq', ofInt_port_iff]

/-- Both C++ programs. -/
theorem setSockAddr_faithful_iff (address : String) (port : Int) :
    Faithful inetPton .inet (some address) (some port)
        (setSockAddr inetPton (some address) (BitVec.ofInt 16 port)) ↔
      IsPort port ∧ Denotes inetPton .inet address := by
  refine and_congr given_port_iff ?_
  show _ ∧ some ((inetPton.inet address).getD 0) = inetPton.inet address ↔ _
  rw [getD_denoted_iff]
  exact and_iff_right rfl

namespace ClientServer

variable {haveCuda : Bool} {opts : List Opt} {settings : Variables}

/-- What an accepted option leaves in the variables that make the address. -/
theorem setOption_address {opt : Opt} {next : Variables}
    (set : setOption haveCuda settings opt = .ok next) :
    next.serverAddr = (opt.a?.map some).getD settings.serverAddr ∧
      next.listenAddr = (opt.l?.map some).getD settings.listenAddr ∧
      next.serverPort = (opt.p?.map (BitVec.ofInt 16)).getD settings.serverPort ∧
      next.aiFamily = (opt.six?.map id).getD settings.aiFamily := by
  revert set
  fun_cases setOption haveCuda settings opt <;> intro set <;> cases set <;>
    exact ⟨rfl, rfl, rfl, rfl⟩

theorem setOption_port {port : Int} (accepts : Accepts (setOption haveCuda) settings (.p port)) :
    IsPort port := by
  obtain ⟨next, set⟩ := accepts
  simp only [setOption] at set
  split at set
  · cases set
  · unfold IsPort
    omega

theorem parseCmd_serverAddr (parsed : parseCmd haveCuda opts = .ok settings) :
    settings.serverAddr = lastOf Opt.a? opts := by
  rw [parse_last Variables.serverAddr Opt.a? some
    (fun _ _ _ set => (setOption_address set).1) parsed]
  cases lastOf Opt.a? opts <;> rfl

theorem parseCmd_listenAddr (parsed : parseCmd haveCuda opts = .ok settings) :
    settings.listenAddr = lastOf Opt.l? opts := by
  rw [parse_last Variables.listenAddr Opt.l? some
    (fun _ _ _ set => (setOption_address set).2.1) parsed]
  cases lastOf Opt.l? opts <;> rfl

theorem parseCmd_serverPort (parsed : parseCmd haveCuda opts = .ok settings) :
    settings.serverPort = ((lastOf Opt.p? opts).map (BitVec.ofInt 16)).getD 13337 :=
  parse_last Variables.serverPort Opt.p? (BitVec.ofInt 16)
    (fun _ _ _ set => (setOption_address set).2.2.1) parsed

theorem parseCmd_aiFamily (parsed : parseCmd haveCuda opts = .ok settings) :
    settings.aiFamily = familyArg opts := by
  rw [parse_last Variables.aiFamily Opt.six? id
    (fun _ _ _ set => (setOption_address set).2.2.2) parsed]
  cases six : lastOf Opt.six? opts <;> simp [familyArg, six, Variables.initial]

/-- Every port that is accepted arrives. -/
theorem parseCmd_port_exact (parsed : parseCmd haveCuda opts = .ok settings) :
    ∀ given ∈ lastOf Opt.p? opts, (settings.serverPort.toNat : Int) = given := by
  intro given last
  obtain ⟨opt, member, value⟩ := mem_of_lastOf last
  have last : lastOf Opt.p? opts = some given := last
  rw [parseCmd_serverPort parsed, last, Option.map_some, Option.getD_some, ofInt_port_iff]
  obtain ⟨before, accepts⟩ := parse_accepts parsed opt member
  cases opt with
  | p port =>
      cases value
      exact setOption_port accepts
  | _ => cases value

theorem mainAddr_eq (parsed : parseCmd haveCuda opts = .ok settings) :
    mainAddr inetPton settings = setSockAddr inetPton settings (addressArg opts) := by
  rw [mainAddr, addressArg, parseCmd_serverAddr parsed, parseCmd_listenAddr parsed]
  cases lastOf Opt.a? opts <;> rfl

theorem mainAddr_faithful_iff (parsed : parseCmd haveCuda opts = .ok settings) :
    Faithful inetPton (familyArg opts) (addressArg opts) (lastOf Opt.p? opts)
        (mainAddr inetPton settings) ↔
      ∀ address ∈ addressArg opts, Denotes inetPton (familyArg opts) address := by
  rw [mainAddr_eq inetPton parsed]
  refine (and_iff_right ?_).trans ?_
  · rw [setSockAddr_port]
    exact parseCmd_port_exact parsed
  · have assigned := parseCmd_aiFamily parsed
    cases family : familyArg opts <;> rw [family] at assigned <;>
      cases address : addressArg opts <;>
      simp [setSockAddr, assigned, Denotes, getD_denoted_iff]

end ClientServer

end UcxPlayground.Arguments
