import UcxPlayground.Arguments.SocketAddress
import UcxPlayground.HelloWorld.Connect

/-!
# The addresses of `ucp_hello_world`

`ucp_hello_world` leaves the name to `getaddrinfo`, which `connect_common` asks for the
port of the `uint16_t`, printed. One of the addresses found is connected to or listened on.
-/

set_option autoImplicit false

namespace UcxPlayground.Arguments

namespace HelloWorld

open UcxPlayground.HelloWorld

/-- What `connect_common` asks `getaddrinfo` for; `service` is the number that it
prints. -/
structure Lookup where
  node : Option String
  service : Nat
  aiFamily : AddressFamily
  deriving DecidableEq, Repr

def mainLookup (settings : Variables) : Lookup where
  node := settings.serverName
  service := settings.serverPort.toNat
  aiFamily := settings.aiFamily

def Opt.n? : Opt → Option String
  | .n optarg => some optarg
  | _ => none

def Opt.p? : Opt → Option Int
  | .p port => some port
  | _ => none

def Opt.six? : Opt → Option AddressFamily
  | .six => some .inet6
  | _ => none

def familyArg (opts : List Opt) : AddressFamily :=
  (lastOf Opt.six? opts).getD .inet

/-- What is found for a name, by family; `none` is a failure, and a server gives no name. A
string that denotes an address is found as this one only, and no name as the wildcard. -/
structure Resolver (inetPton : InetPton) where
  inet : Option String → Option (List (BitVec 32))
  inet6 : Option String → Option (List (BitVec 128))
  inet_denoted : ∀ name, ∀ found ∈ inet name, ∀ address ∈ found,
    ∀ denoted ∈ name.elim (some 0) inetPton.inet, address = denoted
  inet6_denoted : ∀ name, ∀ found ∈ inet6 name, ∀ address ∈ found,
    ∀ denoted ∈ name.elim (some 0) inetPton.inet6, address = denoted

section Resolver

variable {inetPton : InetPton} (resolver : Resolver inetPton)

/-- `getaddrinfo`, which puts the port of the service into every address of the name. -/
def Resolver.getaddrinfo (lookup : Lookup) : Option (List SockAddr) :=
  match lookup.aiFamily with
  | .inet => (resolver.inet lookup.node).map fun found =>
      found.map fun address => .inet address (BitVec.ofNat 16 lookup.service)
  | .inet6 => (resolver.inet6 lookup.node).map fun found =>
      found.map fun address => .inet6 address (BitVec.ofNat 16 lookup.service)

/-- The call of `connect_common` in `main`; `calls` says how the socket calls for each
address of the list are answered. -/
def mainConnect (settings : Variables) (calls : Nat → AddressCalls) : Option Opened :=
  (connectCommon settings.serverName.isSome
    ((resolver.getaddrinfo (mainLookup settings)).map fun list =>
      list.mapIdx fun index _ => calls index)).1

/-- The address that the descriptor was made for. -/
def mainAddr (settings : Variables) (sockfd : Opened) : Option SockAddr :=
  (resolver.getaddrinfo (mainLookup settings)).bind fun list =>
    sockfd.index?.bind fun index => list[index]?

/-- An address that `connect_common` may go through. -/
def Listed (settings : Variables) (sockAddr : SockAddr) : Prop :=
  ∃ list ∈ resolver.getaddrinfo (mainLookup settings), sockAddr ∈ list

/-- The address is one of the name in the family. -/
def Names (family : AddressFamily) (name : Option String) : SockAddr → Prop
  | .inet address _ => family = .inet ∧ ∃ found ∈ resolver.inet name, address ∈ found
  | .inet6 address _ => family = .inet6 ∧ ∃ found ∈ resolver.inet6 name, address ∈ found

/-- And the port is the one that was given, if one was. -/
def Resolved (family : AddressFamily) (name : Option String) (port : Option Int)
    (sockAddr : SockAddr) : Prop :=
  (∀ given ∈ port, (sockAddr.port.toNat : Int) = given) ∧ Names resolver family name sockAddr

end Resolver

/-- The lookup is for the name, the port and the family that were given. -/
def Lookup.Faithful (family : AddressFamily) (name : Option String) (port : Option Int)
    (lookup : Lookup) : Prop :=
  lookup.node = name ∧ lookup.aiFamily = family ∧
    ∀ given ∈ port, (lookup.service : Int) = given

section Names

variable {inetPton : InetPton} {resolver : Resolver inetPton} {settings : Variables}
  {sockAddr : SockAddr} {family : AddressFamily} {name : Option String} {port : Option Int}

/-- What is found is an address of the name, with the port of the variable. -/
theorem Listed.inv (listed : Listed resolver settings sockAddr) :
    (∃ found address, settings.aiFamily = .inet ∧ resolver.inet settings.serverName = some found ∧
      address ∈ found ∧ sockAddr = .inet address settings.serverPort) ∨
    ∃ found address, settings.aiFamily = .inet6 ∧ resolver.inet6 settings.serverName = some found ∧
      address ∈ found ∧ sockAddr = .inet6 address settings.serverPort := by
  obtain ⟨list, found, member⟩ := listed
  have whole : BitVec.ofNat 16 (mainLookup settings).service = settings.serverPort := by
    simp [mainLookup]
  unfold Resolver.getaddrinfo at found
  rw [whole] at found
  split at found
  next family =>
    obtain ⟨addresses, known, rfl⟩ := Option.map_eq_some_iff.mp found
    obtain ⟨address, given, rfl⟩ := List.mem_map.mp member
    exact .inl ⟨addresses, address, family, known, given, rfl⟩
  next family =>
    obtain ⟨addresses, known, rfl⟩ := Option.map_eq_some_iff.mp found
    obtain ⟨address, given, rfl⟩ := List.mem_map.mp member
    exact .inr ⟨addresses, address, family, known, given, rfl⟩

theorem Listed.serverPort (listed : Listed resolver settings sockAddr) :
    sockAddr.port = settings.serverPort := by
  obtain ⟨_, _, _, _, _, rfl⟩ | ⟨_, _, _, _, _, rfl⟩ := listed.inv
  · rfl
  · rfl

theorem Listed.names (listed : Listed resolver settings sockAddr) :
    Names resolver settings.aiFamily settings.serverName sockAddr := by
  obtain ⟨found, _, family, known, given, rfl⟩ | ⟨found, _, family, known, given, rfl⟩ :=
    listed.inv
  · exact ⟨family, found, known, given⟩
  · exact ⟨family, found, known, given⟩

theorem denoted_of_denotes (denotes : ∀ text ∈ name, Denotes inetPton family text) :
    match family with
    | .inet => (name.elim (some 0) inetPton.inet).isSome
    | .inet6 => (name.elim (some 0) inetPton.inet6).isSome := by
  cases name with
  | none => cases family <;> rfl
  | some text => cases family <;> exact denotes text rfl

/-- No other address is found for a string that denotes one. -/
theorem Names.faithful_iff (names : Names resolver family name sockAddr)
    (denotes : ∀ text ∈ name, Denotes inetPton family text) :
    Faithful inetPton family name port sockAddr ↔ Resolved resolver family name port sockAddr := by
  refine and_congr_right fun _ => ?_
  have denoted := denoted_of_denotes denotes
  cases sockAddr with
  | inet address port =>
      obtain ⟨rfl, found, known, member⟩ := names
      obtain ⟨exact', denoted⟩ := Option.isSome_iff_exists.mp denoted
      have same := resolver.inet_denoted name found known address member exact' denoted
      exact iff_of_true ⟨rfl, by rw [denoted, same]⟩ ⟨rfl, found, known, member⟩
  | inet6 address port =>
      obtain ⟨rfl, found, known, member⟩ := names
      obtain ⟨exact', denoted⟩ := Option.isSome_iff_exists.mp denoted
      have same := resolver.inet6_denoted name found known address member exact' denoted
      exact iff_of_true ⟨rfl, by rw [denoted, same]⟩ ⟨rfl, found, known, member⟩

/-- A descriptor was made for one of the addresses that were found. -/
theorem mainConnect_listed {calls : Nat → AddressCalls} {sockfd : Opened}
    (connected : mainConnect resolver settings calls = some sockfd) :
    ∃ sockAddr, mainAddr resolver settings sockfd = some sockAddr ∧
      Listed resolver settings sockAddr := by
  unfold mainConnect at connected
  cases found : resolver.getaddrinfo (mainLookup settings) with
  | none => simp [found, connectCommon] at connected
  | some list =>
      rw [found, Option.map_some] at connected
      obtain ⟨index, position, bound⟩ := connectCommon_index connected
      rw [List.length_mapIdx] at bound
      refine ⟨list[index], ?_, list, found, List.getElem_mem bound⟩
      simp [mainAddr, found, position, bound]

end Names

variable {haveCuda : Bool} {opts : List Opt} {settings : Variables}

theorem setOption_lookup {opt : Opt} {next : Variables}
    (set : setOption haveCuda settings opt = .ok next) :
    next.serverName = (opt.n?.map some).getD settings.serverName ∧
      next.serverPort = (opt.p?.map (BitVec.ofInt 16)).getD settings.serverPort ∧
      next.aiFamily = (opt.six?.map id).getD settings.aiFamily := by
  revert set
  fun_cases setOption haveCuda settings opt <;> intro set <;> cases set <;> exact ⟨rfl, rfl, rfl⟩

theorem parseCmd_serverName (parsed : parseCmd haveCuda opts = .ok settings) :
    settings.serverName = lastOf Opt.n? opts := by
  rw [parse_last Variables.serverName Opt.n? some
    (fun _ _ _ set => (setOption_lookup set).1) parsed]
  cases lastOf Opt.n? opts <;> rfl

theorem parseCmd_serverPort (parsed : parseCmd haveCuda opts = .ok settings) :
    settings.serverPort = ((lastOf Opt.p? opts).map (BitVec.ofInt 16)).getD 13337 :=
  parse_last Variables.serverPort Opt.p? (BitVec.ofInt 16)
    (fun _ _ _ set => (setOption_lookup set).2.1) parsed

theorem parseCmd_aiFamily (parsed : parseCmd haveCuda opts = .ok settings) :
    settings.aiFamily = familyArg opts := by
  rw [parse_last Variables.aiFamily Opt.six? id
    (fun _ _ _ set => (setOption_lookup set).2.2) parsed]
  cases six : lastOf Opt.six? opts <;> simp [familyArg, six, Variables.initial]

/-- The port of the variable is exact for the numbers of ports. -/
theorem serverPort_exact_iff (parsed : parseCmd haveCuda opts = .ok settings) :
    (∀ given ∈ lastOf Opt.p? opts, (settings.serverPort.toNat : Int) = given) ↔
      ∀ port ∈ lastOf Opt.p? opts, IsPort port := by
  rw [parseCmd_serverPort parsed]
  cases lastOf Opt.p? opts with
  | none => simp
  | some port => simp only [Option.mem_some_iff, forall_eq', Option.map_some, Option.getD_some,
      ofInt_port_iff]

theorem mainLookup_faithful_iff (parsed : parseCmd haveCuda opts = .ok settings) :
    (mainLookup settings).Faithful (familyArg opts) (lastOf Opt.n? opts) (lastOf Opt.p? opts) ↔
      ∀ port ∈ lastOf Opt.p? opts, IsPort port := by
  refine (and_iff_right (parseCmd_serverName parsed)).trans ?_
  refine (and_iff_right (parseCmd_aiFamily parsed)).trans ?_
  exact serverPort_exact_iff parsed

theorem listed_resolved_iff {inetPton : InetPton} {resolver : Resolver inetPton}
    {sockAddr : SockAddr} (parsed : parseCmd haveCuda opts = .ok settings)
    (listed : Listed resolver settings sockAddr) :
    Resolved resolver (familyArg opts) (lastOf Opt.n? opts) (lastOf Opt.p? opts) sockAddr ↔
      ∀ port ∈ lastOf Opt.p? opts, IsPort port := by
  have names := listed.names
  rw [parseCmd_aiFamily parsed, parseCmd_serverName parsed] at names
  refine (and_iff_left names).trans ?_
  rw [listed.serverPort]
  exact serverPort_exact_iff parsed

end HelloWorld

/-- When the programs get the address and the port right: the C++ programs for
numbers of ports and strings that `inet_pton` accepts, `ucp_client_server` for
such strings, and `ucp_hello_world` for numbers of ports, at every address that it
listens on or connects to. Port 0 stands for a free port that the system chooses. -/
theorem address_port_faithful_iff (inetPton : InetPton) (haveCuda : Bool) :
    (∀ address port,
      Faithful inetPton .inet (some address) (some port)
          (Server.listenAddr inetPton address port) ↔
        IsPort port ∧ Denotes inetPton .inet address) ∧
    (∀ address port,
      Faithful inetPton .inet (some address) (some port)
          (Client.connectAddr inetPton address port) ↔
        IsPort port ∧ Denotes inetPton .inet address) ∧
    (∀ opts settings, ClientServer.parseCmd haveCuda opts = .ok settings →
      (Faithful inetPton (ClientServer.familyArg opts) (ClientServer.addressArg opts)
          (lastOf ClientServer.Opt.p? opts) (ClientServer.mainAddr inetPton settings) ↔
        ∀ address ∈ ClientServer.addressArg opts,
          Denotes inetPton (ClientServer.familyArg opts) address)) ∧
    ∀ opts settings, HelloWorld.parseCmd haveCuda opts = .ok settings →
      ((HelloWorld.mainLookup settings).Faithful (HelloWorld.familyArg opts)
          (lastOf HelloWorld.Opt.n? opts) (lastOf HelloWorld.Opt.p? opts) ↔
        ∀ port ∈ lastOf HelloWorld.Opt.p? opts, IsPort port) ∧
      ∀ resolver : HelloWorld.Resolver inetPton,
        (∀ calls sockfd, HelloWorld.mainConnect resolver settings calls = some sockfd →
          ∃ sockAddr, HelloWorld.mainAddr resolver settings sockfd = some sockAddr ∧
            HelloWorld.Listed resolver settings sockAddr) ∧
        ∀ sockAddr, HelloWorld.Listed resolver settings sockAddr →
          (HelloWorld.Resolved resolver (HelloWorld.familyArg opts)
              (lastOf HelloWorld.Opt.n? opts) (lastOf HelloWorld.Opt.p? opts) sockAddr ↔
            ∀ port ∈ lastOf HelloWorld.Opt.p? opts, IsPort port) ∧
          ((∀ name ∈ lastOf HelloWorld.Opt.n? opts,
              Denotes inetPton (HelloWorld.familyArg opts) name) →
            (Faithful inetPton (HelloWorld.familyArg opts) (lastOf HelloWorld.Opt.n? opts)
                (lastOf HelloWorld.Opt.p? opts) sockAddr ↔
              ∀ port ∈ lastOf HelloWorld.Opt.p? opts, IsPort port)) := by
  refine ⟨setSockAddr_faithful_iff inetPton, setSockAddr_faithful_iff inetPton,
    fun _ _ parsed => ClientServer.mainAddr_faithful_iff inetPton parsed,
    fun opts settings parsed => ⟨HelloWorld.mainLookup_faithful_iff parsed, fun resolver =>
      ⟨fun _ _ connected => HelloWorld.mainConnect_listed connected, fun sockAddr listed => ?_⟩⟩⟩
  have resolved := HelloWorld.listed_resolved_iff parsed listed
  have names := listed.names
  rw [HelloWorld.parseCmd_aiFamily parsed, HelloWorld.parseCmd_serverName parsed] at names
  exact ⟨resolved, fun denotes => (names.faithful_iff denotes).trans resolved⟩

/-- An `inet_pton` that knows one string. -/
def loopbackOnly : InetPton where
  inet address := if address = "127.0.0.1" then some 0x7f000001 else none
  inet6 _ := none

/-- A system that finds nothing but the strings of addresses. -/
def numericOnly (inetPton : InetPton) : HelloWorld.Resolver inetPton where
  inet name := (name.elim (some 0) inetPton.inet).map fun address => [address]
  inet6 name := (name.elim (some 0) inetPton.inet6).map fun address => [address]
  inet_denoted := by
    intro name found known address member denoted denotes
    rw [denotes, Option.map_some] at known
    cases known
    exact List.mem_singleton.mp member
  inet6_denoted := by
    intro name found known address member denoted denotes
    rw [denotes, Option.map_some] at known
    cases known
    exact List.mem_singleton.mp member

theorem loopback_faithful :
    Faithful loopbackOnly .inet (some "127.0.0.1") (some 13337)
        (Server.listenAddr loopbackOnly "127.0.0.1" 13337) ∧
      (∃ settings, ClientServer.parseCmd false [.p 13337, .l "127.0.0.1"] = .ok settings ∧
        Faithful loopbackOnly .inet (some "127.0.0.1") (some 13337)
          (ClientServer.mainAddr loopbackOnly settings)) ∧
      ∃ settings, HelloWorld.parseCmd false [.p 13337, .n "127.0.0.1"] = .ok settings ∧
        HelloWorld.Listed (numericOnly loopbackOnly) settings (.inet 0x7f000001 13337) ∧
        Faithful loopbackOnly .inet (some "127.0.0.1") (some 13337)
          (.inet 0x7f000001 13337) := by
  obtain ⟨server, _, clientServer, helloWorld⟩ := address_port_faithful_iff loopbackOnly false
  have listed : HelloWorld.Listed (numericOnly loopbackOnly)
      { HelloWorld.Variables.initial with serverName := some "127.0.0.1" }
      (.inet 0x7f000001 13337) := ⟨_, rfl, List.mem_singleton.mpr rfl⟩
  obtain ⟨_, resolved⟩ := helloWorld [.p 13337, .n "127.0.0.1"] _ rfl
  obtain ⟨_, faithful⟩ := (resolved (numericOnly loopbackOnly)).2 _ listed
  exact ⟨(server "127.0.0.1" 13337).mpr (by decide),
    ⟨_, rfl, (clientServer [.p 13337, .l "127.0.0.1"] _ rfl).mpr (by decide)⟩,
    _, rfl, listed, (faithful (by decide)).mpr (by decide)⟩

/-- A server on port 70000 of no address listens on port 4464 of every address, a
client connects there, and `ucp_hello_world` takes the same port. -/
theorem port_reduced_address_wildcard :
    Server.listenAddr loopbackOnly "localhost" 70000 = .inet 0 4464 ∧
      ¬ Faithful loopbackOnly .inet (some "localhost") (some 70000)
        (Server.listenAddr loopbackOnly "localhost" 70000) ∧
      ¬ Faithful loopbackOnly .inet (some "127.0.0.1") (some 70000)
        (Client.connectAddr loopbackOnly "127.0.0.1" 70000) ∧
      (∃ settings, ClientServer.parseCmd false [.l "localhost"] = .ok settings ∧
        ¬ Faithful loopbackOnly .inet (some "localhost") none
          (ClientServer.mainAddr loopbackOnly settings)) ∧
      ∃ settings, HelloWorld.parseCmd false [.p 70000] = .ok settings ∧
        HelloWorld.Listed (numericOnly loopbackOnly) settings (.inet 0 4464) ∧
        ¬ HelloWorld.Resolved (numericOnly loopbackOnly) .inet none (some 70000)
          (.inet 0 4464) := by
  refine ⟨by decide, fun faithful => ?_, fun faithful => ?_, ⟨_, rfl, fun faithful => ?_⟩,
    _, rfl, ⟨_, rfl, List.mem_singleton.mpr rfl⟩, fun resolved => ?_⟩
  · have inRange := ((setSockAddr_faithful_iff _ _ _).mp faithful).1
    exact absurd inRange (by decide)
  · have inRange := ((setSockAddr_faithful_iff _ _ _).mp faithful).1
    exact absurd inRange (by decide)
  · have parsed : ClientServer.parseCmd false [.l "localhost"] = .ok _ := rfl
    have denoted := (ClientServer.mainAddr_faithful_iff _ parsed).mp faithful
    exact absurd (denoted "localhost" rfl) (by decide)
  · exact absurd (resolved.1 70000 rfl) (by decide)

end UcxPlayground.Arguments
