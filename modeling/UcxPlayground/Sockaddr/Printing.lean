import UcxPlayground.Sockaddr.Storage
import UcxPlayground.Text.DottedQuad

/-!
# Printed socket addresses

`sockaddr_get_ip_str` and `sockaddr_get_port_str`. In `ucp_client_server.c` they
return a pointer to the characters that `inet_ntop` or `snprintf` wrote; in
`ucx_helper.hpp` the address is a `std::string`, which `inet_ntop` writes into.
-/

set_option autoImplicit false

namespace UcxPlayground.Sockaddr

open Bytes Arguments Text

/-- `inet_ntop`, by family: what it leaves in the characters of its destination. -/
structure InetNtop where
  inet : BitVec 32 → {size : Nat} → Block Char size → Block Char size
  inet6 : BitVec 128 → {size : Nat} → Block Char size → Block Char size

/-- `inet_pton` accepts every canonical text, and of the address that it made
`inet_ntop` writes this text with a zero behind it, when there is room. -/
structure Inverse (inetPton : InetPton) (inetNtop : InetNtop) : Prop where
  accepts : ∀ text, Canonical text → (inetPton.inet text).isSome
  prints : ∀ text address, Canonical text → inetPton.inet text = some address →
    ∀ size (destination : Block Char size), text.length < size →
      ∃ rest, (inetNtop.inet address destination).toList = text.toList ++ nul :: rest

section Functions

variable (inetNtop : InetNtop) (host : ByteOrder)

def writeText (family : AddressFamily) (address : Nat) {size : Nat}
    (destination : Block Char size) : Block Char size :=
  match family with
  | .inet => inetNtop.inet (BitVec.ofNat 32 address) destination
  | .inet6 => inetNtop.inet6 (BitVec.ofNat 128 address) destination

/-- The `case` that a `switch` on `ss_family` takes, or the default. -/
def ssFamily (sockAddr : Storage) : Option AddressFamily :=
  let value := host.decode (sockAddr.read 0 2)
  if value = (layout .inet).value then some .inet
  else if value = (layout .inet6).value then some .inet6
  else none

/-- The structure that `memcpy` copies for a family. -/
def copied (family : AddressFamily) (sockAddr : Storage) : Block Byte (layout family).size :=
  sockAddr.leading (layout family).size (layout family).stored

def addressOf (family : AddressFamily) (sockAddr : Storage) : Nat :=
  ByteOrder.big.decode
    ((copied family sockAddr).read (layout family).offset (layout family).width)

def portOf (family : AddressFamily) (sockAddr : Storage) : BitVec 16 :=
  ntohs host (BitVec.ofNat 16 (host.decode ((copied family sockAddr).read 2 2)))

/-- `sockaddr_get_ip_str` of `ucx_helper.hpp`: the string keeps the size that it was
made with. -/
def sockaddrGetIpStr (sockAddr : Storage) : String :=
  let ipStr : Block Char 256 := .filled 256 nul
  match ssFamily host sockAddr with
  | some family =>
      String.ofList (writeText inetNtop family (addressOf family sockAddr) ipStr).toList
  | none => "Invalid address family"

/-- `sockaddr_get_port_str` of `ucx_helper.hpp`. -/
def sockaddrGetPortStr (sockAddr : Storage) : String :=
  match ssFamily host sockAddr with
  | some family => (portOf host family sockAddr).toNat.repr
  | none => "Invalid address family"

namespace ClientServer

/-- `sockaddr_get_ip_str` of `ucp_client_server.c`: what the pointer points to. -/
def sockaddrGetIpStr (sockAddr : Storage) {maxSize : Nat} (ipStr : Block Char maxSize) :
    Option String :=
  match ssFamily host sockAddr with
  | some family =>
      cString (writeText inetNtop family (addressOf family sockAddr) ipStr).toList
  | none => some "Invalid address family"

/-- `sockaddr_get_port_str` of `ucp_client_server.c`. -/
def sockaddrGetPortStr (sockAddr : Storage) {maxSize : Nat} (portStr : Block Char maxSize) :
    Option String :=
  match ssFamily host sockAddr with
  | some family => cString (put (portOf host family sockAddr).toNat.repr.toList portStr).toList
  | none => some "Invalid address family"

end ClientServer

end Functions

section Fields

variable {host : ByteOrder} {saddr : Storage} {family : AddressFamily} {address : Nat}
  {port : BitVec 16}

/-- The functions take the `case` of the family that was set. -/
theorem Fields.ssFamily_eq (fields : Fields host saddr family address port) :
    ssFamily host saddr = some family := by
  have value := @ByteOrder.decode_encode host _ _ (layout family).value_lt
  rw [ssFamily, fields.value, value]
  cases family <;> rfl

theorem Fields.addressOf_eq (fields : Fields host saddr family address port)
    (fits : address < 256 ^ (layout family).width) : addressOf family saddr = address := by
  rw [addressOf, copied, Block.read_leading (layout family).inside, fields.netAddress,
    ByteOrder.decode_encode fits]

/-- `ntohs` undoes `htons`. -/
theorem Fields.portOf_eq (fields : Fields host saddr family address port) :
    portOf host family saddr = port := by
  have front : 2 + 2 ≤ (layout family).size := by
    have behind := (layout family).behind
    have inside := (layout family).inside
    omega
  have short : host.decode (ByteOrder.big.encode 2 port.toNat) < 2 ^ 16 :=
    ByteOrder.decode_lt ByteOrder.length_encode
  have fits : port.toNat < 256 ^ 2 := port.isLt
  rw [portOf, copied, Block.read_leading front, fields.netPort, ntohs, BitVec.toNat_ofNat,
    Nat.mod_eq_of_lt short, ByteOrder.fromNetwork_decode ByteOrder.length_encode,
    ByteOrder.decode_encode fits, BitVec.ofNat_toNat, BitVec.setWidth_eq]

theorem sockaddrGetPortStr_eq (fields : Fields host saddr family address port) :
    sockaddrGetPortStr host saddr = port.toNat.repr := by
  rw [sockaddrGetPortStr, fields.ssFamily_eq]
  exact congrArg (fun port : BitVec 16 => port.toNat.repr) fields.portOf_eq

end Fields

/-- Both files read a represented IPv4 address back for `inet_ntop`. -/
theorem writeText_inet {inetNtop : InetNtop} {host : ByteOrder} {saddr : Storage}
    {address : BitVec 32} {port : BitVec 16} {size : Nat} {destination : Block Char size}
    (represents : Represents host saddr (.inet address port)) :
    writeText inetNtop .inet (addressOf .inet saddr) destination =
      inetNtop.inet address destination := by
  have read := Fields.addressOf_eq represents address.isLt
  rw [writeText, read, BitVec.ofNat_toNat, BitVec.setWidth_eq]

section Canonical

variable {inetPton : InetPton} {inetNtop : InetNtop} {text : String}

/-- What `inet_ntop` writes of a structure that holds a canonical text's address. -/
theorem Inverse.writes (inverse : Inverse inetPton inetNtop) (canonical : Canonical text)
    (host : ByteOrder) {saddr : Storage} {port : BitVec 16} {size : Nat}
    (destination : Block Char size) (room : text.length < size)
    (represents : Represents host saddr
      (.inet ((inetPton.inet text).getD 0) port)) :
    ∃ rest, (writeText inetNtop .inet (addressOf .inet saddr) destination).toList =
      text.toList ++ nul :: rest := by
  obtain ⟨address, denotes⟩ := Option.isSome_iff_exists.mp (inverse.accepts text canonical)
  rw [denotes, Option.getD_some] at represents
  rw [writeText_inet represents]
  exact inverse.prints text address canonical denotes size destination room

/-- The string has the text at its start, and a size that is not the text's. -/
theorem sockaddrGetIpStr_padded (inverse : Inverse inetPton inetNtop)
    (canonical : Canonical text) (host : ByteOrder) (port : BitVec 16) :
    (∃ rest, (sockaddrGetIpStr inetNtop host
        (setSockAddr inetPton host (some text) port)).toList = text.toList ++ nul :: rest) ∧
      (sockaddrGetIpStr inetNtop host
        (setSockAddr inetPton host (some text) port)).length = 256 := by
  have represents := setSockAddr_represents inetPton host (some text) port
  have room : text.length < 256 := Nat.lt_trans canonical.length_lt (by decide)
  obtain ⟨rest, written⟩ := inverse.writes canonical host (.filled 256 nul) room represents
  have taken := Fields.ssFamily_eq represents
  unfold sockaddrGetIpStr
  rw [taken]
  constructor
  · exact ⟨rest, by rw [String.toList_ofList, written]⟩
  · rw [String.length_ofList, List.Vector.toList_length]

/-- The address and the port are printed as they were set. -/
def PrintsBack (inetPton : InetPton) (inetNtop : InetNtop) (host : ByteOrder) (text : String)
    (port : BitVec 16) : Prop :=
  sockaddrGetIpStr inetNtop host (setSockAddr inetPton host (some text) port) = text ∧
    sockaddrGetPortStr host (setSockAddr inetPton host (some text) port) = port.toNat.repr

theorem not_printsBack (inverse : Inverse inetPton inetNtop) (canonical : Canonical text)
    (host : ByteOrder) (port : BitVec 16) : ¬ PrintsBack inetPton inetNtop host text port := by
  intro ⟨same, _⟩
  have padded := (sockaddrGetIpStr_padded inverse canonical host port).2
  have short := canonical.length_lt
  rw [same] at padded
  omega

/-- In `ucp_client_server.c` both come back, in arrays that have room for them. -/
theorem ClientServer.prints_back (inverse : Inverse inetPton inetNtop)
    (canonical : Canonical text) (host : ByteOrder) {settings : Arguments.ClientServer.Variables}
    (family : settings.aiFamily = .inet) {maxSize portSize : Nat} (ipStr : Block Char maxSize)
    (portStr : Block Char portSize) (room : 16 ≤ maxSize) (portRoom : 6 ≤ portSize) :
    sockaddrGetIpStr inetNtop host (setSockAddr inetPton host settings (some text)) ipStr =
        some text ∧
      sockaddrGetPortStr host (setSockAddr inetPton host settings (some text)) portStr =
        some settings.serverPort.toNat.repr := by
  have represents := setFamily_inet inetPton host (some text) settings.serverPort
  have cased : setSockAddr inetPton host settings (some text) =
      setFamily inetPton host .inet (some text) settings.serverPort := by
    rw [setSockAddr, family]
  have taken := Fields.ssFamily_eq represents
  have port := Fields.portOf_eq represents
  rw [cased, sockaddrGetIpStr, sockaddrGetPortStr, taken]
  constructor
  · obtain ⟨rest, written⟩ := inverse.writes canonical host ipStr
      (Nat.lt_of_lt_of_le canonical.length_lt room) represents
    simp only [written, cString_append canonical.plain, String.ofList_toList]
  · have short : settings.serverPort.toNat.repr.length ≤ 5 := by
      rw [Nat.length_repr_le_iff (by decide)]
      have small := settings.serverPort.isLt
      omega
    have fits : settings.serverPort.toNat.repr.toList.length < portSize := by
      rw [String.length_toList]
      omega
    simp only [port, cString_put fits (nul_not_mem_repr _), String.ofList_toList]

end Canonical

def dottedQuadPton : InetPton where
  inet := parseQuad
  inet6 _ := none

/-- Without room it writes nothing. -/
def dottedQuadNtop : InetNtop where
  inet address size destination :=
    if (dottedQuad address).length < size then put (dottedQuad address).toList destination
    else destination
  inet6 _ _ destination := destination

theorem dottedQuad_inverse : Inverse dottedQuadPton dottedQuadNtop := by
  constructor
  · intro text canonical
    exact canonical_iff.mp canonical
  · intro text address _ denotes size destination room
    have same : text = dottedQuad address := parseQuad_eq_some_iff.mp denotes
    subst same
    have written := @put_toList size (dottedQuad address).toList destination
      (by rwa [String.length_toList])
    simp only [dottedQuadNtop, if_pos room]
    exact ⟨_, written⟩

/-- No address comes back: of each the string has the text, a zero and what is behind
it, 256 characters in all. Every port comes back. -/
theorem sockaddr_never_prints_back {inetPton : InetPton} {inetNtop : InetNtop} {text : String}
    (inverse : Inverse inetPton inetNtop) (canonical : Canonical text) (host : ByteOrder)
    (port : BitVec 16) :
    ¬ PrintsBack inetPton inetNtop host text port ∧
      (∃ rest, (sockaddrGetIpStr inetNtop host
          (setSockAddr inetPton host (some text) port)).toList = text.toList ++ nul :: rest) ∧
      (sockaddrGetIpStr inetNtop host
        (setSockAddr inetPton host (some text) port)).length = 256 ∧
      sockaddrGetPortStr host (setSockAddr inetPton host (some text) port) = port.toNat.repr := by
  obtain ⟨printed, size⟩ := sockaddrGetIpStr_padded inverse canonical host port
  have represents := setSockAddr_represents inetPton host (some text) port
  exact ⟨not_printsBack inverse canonical host port, printed, size,
    sockaddrGetPortStr_eq represents⟩

theorem loopback_padded :
    (sockaddrGetIpStr dottedQuadNtop .little
        (setSockAddr dottedQuadPton .little (some "127.0.0.1") 13337)).length = 256 ∧
      sockaddrGetPortStr .little
        (setSockAddr dottedQuadPton .little (some "127.0.0.1") 13337) = "13337" :=
  (sockaddr_never_prints_back dottedQuad_inverse (by decide) .little 13337).2.2

theorem loopback_not_printed_back :
    Inverse dottedQuadPton dottedQuadNtop ∧ Canonical "127.0.0.1" ∧
      ¬ PrintsBack dottedQuadPton dottedQuadNtop .little "127.0.0.1" 13337 := by
  have canonical : Canonical "127.0.0.1" := by decide
  exact ⟨dottedQuad_inverse, canonical,
    not_printsBack dottedQuad_inverse canonical .little 13337⟩

end UcxPlayground.Sockaddr
