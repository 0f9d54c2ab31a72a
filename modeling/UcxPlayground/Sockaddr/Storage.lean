import UcxPlayground.Arguments.SocketAddress
import UcxPlayground.Bytes.Block
import UcxPlayground.Bytes.ByteOrder

/-!
# The bytes of a socket address

Both `set_sock_addr`s, as writes to a `struct sockaddr_storage`. A `struct sockaddr_in`
or a `struct sockaddr_in6` begins where it begins, with the layout that they have on
Linux. The family is in the byte order of the host, the port and the address are in
that of the network.
-/

set_option autoImplicit false

namespace UcxPlayground.Sockaddr

open Bytes Arguments

/-- `struct sockaddr_storage`. -/
abbrev Storage :=
  Block Byte 128

/-- The structure of a family: its `sa_family_t`, its size, and where its address is.
The family is at 0 and the port at 2. -/
structure Layout where
  value : Nat
  size : Nat
  offset : Nat
  width : Nat
  value_lt : value < 256 ^ 2
  behind : 4 ≤ offset
  inside : offset + width ≤ size
  stored : size ≤ 128

def layout : AddressFamily → Layout
  | .inet => ⟨2, 16, 4, 4, by decide, by decide, by decide, by decide⟩
  | .inet6 => ⟨10, 28, 8, 16, by decide, by decide, by decide, by decide⟩

def htons (host : ByteOrder) (hostshort : BitVec 16) : BitVec 16 :=
  BitVec.ofNat 16 (host.toNetwork 2 hostshort.toNat)

def ntohs (host : ByteOrder) (netshort : BitVec 16) : BitVec 16 :=
  BitVec.ofNat 16 (host.fromNetwork 2 netshort.toNat)

section SetSockAddr

variable (inetPton : InetPton) (host : ByteOrder)

def denoted (addressStr : String) : AddressFamily → Option Nat
  | .inet => (inetPton.inet addressStr).map BitVec.toNat
  | .inet6 => (inetPton.inet6 addressStr).map BitVec.toNat

/-- The address field of a family. -/
def writeAddress (saddr : Storage) (family : AddressFamily) (address : Nat) : Storage :=
  saddr.write (layout family).offset (ByteOrder.big.encode (layout family).width address) (by
    rw [ByteOrder.length_encode]
    exact Nat.le_trans (layout family).inside (layout family).stored)

/-- A field of two bytes in the byte order of the host. -/
def writeShort (saddr : Storage) (offset value : Nat) (inside : offset + 2 ≤ 128) : Storage :=
  saddr.write offset (host.encode 2 value) (by rwa [ByteOrder.length_encode])

/-- What a `set_sock_addr` leaves in the structure for a family. `INADDR_ANY` and
`in6addr_any` are zero. -/
def setFamily (family : AddressFamily) (addressStr : Option String) (port : BitVec 16) :
    Storage :=
  let saddr : Storage := .filled 128 0
  let saddr :=
    match addressStr with
    | some address =>
        match denoted inetPton address family with
        | some written => writeAddress saddr family written
        | none => saddr
    | none => writeAddress saddr family 0
  let saddr := writeShort host saddr 0 (layout family).value (by decide)
  writeShort host saddr 2 (htons host port).toNat (by decide)

/-- `set_sock_addr` of `ucx_helper.cpp`. -/
def setSockAddr (addressStr : Option String) (port : BitVec 16) : Storage :=
  setFamily inetPton host .inet addressStr port

/-- `set_sock_addr` of `ucp_client_server.c`. -/
def ClientServer.setSockAddr (settings : Arguments.ClientServer.Variables)
    (addressStr : Option String) : Storage :=
  match settings.aiFamily with
  | .inet => setFamily inetPton host .inet addressStr settings.serverPort
  | .inet6 => setFamily inetPton host .inet6 addressStr settings.serverPort

end SetSockAddr

/-- The fields of the family hold the address and the port. -/
structure Fields (host : ByteOrder) (saddr : Storage) (family : AddressFamily) (address : Nat)
    (port : BitVec 16) : Prop where
  value : saddr.read 0 2 = host.encode 2 (layout family).value
  netPort : saddr.read 2 2 = ByteOrder.big.encode 2 port.toNat
  netAddress : saddr.read (layout family).offset (layout family).width =
    ByteOrder.big.encode (layout family).width address

/-- The bytes of a socket address. -/
def Represents (host : ByteOrder) (saddr : Storage) : SockAddr → Prop
  | .inet address port => Fields host saddr .inet address.toNat port
  | .inet6 address port => Fields host saddr .inet6 address.toNat port

section Writes

variable {saddr : Storage} {host : ByteOrder} {family : AddressFamily} {address value : Nat}
  {port : BitVec 16}

theorem encode_htons :
    host.encode 2 (htons host port).toNat = ByteOrder.big.encode 2 port.toNat := by
  have fits : host.toNetwork 2 port.toNat < 2 ^ 16 := ByteOrder.toNetwork_lt
  rw [htons, BitVec.toNat_ofNat, Nat.mod_eq_of_lt fits, ByteOrder.encode_toNetwork]

theorem read_writeAddress :
    (writeAddress saddr family address).read (layout family).offset (layout family).width =
      ByteOrder.big.encode (layout family).width address :=
  Block.read_write ByteOrder.length_encode

theorem read_writeShort {offset : Nat} {inside : offset + 2 ≤ 128} :
    (writeShort host saddr offset value inside).read offset 2 = host.encode 2 value :=
  Block.read_write ByteOrder.length_encode

/-- The address lies behind the family and the port. -/
theorem address_writeShort {offset : Nat} {inside : offset + 2 ≤ 128} (front : offset + 2 ≤ 4) :
    (writeShort host saddr offset value inside).read (layout family).offset
        (layout family).width =
      saddr.read (layout family).offset (layout family).width := by
  apply Block.read_write_behind
  rw [ByteOrder.length_encode]
  exact Nat.le_trans front (layout family).behind

/-- The two fields in front are written last. -/
theorem Fields.of_address
    (written : saddr.read (layout family).offset (layout family).width =
      ByteOrder.big.encode (layout family).width address) :
    Fields host
      (writeShort host (writeShort host saddr 0 (layout family).value (by decide)) 2
        (htons host port).toNat (by decide)) family address port := by
  constructor
  · rw [writeShort, Block.read_write_before (Nat.le_refl 2), read_writeShort]
  · rw [read_writeShort, encode_htons]
  · rw [address_writeShort (Nat.le_refl 4), address_writeShort (by decide), written]

/-- The cleared structure has the address that is all zeros. -/
theorem read_cleared :
    (Block.filled 128 0 : Storage).read (layout family).offset (layout family).width =
      ByteOrder.big.encode (layout family).width 0 := by
  rw [ByteOrder.encode_zero]
  exact Block.read_filled (Nat.le_trans (layout family).inside (layout family).stored)

end Writes

section Refinement

variable (inetPton : InetPton) (host : ByteOrder)

/-- The address is the wildcard where there is no string, and where `inet_pton` rejects
the one that there is. -/
theorem setFamily_fields (family : AddressFamily) (addressStr : Option String)
    (port : BitVec 16) :
    Fields host (setFamily inetPton host family addressStr port) family
      ((addressStr.bind fun address => denoted inetPton address family).getD 0) port := by
  apply Fields.of_address
  cases addressStr with
  | none => exact read_writeAddress
  | some address =>
      cases given : denoted inetPton address family with
      | none =>
          simp only [given, Option.bind_some, Option.getD_none]
          exact read_cleared
      | some written =>
          simp only [given, Option.bind_some, Option.getD_some]
          exact read_writeAddress

theorem getD_map_toNat {width : Nat} (addressStr : Option String)
    (denotes : String → Option (BitVec width)) :
    (addressStr.bind fun address => (denotes address).map BitVec.toNat).getD 0 =
      ((addressStr.bind denotes).getD 0).toNat := by
  cases addressStr with
  | none => simp
  | some address => cases given : denotes address <;> simp [given]

theorem setFamily_inet (addressStr : Option String) (port : BitVec 16) :
    Represents host (setFamily inetPton host .inet addressStr port)
      (.inet ((addressStr.bind inetPton.inet).getD 0) port) := by
  have fields := setFamily_fields inetPton host .inet addressStr port
  simp only [denoted] at fields
  rwa [getD_map_toNat] at fields

theorem setFamily_inet6 (addressStr : Option String) (port : BitVec 16) :
    Represents host (setFamily inetPton host .inet6 addressStr port)
      (.inet6 ((addressStr.bind inetPton.inet6).getD 0) port) := by
  have fields := setFamily_fields inetPton host .inet6 addressStr port
  simp only [denoted] at fields
  rwa [getD_map_toNat] at fields

theorem setSockAddr_represents (addressStr : Option String) (port : BitVec 16) :
    Represents host (setSockAddr inetPton host addressStr port)
      (Arguments.setSockAddr inetPton addressStr port) := by
  have written := setFamily_inet inetPton host addressStr port
  cases addressStr <;> exact written

theorem ClientServer.setSockAddr_represents (settings : Arguments.ClientServer.Variables)
    (addressStr : Option String) :
    Represents host (setSockAddr inetPton host settings addressStr)
      (Arguments.ClientServer.setSockAddr inetPton settings addressStr) := by
  unfold setSockAddr Arguments.ClientServer.setSockAddr
  cases settings.aiFamily with
  | inet =>
      have written := setFamily_inet inetPton host addressStr settings.serverPort
      cases addressStr <;> exact written
  | inet6 =>
      have written := setFamily_inet6 inetPton host addressStr settings.serverPort
      cases addressStr <;> exact written

end Refinement

end UcxPlayground.Sockaddr
