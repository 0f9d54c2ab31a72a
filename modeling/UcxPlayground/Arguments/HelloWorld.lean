import UcxPlayground.Arguments.ClientServer
import UcxPlayground.HelloWorld.Options

/-!
# Options of `ucp_hello_world`

`parse_cmd` of `ucp_hello_world.c`.
-/

set_option autoImplicit false

namespace UcxPlayground.Arguments.HelloWorld

open UcxPlayground.HelloWorld

inductive Opt where
  | w
  | f
  | b
  | six
  | e (optarg : String)
  | n (optarg : String)
  | p (port : Int)
  | s (value : Int)
  | m (optarg : String)
  | c
  | h
  | unknown
  deriving DecidableEq, Repr

/-- Why `parse_cmd` fails. -/
inductive CmdError where
  | wrongServerPort (port : BitVec 16)
  | wrongStringSize (size : Int)
  | memoryType
  | usage
  deriving DecidableEq, Repr

/-- `parse_cmd` returns the same for each. -/
def CmdError.ret (_ : CmdError) : Int :=
  ucsErrUnsupported

/-- `peerErrMode` holds when `ucp_err_mode` is `UCP_ERR_HANDLING_MODE_PEER`. -/
structure Variables where
  testMode : TestMode
  peerErrMode : Bool
  failureMode : FailureMode
  serverName : Option String
  aiFamily : AddressFamily
  serverPort : BitVec 16
  testStringLength : Int
  testMemType : MemoryType
  printConfig : Bool
  deriving DecidableEq, Repr

def Variables.initial : Variables where
  testMode := .probe
  peerErrMode := false
  failureMode := .none
  serverName := none
  aiFamily := .inet
  serverPort := 13337
  testStringLength := 16
  testMemType := .host
  printConfig := false

/-- The variable is a `uint16_t`, and is compared after the assignment. -/
def setOption (haveCuda : Bool) (settings : Variables) : Opt → Except CmdError Variables
  | .w => .ok { settings with testMode := .wait }
  | .f => .ok { settings with testMode := .eventfd }
  | .b => .ok { settings with testMode := .probe }
  | .e optarg =>
      if optarg = "recv" then .ok { settings with peerErrMode := true, failureMode := .recv }
      else if optarg = "send" then .ok { settings with peerErrMode := true, failureMode := .send }
      else if optarg = "keepalive" then
        .ok { settings with peerErrMode := true, failureMode := .keepalive }
      else .error .usage
  | .n optarg => .ok { settings with serverName := some optarg }
  | .six => .ok { settings with aiFamily := .inet6 }
  | .p port =>
      if (BitVec.ofInt 16 port).toNat ≤ 0 then .error (.wrongServerPort (BitVec.ofInt 16 port))
      else .ok { settings with serverPort := BitVec.ofInt 16 port }
  | .s value =>
      if value < 0 then .error (.wrongStringSize value)
      else .ok { settings with testStringLength := value }
  | .m optarg =>
      let memType := parseMemType haveCuda settings.testMemType optarg
      if memType = .last then .error .memoryType
      else .ok { settings with testMemType := memType }
  | .c => .ok { settings with printConfig := true }
  | .h => .error .usage
  | .unknown => .error .usage

def parseCmd (haveCuda : Bool) (opts : List Opt) : Except CmdError Variables :=
  parse (setOption haveCuda) .initial opts

/-- The status that `main` compares with `UCS_OK`. -/
def parseCmdRet (haveCuda : Bool) (opts : List Opt) : Int :=
  resultOf CmdError.ret (parseCmd haveCuda opts)

def Opt.memArg? : Opt → Option String
  | .m optarg => some optarg
  | _ => none

end UcxPlayground.Arguments.HelloWorld
