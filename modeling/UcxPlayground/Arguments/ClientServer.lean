import UcxPlayground.Arguments.MemoryType
import UcxPlayground.ClientServer.Model

/-!
# Options of `ucp_client_server`

`parse_cmd` of `ucp_client_server.c`. `getopt` has split the command line, and
`atoi` and `atol` have read the numbers in it.
-/

set_option autoImplicit false

namespace UcxPlayground.Arguments

/-- `sa_family_t`, as far as the C programs set it. -/
inductive AddressFamily where
  | inet
  | inet6
  deriving DecidableEq, Repr

namespace ClientServer

open UcxPlayground.ClientServer

inductive Opt where
  | a (optarg : String)
  | c (optarg : String)
  | l (optarg : String)
  | p (port : Int)
  | six
  | i (value : Int)
  | s (value : Int)
  | v (value : Int)
  | m (optarg : String)
  | h
  | unknown
  deriving DecidableEq, Repr

/-- Why `parse_cmd` fails. -/
inductive CmdError where
  | wrongServerPort (port : Int)
  | wrongStringSize (size : Int)
  | wrongIovCount (count : Int)
  | memoryType
  | usage
  deriving DecidableEq, Repr

/-- What `parse_cmd` returns then. -/
def CmdError.ret : CmdError → Int
  | .wrongServerPort _ => -1
  | .wrongStringSize _ => ucsErrUnsupported
  | .wrongIovCount _ => ucsErrUnsupported
  | .memoryType => ucsErrUnsupported
  | .usage => -1

structure Variables where
  serverAddr : Option String
  listenAddr : Option String
  sendRecvType : SendRecvType
  serverPort : BitVec 16
  aiFamily : AddressFamily
  numIterations : Int
  testStringLength : Int
  iovCnt : Int
  testMemType : MemoryType
  deriving DecidableEq, Repr

/-- The static variables, and those of `main`. -/
def Variables.initial : Variables where
  serverAddr := none
  listenAddr := none
  sendRecvType := .stream
  serverPort := 13337
  aiFamily := .inet
  numIterations := 1
  testStringLength := 16
  iovCnt := 1
  testMemType := .host

/-- `strcasecmp` finds `stream`, `tag` or `am`, or the default is taken. -/
def communicationType (optarg : String) : SendRecvType :=
  if optarg.toLower = "stream" then .stream
  else if optarg.toLower = "tag" then .tag
  else if optarg.toLower = "am" then .am
  else .stream

def setOption (haveCuda : Bool) (settings : Variables) : Opt → Except CmdError Variables
  | .a optarg => .ok { settings with serverAddr := some optarg }
  | .c optarg => .ok { settings with sendRecvType := communicationType optarg }
  | .l optarg => .ok { settings with listenAddr := some optarg }
  | .p port =>
      if port < 0 ∨ port > 65535 then .error (.wrongServerPort port)
      else .ok { settings with serverPort := BitVec.ofInt 16 port }
  | .six => .ok { settings with aiFamily := .inet6 }
  | .i value => .ok { settings with numIterations := value }
  | .s value =>
      if value < 0 then .error (.wrongStringSize value)
      else .ok { settings with testStringLength := value }
  | .v value =>
      if value ≤ 0 then .error (.wrongIovCount value)
      else .ok { settings with iovCnt := value }
  | .m optarg =>
      let memType := parseMemType haveCuda settings.testMemType optarg
      if memType = .last then .error .memoryType
      else .ok { settings with testMemType := memType }
  | .h => .error .usage
  | .unknown => .error .usage

def parseCmd (haveCuda : Bool) (opts : List Opt) : Except CmdError Variables :=
  parse (setOption haveCuda) .initial opts

/-- The value that `main` compares with 0. -/
def parseCmdRet (haveCuda : Bool) (opts : List Opt) : Int :=
  resultOf CmdError.ret (parseCmd haveCuda opts)

/-- What `parse_cmd` admits: no negative length, and at least one buffer. -/
theorem parseCmd_admits {haveCuda : Bool} {opts : List Opt} {settings : Variables}
    (parsed : parseCmd haveCuda opts = .ok settings) :
    0 ≤ settings.testStringLength ∧ 0 < settings.iovCnt := by
  refine parse_preserves (fun settings => 0 ≤ settings.testStringLength ∧ 0 < settings.iovCnt)
    (fun before next opt _ admitted set => ?_) (by decide) parsed
  revert set
  fun_cases setOption haveCuda before opt <;> intro set <;> cases set
  case case9.refl nonneg _ => exact ⟨Int.not_lt.mp nonneg, admitted.2⟩
  case case11.refl positive _ => exact ⟨admitted.1, Int.not_le.mp positive⟩
  all_goals exact admitted

def Opt.memArg? : Opt → Option String
  | .m optarg => some optarg
  | _ => none

end ClientServer

end UcxPlayground.Arguments
