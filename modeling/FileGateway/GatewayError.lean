import FileGateway.MessageError
import FileGateway.Text.Printable

/-! Why a call to a gateway fails, and whether its connection can be used again. -/
namespace FileGateway

/-- What the network reports about a connection. -/
inductive LinkFault where
  | refused
  | unreachable
  | endOfStream
  /-- A fault reported in words alone. -/
  | reported (text : String)
  deriving DecidableEq, Repr

def LinkFault.message : LinkFault → String
  | refused => "Connection refused (os error 111)"
  | unreachable => "Network is unreachable (os error 101)"
  | endOfStream => "early eof"
  | reported text => text

/-- Why arguments are refused before a gateway is asked. -/
inductive ArgumentFault where
  | readTooLong (length limit : Nat)
  | offsetOutOfRange (offset : UInt64)
  | zeroBlockSize
  /-- A refusal reported in words alone. -/
  | reported (text : String)
  deriving DecidableEq, Repr

def ArgumentFault.message : ArgumentFault → String
  | readTooLong length limit =>
    "read of " ++ toString length ++ " bytes exceeds limit of " ++ toString limit
  | offsetOutOfRange offset => "offset " ++ toString offset.toNat ++ " out of range"
  | zeroBlockSize => "block size must be positive"
  | reported text => text

inductive GatewayError where
  | connect (address : String) (fault : LinkFault)
  | io (address : String) (fault : LinkFault)
  | protocol (address : String) (path : Option String) (source : MessageError)
  | closed (address : String)
  | invalidArgument (fault : ArgumentFault)
  | invalidHost (host : String)
  | noHosts
  deriving DecidableEq, Repr

namespace GatewayError

def message : GatewayError → String
  | connect address fault => "failed to connect to gateway " ++ address ++ ": " ++ fault.message
  | io address fault => "i/o error talking to gateway " ++ address ++ ": " ++ fault.message
  | protocol address none source => "gateway " ++ address ++ ": " ++ source.message
  | protocol address (some path) source =>
    "gateway " ++ address ++ " (" ++ path ++ "): " ++ source.message
  | closed address => "connection to gateway " ++ address ++ " is closed"
  | invalidArgument fault => "invalid argument: " ++ fault.message
  | invalidHost host => "invalid gateway host " ++ Quoted.quote host
  | noHosts => "no gateway hosts configured"

/-- Whether the client that met the error must be discarded. A negative return
code and a refused message leave the stream in step. -/
def isFatal : GatewayError → Bool
  | connect .. | io .. | closed _ => true
  | protocol _ _ source => source.isFraming
  | invalidArgument _ | invalidHost _ | noHosts => false

def remoteCode : GatewayError → Option Int32
  | protocol _ _ source => source.remoteCode
  | connect .. | io .. | closed _ | invalidArgument _ | invalidHost _ | noHosts => none

/-- The messages of the causes beneath the error, the nearest first. -/
def causes : GatewayError → List String
  | connect _ fault | io _ fault => [fault.message]
  | protocol _ _ source => [source.message]
  | closed _ | invalidArgument _ | invalidHost _ | noHosts => []

end GatewayError
end FileGateway
