import LinkMonitor.Net.Address
import LinkMonitor.Probe.Reply

/-!
# Echo probes

A single echo request. It is sent again without privileges if a raw socket is not permitted.
-/

namespace LinkMonitor

/-- The ways an echo request can fail, as far as they are told apart, each with its text. -/
inductive PingFault
  | nameLookup (message : String)
  /-- A router or the target reports that the way is blocked. -/
  | unreachable (message : String)
  | socketPermission (message : String)
  | other (kind message : String)
  deriving DecidableEq, Repr

structure PingRequest where
  address : String
  count : Nat := 1
  timeout : Binary64
  privileged : Bool
  deriving DecidableEq, Repr

inductive PingOutcome
  /-- An answer, with the mean time in milliseconds. -/
  | alive (averageTime : Number)
  | silent
  | failed (fault : PingFault)
  deriving DecidableEq, Repr

namespace PingProbe

def replyOf (timeout : Binary64) : PingOutcome → ProbeReply
  | .alive time => .ofLatency (.ok time)
  | .silent => .failed .timeout ("No echo reply within " ++ timeout.text ++ "s")
  | .failed (.nameLookup message) | .failed (.unreachable message) =>
    .failed .unreachable ("ICMP unreachable: " ++ message)
  | .failed (.socketPermission message) =>
    .failed .error ("ICMP error: SocketPermissionError: " ++ message)
  | .failed (.other kind message) => .failed .error ("ICMP error: " ++ kind ++ ": " ++ message)

/-- Probes a target: the requests that were sent, and the reply. The first request ends in `first`,
a second one in `second`. -/
def probe (target : String) (timeout : Binary64) (privileged : Bool)
    (first second : PingRequest → PingOutcome) : List PingRequest × ProbeReply :=
  let request : PingRequest := { address := target, timeout, privileged }
  match first request with
  | .failed (.socketPermission _) =>
    let again := { request with privileged := false }
    ([request, again], replyOf timeout (second again))
  | outcome => ([request], replyOf timeout outcome)

end PingProbe
end LinkMonitor
