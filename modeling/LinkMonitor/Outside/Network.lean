import LinkMonitor.Probe.Http
import LinkMonitor.Probe.Ping
import Std.Async.TCP

/-!
# The network

Makes probes and waits for what they answer. A web server is asked over a connection of its own; the
sockets that echo requests need are not at hand, which such a probe reports as a missing permission.
-/

namespace LinkMonitor
namespace Network

open Std.Async

def webPort : UInt16 := 80

def socketAddress? (a : Address) : Option Std.Net.SocketAddress :=
  match a with
  | .v4 _ => (Std.Net.IPv4Addr.ofString a.text).map fun x => .v4 ⟨x, webPort⟩
  | .v6 _ => (Std.Net.IPv6Addr.ofString a.text).map fun x => .v6 ⟨x, webPort⟩

def headRequest (host : String) : String :=
  "HEAD / HTTP/1.1\r\nHost: " ++ host ++ "\r\nConnection: close\r\n\r\n"

/-- Asks a web server and takes in the first bytes that come back. -/
def exchange (target : Target) : IO HttpOutcome := do
  let some address := socketAddress? target.address
    | return .failed .connect "no address to connect to"
  let client ← TCP.Socket.Client.mk
  match ← (client.connect address).block.toBaseIO with
  | .error e => return .failed .connect e.toString
  | .ok () =>
    let answer := do
      client.send (headRequest target.text).toUTF8
      client.recv? 4096
    match ← answer.block.toBaseIO with
    | .error e => return .failed .read e.toString
    | .ok none => return .failed .remoteProtocol "Server disconnected without sending a response."
    | .ok (some bytes) => return .ofResponse bytes.toList

/-- Milliseconds to wait at most. -/
def milliseconds (timeout : Binary64) : Nat :=
  match (timeout.mul (.finite 1000)).truncate with
  | .ok n => n.toNat
  | .error _ => 0xffffffff

/-- The result of a task, unless it takes longer than the deadline. -/
partial def resultBefore {α : Type} (deadline : Nat) (task : Task α) : IO (Option α) := do
  if ← IO.hasFinished task then return some task.get
  else if (← IO.monoMsNow) ≥ deadline then return none
  else
    IO.sleep 5
    resultBefore deadline task

def ask (target : Target) (timeout : Binary64) : IO HttpOutcome := do
  let deadline := (← IO.monoMsNow) + milliseconds timeout
  match ← resultBefore deadline (← (exchange target).asTask) with
  | none => return .failed .timeout "timed out"
  | some (.ok outcome) => return outcome
  | some (.error e) => return .failed .network e.toString

def seconds : IO Number := do
  return .float (Binary64.ofRatio (← IO.monoNanosNow) 1000000000)

def answer (o : ProbeOrder) : IO ProbeReply := do
  match o.kind, Target.parse o.target with
  | .http, .ok target => do
    let started ← seconds
    let outcome ← ask target o.timeout
    return HttpProbe.probe o.target o.timeout started (← seconds) fun _ => outcome
  | .http, .error e => return .broken "ValueError" e.message
  | .icmp, _ =>
    let refused (_ : PingRequest) : PingOutcome :=
      .failed (.socketPermission "No socket for echo requests is at hand")
    return (PingProbe.probe o.target o.timeout true refused refused).2

/-- Makes all probes at the same time. -/
def transport (orders : List ProbeOrder) : IO Transport := do
  let tasks ← orders.mapM fun o => do return (o, ← (answer o).asTask)
  let answers := tasks.map fun (o, task) =>
    match task.get with
    | .ok reply => (o, reply)
    | .error e => (o, .broken "OSError" e.toString)
  return fun o => (answers.lookup o).getD .pending

end Network
end LinkMonitor
