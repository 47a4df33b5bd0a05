import LinkMonitor.Net.Address
import LinkMonitor.Numeric.WholeText
import LinkMonitor.Probe.Reply

/-!
# Probes of web servers

One request for the head of the start page. Any response at all, whatever its status, means that the
target is reachable.
-/

namespace LinkMonitor

/-- The ways a request can fail. -/
inductive HttpFaultKind
  | timeout
  | connectTimeout
  | readTimeout
  | writeTimeout
  | poolTimeout
  | network
  | connect
  | read
  | write
  | close
  | transport
  | proxy
  | unsupportedProtocol
  | protocol
  | localProtocol
  | remoteProtocol
  | request
  | decoding
  | tooManyRedirects
  | http
  | status
  | invalidUrl
  | cookieConflict
  deriving DecidableEq, Repr

namespace HttpFaultKind

def name : HttpFaultKind → String
  | timeout => "TimeoutException"
  | connectTimeout => "ConnectTimeout"
  | readTimeout => "ReadTimeout"
  | writeTimeout => "WriteTimeout"
  | poolTimeout => "PoolTimeout"
  | network => "NetworkError"
  | connect => "ConnectError"
  | read => "ReadError"
  | write => "WriteError"
  | close => "CloseError"
  | transport => "TransportError"
  | proxy => "ProxyError"
  | unsupportedProtocol => "UnsupportedProtocol"
  | protocol => "ProtocolError"
  | localProtocol => "LocalProtocolError"
  | remoteProtocol => "RemoteProtocolError"
  | request => "RequestError"
  | decoding => "DecodingError"
  | tooManyRedirects => "TooManyRedirects"
  | http => "HTTPError"
  | status => "HTTPStatusError"
  | invalidUrl => "InvalidURL"
  | cookieConflict => "CookieConflict"

def all : List HttpFaultKind :=
  [timeout, connectTimeout, readTimeout, writeTimeout, poolTimeout, network, connect, read, write,
   close, transport, proxy, unsupportedProtocol, protocol, localProtocol, remoteProtocol, request,
   decoding, tooManyRedirects, http, status, invalidUrl, cookieConflict]

def ofName? (s : String) : Option HttpFaultKind := all.find? fun k => k.name == s

/-- The cause that a record gets; none where the request could not even be put together. -/
def cause? : HttpFaultKind → Option FailureCause
  | timeout | connectTimeout | readTimeout | writeTimeout | poolTimeout => some .timeout
  | network | connect | read | write | close => some .unreachable
  | invalidUrl | cookieConflict => none
  | _ => some .error

end HttpFaultKind

structure HttpRequest where
  url : String
  timeout : Binary64
  followRedirects : Bool := false
  deriving DecidableEq, Repr

inductive HttpOutcome
  | responded (status : Int)
  | failed (kind : HttpFaultKind) (text : String)
  deriving DecidableEq, Repr

/-- What the first bytes of a response amount to: it has to begin with the protocol and a status. -/
def HttpOutcome.ofResponse (bytes : List UInt8) : HttpOutcome :=
  let line := (bytes.map fun b => Char.ofNat b.toNat).takeWhile (· != '\r')
  match (Text.words line).map String.ofList with
  | protocol :: status :: _ =>
    match protocol.startsWith "HTTP/", WholeText.parse? status with
    | true, some status => .responded status
    | _, _ => .failed .remoteProtocol "illegal status line"
  | _ => .failed .remoteProtocol "illegal status line"

namespace HttpProbe

/-- The request for a target, which has to be an address. -/
def request (target : String) (timeout : Binary64) : Except AddressError HttpRequest := do
  return { url := (← Target.parse target).url, timeout }

/-- The time between two readings of the clock, in milliseconds. -/
def elapsed (started finished : Number) : Except NumberError Number := do
  (← finished.sub started).mul (.whole 1000)

def replyOf (timeout : Binary64) (started finished : Number) : HttpOutcome → ProbeReply
  | .responded _ => .ofLatency (elapsed started finished)
  | .failed kind text =>
    match kind.cause? with
    | some .timeout =>
      .failed .timeout ("HTTP timed out after " ++ timeout.text ++ "s: " ++ text)
    | some .unreachable => .failed .unreachable ("Connection error: " ++ text)
    | some .error => .failed .error ("HTTP error: " ++ kind.name ++ ": " ++ text)
    | none => .broken kind.name text

/-- Probes a target whose request ends in `outcome` between two readings of the clock. -/
def probe (target : String) (timeout : Binary64) (started finished : Number)
    (outcome : HttpRequest → HttpOutcome) : ProbeReply :=
  match request target timeout with
  | .error e => .broken "ValueError" e.message
  | .ok r => replyOf timeout started finished (outcome r)

end HttpProbe
end LinkMonitor
