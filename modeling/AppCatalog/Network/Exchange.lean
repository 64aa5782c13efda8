import AppCatalog.Assoc
import AppCatalog.Failure
import AppCatalog.Network.Address
import AppCatalog.Text.Points
import AppCatalog.Text.Utf8

/-!
# Exchanges over the network

What each address answers is a table of replies, and who asks is a client: it requests addresses,
follows redirects and gives the body of the final answer or the fault it ended in, or it breaks off
in a way of its own, as over a URL that it refuses. The client is not the catalog's own, so a
`Network` is any client with any replies. `Client.standard` is the one that the catalog is run with,
and `Network.fetch` asks the client of a network for a URL.
-/

namespace AppCatalog

/-- What an address answers. -/
inductive Reply where
  /-- A status, header fields and a body in pieces; the body breaks off with a text if one is
  given. -/
  | answer (status : Nat) (headers : List (String × String)) (pieces : List Bytes)
      (broken : Option String)
  /-- No answer, for a reason. -/
  | silence (reason : String)
  deriving DecidableEq, Repr

/-- What every address answers; an address that is not there refuses the connection. -/
abbrev Replies := Assoc String Reply

/-- The body of a successful answer as far as it came. -/
structure Download where
  pieces : List Bytes
  broken : Option String
  deriving DecidableEq, Repr

/-- What a client makes of replies and a URL, which may be no text: the addresses that it requests,
in order, and the body of the final answer or the fault that the exchange ends in, unless it ends in
an error that is no fault of the network, which is known by the name of its kind. -/
abbrev Client := Replies → Points → List String × Except String (Except NetworkFault Download)

namespace Client

/-- What an address answers. -/
def replyOf (replies : Replies) (address : String) : Reply :=
  (Assoc.get? address replies).getD (.silence "connection refused")

/-- A header field; names count without case. -/
def header? (headers : List (String × String)) (name : String) : Option String :=
  (headers.find? fun h => h.1.toLower == name).map Prod.snd

def phraseOf : Nat → String
  | 100 => "Continue"
  | 101 => "Switching Protocols"
  | 102 => "Processing"
  | 103 => "Early Hints"
  | 200 => "OK"
  | 201 => "Created"
  | 202 => "Accepted"
  | 203 => "Non-Authoritative Information"
  | 204 => "No Content"
  | 205 => "Reset Content"
  | 206 => "Partial Content"
  | 207 => "Multi-Status"
  | 208 => "Already Reported"
  | 226 => "IM Used"
  | 300 => "Multiple Choices"
  | 301 => "Moved Permanently"
  | 302 => "Found"
  | 303 => "See Other"
  | 304 => "Not Modified"
  | 305 => "Use Proxy"
  | 307 => "Temporary Redirect"
  | 308 => "Permanent Redirect"
  | 400 => "Bad Request"
  | 401 => "Unauthorized"
  | 402 => "Payment Required"
  | 403 => "Forbidden"
  | 404 => "Not Found"
  | 405 => "Method Not Allowed"
  | 406 => "Not Acceptable"
  | 407 => "Proxy Authentication Required"
  | 408 => "Request Timeout"
  | 409 => "Conflict"
  | 410 => "Gone"
  | 411 => "Length Required"
  | 412 => "Precondition Failed"
  | 413 => "Request Entity Too Large"
  | 414 => "Request-URI Too Long"
  | 415 => "Unsupported Media Type"
  | 416 => "Requested Range Not Satisfiable"
  | 417 => "Expectation Failed"
  | 418 => "I'm a teapot"
  | 421 => "Misdirected Request"
  | 422 => "Unprocessable Entity"
  | 423 => "Locked"
  | 424 => "Failed Dependency"
  | 425 => "Too Early"
  | 426 => "Upgrade Required"
  | 428 => "Precondition Required"
  | 429 => "Too Many Requests"
  | 431 => "Request Header Fields Too Large"
  | 451 => "Unavailable For Legal Reasons"
  | 500 => "Internal Server Error"
  | 501 => "Not Implemented"
  | 502 => "Bad Gateway"
  | 503 => "Service Unavailable"
  | 504 => "Gateway Timeout"
  | 505 => "HTTP Version Not Supported"
  | 506 => "Variant Also Negotiates"
  | 507 => "Insufficient Storage"
  | 508 => "Loop Detected"
  | 510 => "Not Extended"
  | 511 => "Network Authentication Required"
  | _ => ""

/-- Whether a status sends the client elsewhere. -/
def isRedirect (status : Nat) : Bool := [301, 302, 303, 307, 308].contains status

def maxRedirects : Nat := 20

/-- Requests an address and follows redirects, `fuel` of them at most. -/
def follow (replies : Replies) : Nat → Address → List String × Except NetworkFault Download
  | fuel, address =>
    let url := String.ofList address.text
    match replyOf replies url with
    | .silence reason => ([url], .error (.noAnswer reason))
    | .answer status headers pieces broken =>
      match (if isRedirect status then header? headers "location" else none) with
      | some location =>
        match address.redirected? location with
        | none => ([url], .error .badRedirect)
        | some next =>
          match fuel with
          | 0 => ([url], .error .tooManyRedirects)
          | fuel + 1 =>
            let (urls, result) := follow replies fuel next
            (url :: urls, result)
      | none =>
        if status / 100 = 2 then ([url], .ok ⟨pieces, broken⟩)
        else ([url], .error (.refused status url (phraseOf status)))

/-- The client that the catalog is run with. It refuses a URL that is no address, and has no escapes
for what is no text. -/
def standard : Client := fun replies url =>
  match url.text? with
  | none => ([], .error "UnicodeEncodeError")
  | some text =>
    match Address.parse? text.toList with
    | none => ([], .error "InvalidURL")
    | some address =>
      let (urls, result) := follow replies maxRedirects address
      (urls, .ok result)

end Client

/-- Who requests addresses, and what they answer. -/
structure Network where
  replies : Replies
  client : Client

namespace Network

instance : Coe Replies Network := ⟨fun replies => ⟨replies, .standard⟩⟩

instance : Repr Network := ⟨fun net => reprPrec net.replies⟩

/-- Requests a URL: the addresses requested, and the body or the fault. -/
def fetch (net : Network) (url : Points) :
    List String × Except Failure (Except NetworkFault Download) :=
  let (urls, result) := net.client net.replies url
  (urls, result.mapError fun kind => .breakdown (.other kind))

/-- The client breaks off over a URL in an error of a kind. -/
def BreaksOff (net : Network) (url : Points) (kind : String) : Prop :=
  (net.client net.replies url).2 = .error kind

end Network

/-- The whole body of a download, unless it broke off. -/
def Download.body (d : Download) : Except NetworkFault Bytes :=
  match d.broken with
  | some text => .error (.noAnswer text)
  | none => .ok d.pieces.flatten

end AppCatalog
