import ProductionStack.Lib.Journal
import ProductionStack.Request.Multipart

/-!
The headers of a response that was relayed from a backend or a provider. The router
copies the upstream's headers by their spelling, while a response has its headers
whatever their letter case.
-/

namespace ProductionStack.Request

open Lib Python

/-- `dict(response.headers)` of a table that is read whatever the letter case. -/
def dictOfHeaders (upstream : Headers) : Dict String String :=
  Dict.empty.assign (upstream.map fun e => (e.1, header upstream e.1 ""))

/-- `response_headers` of `process_external_provider_request`. -/
def externalHeaders (upstream : Headers) (requestId : String) : Dict String String :=
  (Dict.empty.set "X-Request-Id" requestId).assign
    ((dictOfHeaders upstream).entries.filter fun e => lower e.1 ≠ "content-type")

/-- A response that has the headers of an upstream response, on one of the three paths.
They are the same whether the body is streamed or not. -/
inductive ProxyResponse where
  | general (f : Forwarding) (upstream : Headers)
  | multipart (m : MultipartCall) (r : BackendResponse)
  | external (requestId : String) (upstream : Headers)

namespace ProxyResponse

def requestId : ProxyResponse → String
  | general f _ => f.requestId
  | multipart m _ => m.requestId
  | external requestId _ => requestId

def upstream : ProxyResponse → Headers
  | general _ upstream => upstream
  | multipart _ r => r.headers
  | external _ upstream => upstream

def headers : ProxyResponse → Headers
  | general f upstream => responseHeaders upstream f.requestId
  | multipart m r => m.respHeaders r
  | external requestId upstream => (externalHeaders upstream requestId).entries

/-- What the client is sent. The names are in lower case, and the two headers that the
response may lack are added. -/
def sent (p : ProxyResponse) (contentLength contentType : Option String) : Headers :=
  p.headers.map (fun e => (lower e.1, e.2)) ++
    (contentLength.map ("content-length", ·)).toList ++ (contentType.map ("content-type", ·)).toList

def keeps : ProxyResponse → String → Bool
  | general _ _, key =>
    !(headersToStripFromResponse.contains (lower key)) && lower key ≠ "content-type"
  | multipart _ _, key => !(headersToStripFromResponse.contains (lower key))
  | external _ _, key => lower key ≠ "content-type"

def dict : ProxyResponse → Dict String String
  | general f upstream => (Dict.empty.assign (upstream.filter fun e =>
      keeps (general f upstream) e.1)).set "X-Request-Id" f.requestId
  | multipart m r => (Dict.empty.assign (r.headers.filter fun e =>
      keeps (multipart m r) e.1)).set "X-Request-Id" m.requestId
  | external requestId upstream => externalHeaders upstream requestId

variable {key value : String} (p : ProxyResponse)

end ProxyResponse
end ProductionStack.Request
