import Mathlib.Init

/-!
The exceptions the router's handlers tell apart. Only the classes some handler
names are listed, each with its bases among them; `derived` stands for every
other class below one of these.
-/

namespace ProductionStack.Python

inductive ExcClass where
  | exception
  | httpException
  | timeoutError
  | clientError
  | clientResponseError
  | contentTypeError
  | clientConnectorError
  | serverTimeoutError
  | connectionTimeoutError
  | socketTimeoutError
  | valueError
  | jsonDecodeError
  | requestsJsonDecodeError
  | unicodeDecodeError
  | attributeError
  | typeError
  | keyError
  | overflowError
  | runtimeError
  | recursionError
  | unboundLocalError
  | apiException
  | derived (name : String) (base : ExcClass)
  deriving DecidableEq, Repr

namespace ExcClass

/-- The class itself and its bases. In aiohttp everything derives from
`ClientError`, and `ServerTimeoutError` from the builtin `TimeoutError` too. -/
def mro : ExcClass → List ExcClass
  | .exception => [.exception]
  | .clientResponseError => [.clientResponseError, .clientError, .exception]
  | .contentTypeError => [.contentTypeError, .clientResponseError, .clientError, .exception]
  | .clientConnectorError => [.clientConnectorError, .clientError, .exception]
  | .serverTimeoutError => [.serverTimeoutError, .clientError, .timeoutError, .exception]
  | .connectionTimeoutError =>
    [.connectionTimeoutError, .serverTimeoutError, .clientError, .timeoutError, .exception]
  | .socketTimeoutError =>
    [.socketTimeoutError, .serverTimeoutError, .clientError, .timeoutError, .exception]
  | .jsonDecodeError => [.jsonDecodeError, .valueError, .exception]
  | .requestsJsonDecodeError =>
    [.requestsJsonDecodeError, .jsonDecodeError, .valueError, .exception]
  | .unicodeDecodeError => [.unicodeDecodeError, .valueError, .exception]
  | .recursionError => [.recursionError, .runtimeError, .exception]
  | .derived name base => .derived name base :: base.mro
  | cls => [cls, .exception]

/-- `type(e).__name__`. -/
def name : ExcClass → String
  | .exception => "Exception"
  | .httpException => "HTTPException"
  | .timeoutError => "TimeoutError"
  | .clientError => "ClientError"
  | .clientResponseError => "ClientResponseError"
  | .contentTypeError => "ContentTypeError"
  | .serverTimeoutError => "ServerTimeoutError"
  | .connectionTimeoutError => "ConnectionTimeoutError"
  | .socketTimeoutError => "SocketTimeoutError"
  | .clientConnectorError => "ClientConnectorError"
  | .valueError => "ValueError"
  | .jsonDecodeError => "JSONDecodeError"
  | .requestsJsonDecodeError => "JSONDecodeError"
  | .unicodeDecodeError => "UnicodeDecodeError"
  | .attributeError => "AttributeError"
  | .typeError => "TypeError"
  | .keyError => "KeyError"
  | .overflowError => "OverflowError"
  | .runtimeError => "RuntimeError"
  | .recursionError => "RecursionError"
  | .unboundLocalError => "UnboundLocalError"
  | .apiException => "ApiException"
  | .derived name _ => name

end ExcClass

/-- An exception below `Exception`. Only an `HTTPException` has a status. -/
structure PyExc where
  cls : ExcClass
  message : String
  statusCode : Option Nat
  deriving DecidableEq, Repr

namespace PyExc

def new (cls : ExcClass) (message : String) : PyExc := ⟨cls, message, none⟩

def http (statusCode : Nat) (detail : String) : PyExc :=
  ⟨.httpException, detail, some statusCode⟩

/-- `isinstance(e, classes)`. -/
def isInstance (e : PyExc) (classes : List ExcClass) : Bool :=
  classes.any e.cls.mro.contains

end PyExc

/-- The two exceptions outside `Exception` that end a suspended coroutine: its
consumer closed it, or its task was cancelled. -/
inductive Interrupt where
  | generatorExit
  | cancelledError
  deriving DecidableEq, Repr

/-- Everything a coroutine may raise. -/
inductive Raised where
  | error (e : PyExc)
  | interrupt (i : Interrupt)
  deriving DecidableEq, Repr

end ProductionStack.Python
