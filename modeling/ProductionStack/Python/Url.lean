import ProductionStack.Python.Exceptions
import ProductionStack.Python.Text

/-!
The host name that `urllib.parse` finds in a URL.
-/

namespace ProductionStack.Python

/-- What `urllib.parse` asks of other modules: whether a bracketed address is one, and
the compatibility normal form of a text. -/
structure UrlSupport where
  checkBracketedHost : List Char → Except PyExc Unit
  nfkc : List Char → List Char

/-- What is left of a URL before it is taken apart. -/
def cleanUrl (url : List Char) : List Char :=
  (url.dropWhile (·.toNat ≤ 0x20)).filter fun c => ! ['\t', '\r', '\n'].contains c

def isSchemeChar (c : Char) : Bool := c.isAlphanum || ['+', '-', '.'].contains c

/-- The URL without its scheme, if it starts with one. -/
def afterScheme (url : List Char) : List Char :=
  let scheme := url.takeWhile (· ≠ ':')
  match url.dropWhile (· ≠ ':') with
  | _ :: rest => if (scheme.head?.any Char.isAlpha) && scheme.all isSchemeChar then rest else url
  | [] => url

/-- `urlsplit(url).netloc`, before it is checked. -/
def netlocOf (url : List Char) : List Char :=
  match afterScheme (cleanUrl url) with
  | '/' :: '/' :: rest => rest.takeWhile fun c => ! ['/', '?', '#'].contains c
  | _ => []

namespace UrlSupport

variable (support : UrlSupport)

def checkBrackets (netloc : List Char) : Except PyExc Unit :=
  if netloc.contains '[' && netloc.contains ']' then
    support.checkBracketedHost (((netloc.dropWhile (· ≠ '[')).drop 1).takeWhile (· ≠ ']'))
  else if netloc.contains '[' || netloc.contains ']' then
    .error (.new .valueError "Invalid IPv6 URL")
  else .ok ()

/-- `_checknetloc`. -/
def checkNetloc (netloc : List Char) : Except PyExc Unit :=
  if netloc.all (·.toNat < 128) then .ok ()
  else
    let plain := netloc.filter fun c => ! ['@', ':', '#', '?'].contains c
    if support.nfkc plain = plain then .ok ()
    else if (support.nfkc plain).any (['/', '?', '#', '@', ':'].contains ·) then
      .error (.new .valueError "netloc contains invalid characters under NFKC normalization")
    else .ok ()

end UrlSupport

/-- `_hostinfo[0]`. -/
def hostInfo (netloc : List Char) : List Char :=
  let hostinfo := (netloc.splitOn '@').getLastD []
  if hostinfo.contains '[' then
    ((hostinfo.dropWhile (· ≠ '[')).drop 1).takeWhile (· ≠ ']')
  else hostinfo.takeWhile (· ≠ ':')

/-- The zone of a scoped address keeps its case. -/
def lowerHost (host : List Char) : List Char :=
  (host.takeWhile (· ≠ '%')).map Char.toLower ++ host.dropWhile (· ≠ '%')

/-- `urlparse(url).hostname`. -/
def UrlSupport.hostname (support : UrlSupport) (url : String) : Except PyExc (Option String) := do
  let netloc := netlocOf url.toList
  support.checkBrackets netloc
  support.checkNetloc netloc
  let host := hostInfo netloc
  .ok (if host.isEmpty then none else some (String.ofList (lowerHost host)))

end ProductionStack.Python
