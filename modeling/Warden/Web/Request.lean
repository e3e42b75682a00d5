import Warden.Text.Blank
import Warden.Text.Case

/-!
# Web requests

The URL is the path up to the first `?` (`/` when empty); a method is trimmed and uppercased
in ASCII, and an empty one means `GET`.
-/

namespace Warden.Web

/-- A request reaching the filter. -/
structure Request where
  contextPath : String
  path : String
  method : String
  sessionId : Option String
  deriving DecidableEq, Repr

/-- The normal form of a request method. -/
def normalMethod (m : String) : String :=
  let t := Text.trim m
  if t = "" then "GET" else Text.asciiUpper t

namespace Request

/-- A `GET` request for `path` below an empty context path, without a session. -/
def get (path : String) : Request :=
  { contextPath := "", path, method := "GET", sessionId := none }

/-- The request for a full URI, with the context path taken off its front. -/
def ofUri (contextPath uri : String) : Request :=
  let path := if contextPath.isPrefixOf uri then String.ofList (uri.toList.drop contextPath.length)
    else uri
  { get path with contextPath }

def withMethod (r : Request) (m : String) : Request := { r with method := normalMethod m }

/-- The path up to the first `?`, or `/` when that is empty. -/
def url (r : Request) : String :=
  match r.path.toList.takeWhile (· ≠ '?') with
  | [] => "/"
  | cs => String.ofList cs

def query (r : Request) : Option String :=
  match r.path.toList.dropWhile (· ≠ '?') with
  | [] => none
  | _ :: rest => some (String.ofList rest)

/-- The context path followed by the URL. -/
def uri (r : Request) : String := r.contextPath ++ r.url

def display (r : Request) : String := s!"filter invocation [{r.method} {r.url}]"

end Request

end Warden.Web
