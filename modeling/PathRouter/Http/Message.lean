import PathRouter.Json

/-!
What a server reads of a request and writes in an answer.
-/

namespace PathRouter.Http

/-- The characters of a token: visible ASCII without delimiters. -/
def isTokenChar (c : Char) : Bool := c.isAlphanum || c ∈ "!#$%&'*+-.^_\x60|~".toList

/-- Methods are tokens. -/
def isToken (s : String) : Bool := s ≠ "" && s.toList.all isTokenChar

/-- The range of status codes: three digits, the first of which is not zero. -/
def isStatus (n : Nat) : Bool := 100 ≤ n && n < 1000

structure Response where
  status : Nat
  /-- Names in lower case, with their values. -/
  headers : List (String × String)
  /-- The content, if there is any. -/
  body : Option Json

namespace Response

def contentType : String × String := ("content-type", "application/json")

/-- An answer with a JSON value for its content. -/
def json (status : Nat) (headers : List (String × String)) (body : Json) : Response :=
  ⟨status, contentType :: headers, some body⟩

/-- The answer as it is sent: an answer to a request for headers alone has no content, and neither
has one whose status says so. -/
def sent (method : String) (r : Response) : Response :=
  if method = "HEAD" || r.status = 204 || r.status = 304 then { r with body := none } else r

def crlf : String := "\r\n"

/-- The answer as it is written to a connection that ends with it. -/
def render (r : Response) : String :=
  let content := (r.body.map Json.render).getD ""
  let headers := r.headers ++
    [("content-length", toString content.utf8ByteSize), ("connection", "close")]
  "HTTP/1.1 " ++ toString r.status ++ " " ++ crlf ++
    String.join (headers.map fun (name, value) => name ++ ": " ++ value ++ crlf) ++ crlf ++ content

end Response

/-- The method and the target on the first line of a request. -/
def requestLine? (line : String) : Option (String × String) :=
  match line.trimAscii.toString.splitOn " " with
  | [method, target, _] => if isToken method then some (method, target) else none
  | _ => none

/-- What stands before a question mark. -/
def withoutQuery (cs : List Char) : List Char := cs.takeWhile (· ≠ '?')

/-- What follows the scheme and the authority of a target that names them. -/
def afterAuthority? (cs : List Char) : Option (List Char) :=
  let rest := cs.dropWhile (fun c => c ≠ ':' && c ≠ '/' && c ≠ '?')
  if "://".toList.isPrefixOf rest then
    some ((rest.drop 3).dropWhile fun c => c ≠ '/' && c ≠ '?')
  else none

/-- The path of a target, encoded as it is. A target that names a host and nothing more has the
root for its path. -/
def pathOf (target : String) : String :=
  match afterAuthority? target.toList with
  | some rest =>
      match withoutQuery rest with
      | [] => "/"
      | path => String.ofList path
  | none => String.ofList (withoutQuery target.toList)

end PathRouter.Http
