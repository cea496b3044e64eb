import Netboot.Dispatch
import Netboot.Profile
import Netboot.Web.Target

/-! The boot application over HTTP: health, the entry script, scripts of profiles and assets. -/

set_option autoImplicit false

namespace Netboot.Web

structure Request where
  method : String
  host : String
  target : String
  query : Bytes

inductive Fault where
  | target (fault : Target.Fault)
  | query
  deriving DecidableEq, Repr

structure Response where
  status : Nat
  contentType : String
  body : Bytes
  allow : List String := []

inductive Route where
  | health
  | entry
  | script
  | asset (name : String)
  | bundled
  deriving DecidableEq, Repr

def dropSlashes (path : List Char) : List Char := path.dropWhile (· == '/')

/-- Whether a path names a file in the directory `folder`, which ends in a slash; then the name. -/
def nameIn? (folder : String) (path : List Char) : Option String :=
  if folder.toList.isPrefixOf path then
    match path.drop folder.toList.length with
    | [] => none
    | c :: rest => if c = '/' || rest.contains '\n' then none else some (.ofList (c :: rest))
  else none

/-- The route of a path that no slash leads. Below `static` lie the files that come with the
application. -/
def route? (path : List Char) : Option Route :=
  match String.ofList path with
  | "health" => some .health
  | "boot.ipxe" => some .entry
  | "ipxe" => some .script
  | _ => (nameIn? "assets/" path).map .asset <|> (nameIn? "static/" path).map fun _ => .bundled

def mergeSlashes : List Char → List Char
  | '/' :: '/' :: rest => '/' :: mergeSlashes rest
  | c :: rest => c :: mergeSlashes rest
  | [] => []

def methods : List String := ["GET", "HEAD", "OPTIONS"]

def html : String := "text/html; charset=utf-8"
def plainText : String := "text/plain; charset=utf-8"

def errorPage (status : Nat) (title explanation : String) (allow : List String) : Response where
  status := status
  contentType := html
  body := Bytes.ofString (
    s!"<!doctype html>\n<html lang=en>\n<title>{status} {title}</title>\n" ++
    s!"<h1>{title}</h1>\n<p>{explanation}</p>\n")
  allow := allow

def notFound : Response :=
  errorPage 404 "Not Found" ("The requested URL was not found on the server. If you entered the " ++
    "URL manually please check your spelling and try again.") []

def methodNotAllowed : Response :=
  errorPage 405 "Method Not Allowed" "The method is not allowed for the requested URL." methods

def internalError : Response :=
  errorPage 500 "Internal Server Error" ("The server encountered an internal error and was unable " ++
    "to complete your request. Either the server is overloaded or there is an error in the " ++
    "application.") []

def isPathChar (c : Char) : Bool := c.isAlphanum || "_.-~!$&'()*+,/:;=@".toList.contains c

def escapePath (path : List Char) : List Char := path.flatMap fun c =>
  if isPathChar c then [c] else (Text.encodeChar c).flatMap Query.escapeByte

def escapePage (text : List Char) : List Char := text.flatMap fun c =>
  match c with
  | '&' => "&amp;".toList
  | '<' => "&lt;".toList
  | '>' => "&gt;".toList
  | '"' => "&#34;".toList
  | '\'' => "&#39;".toList
  | c => [c]

def redirect (host : String) (path query : List Char) : Response :=
  let url := "http://".toList ++ host.toList ++ '/' :: escapePath path ++
    (if query.isEmpty then [] else '?' :: query)
  let shown := String.ofList (escapePage url)
  { status := 308
    contentType := html
    body := Bytes.ofString (
      "<!doctype html>\n<html lang=en>\n<title>Redirecting...</title>\n" ++
      "<h1>Redirecting...</h1>\n<p>You should be redirected automatically to the target URL: " ++
      s!"<a href=\"{shown}\">{shown}</a>. If not, click the link.\n") }

def script (status : Nat) (text : String) : Response where
  status := status
  contentType := plainText
  body := Bytes.ofString text

/-- The answer with a script; none when a surrogate in it has no encoding. -/
def script? (status : Nat) (text : CodePoints) : Option Response := text.toString?.map (script status)

@[simp] theorem script?_ofString (status : Nat) (text : String) :
    script? status (CodePoints.ofString text) = some (script status text) := by
  rw [script?, CodePoints.toString?_ofString, Option.map_some]

def healthy : Response where
  status := 200
  contentType := "application/json"
  body := Bytes.ofString
    ((Json.obj [("service", .str "talospxe"), ("status", .str "healthy")]).text ++ "\n")

/-- The script of the profile that the machine's labels select; nothing with status 404 when there
is none, and none when the store or the profile cannot be used or the script cannot be sent. -/
def profileScript? (store : Profile.Store) (labels : Labels) : Option Response :=
  match store.select labels with
  | .error _ => none
  | .ok none => some (script 404 "")
  | .ok (some group) =>
    match store.profile group.profile with
    | .error _ => none
    | .ok none => some (script 404 "")
    | .ok (some document) =>
      let boot := (document.field? "boot").getD .null
      match Script.profile (if boot.truthy then boot else .obj []) with
      | .ok text => script? 200 text
      | .error .noKernel =>
        script? 500 (Script.error (CodePoints.ofString "Invalid profile " ++ group.profile))
      | .error _ => none

/-- The names of an asset's path once `.` and `..` are cancelled; none when it leads out. -/
def assetNames? (name : String) : Option (List Files.Name) :=
  (Files.segments (Bytes.ofString name)).foldlM (fun names segment =>
    if segment = [] ∨ segment = Files.dot then some names
    else if segment = Files.dotDot then (if names.isEmpty then none else some names.dropLast)
    else some (names ++ [segment])) []

def asset? (store : Profile.Store) (name : String) : Option Response :=
  match assetNames? name with
  | none => some notFound
  | some names =>
    match Files.isFile? store.files (store.assets ++ names) with
    | .error _ => none
    | .ok false => some notFound
    | .ok true =>
      match Files.read store.files (store.assets ++ names) with
      | .ok content => some ⟨200, "", content, []⟩
      | .error _ => some notFound

/-- Answer on a known route; none is an error inside the application. -/
def serve? (store : Profile.Store) (query : Bytes) : Route → Option Response
  | .health => some healthy
  | .entry => some (script 200 Script.chain)
  | .script => (Query.labels? query).bind fun labels => profileScript? store (.ofStrings labels)
  | .asset name => asset? store name
  | .bundled => some notFound

def respondOn (store : Profile.Store) (method : String) (query : Bytes) (route : Route) : Response :=
  if method == "OPTIONS" then ⟨200, html, [], methods⟩
  else if methods.contains method then (serve? store query route).getD internalError
  else methodNotAllowed

/-- Answer a request; the method may be in any letter case, and any number of slashes may lead the
path. A path that has a route once its slashes are merged is sent there. -/
def respond (store : Profile.Store) (request : Request) : Except Fault Response := do
  let path := dropSlashes (← (Target.path request.target).mapError .target)
  let some query := Text.decode? request.query | throw .query
  let method := String.ofList (request.method.toList.flatMap Text.upperAscii)
  let merged := mergeSlashes path
  match route? path, route? merged with
  | some route, _ => return respondOn store method request.query route
  | none, some _ =>
    return if methods.contains method then redirect request.host merged query
      else methodNotAllowed
  | none, none => return notFound

def Response.headers (response : Response) : List (Bytes × Bytes) :=
  (if response.contentType.isEmpty then []
    else [(Bytes.ofString "content-type", Bytes.ofString response.contentType)]) ++
  (if response.allow.isEmpty then []
    else [(Bytes.ofString "allow", Bytes.ofString (", ".intercalate response.allow))])

def Response.messages (response : Response) : List Dispatch.Message :=
  Dispatch.answer response.status response.headers response.body

def app (method host : String) : Dispatch.App Profile.Store Fault := fun store request =>
  match respond store ⟨method, host, request.path.getD "", request.query.getD []⟩ with
  | .ok response => (⟨response.messages, none⟩, store)
  | .error fault => (⟨[], some fault⟩, store)

def Response.ofMessages (messages : List Dispatch.Message) : Response :=
  let captured := Dispatch.capture messages
  let header (name : String) : String :=
    ((captured.headers.lookup (Bytes.ofString name)).bind Bytes.toString?).getD ""
  { status := captured.status.toNat
    contentType := header "content-type"
    body := captured.body
    allow := ((Text.fields ',' (header "allow").toList).map fun method =>
      String.ofList (Text.strip method)).filter (!·.isEmpty) }

structure Handled where
  response : Except Fault Response
  names : NameStore
  outcome : Option Dispatch.Outcome

def handle (config : Dispatch.Config) (store : Profile.Store) (names : NameStore)
    (request : Request) : Handled :=
  let (result, _) := Dispatch.handle config (some config.menu) (app request.method request.host)
    store names ⟨"http", some request.target, some request.query⟩
  { response := match result.failure with
      | some fault => .error fault
      | none => .ok (Response.ofMessages result.sent)
    names := result.names
    outcome := result.outcome }

end Netboot.Web
