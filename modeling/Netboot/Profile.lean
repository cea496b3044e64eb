import Netboot.Files
import Netboot.Json.Reader

/-! Machine profiles kept as files, and the groups that bind machines to them by their labels.

Below the root of a store, `groups/<id>.json` holds the groups and `profiles/<id>.json` the
profiles. Every query reads the files anew.
-/

set_option autoImplicit false

namespace Netboot

abbrev Labels := List (CodePoints × CodePoints)

def Labels.ofStrings (labels : List (String × String)) : Labels :=
  labels.map fun (key, value) => (CodePoints.ofString key, CodePoints.ofString value)

namespace Profile

def isLowerHex (c : Char) : Bool := ('0' ≤ c && c ≤ '9') || ('a' ≤ c && c ≤ 'f')

def isMacSeparator (c : Char) : Bool := c == ':' || c == '-' || c == '.'

def dropFinalNewline (text : List Char) : List Char :=
  if text.getLast? = some '\n' then text.dropLast else text

def pairUp : List Char → List (List Char)
  | a :: b :: rest => [a, b] :: pairUp rest
  | _ => []

/-- Hardware addresses of any spelling in pairs with colons; other text in lower case. -/
def normalizeMac (text : String) : String :=
  let plain := Text.lower (Text.strip text.toList)
  let digits := dropFinalNewline (plain.filter (!isMacSeparator ·))
  if digits.length = 12 && digits.all isLowerHex then
    .ofList ([':'].intercalate (pairUp digits))
  else .ofList plain

def normalizeAddress (text : CodePoints) : CodePoints :=
  match text.toString? with
  | some text => normalizeMac text
  | none => text.strip.lower

/-- Labels with a value, the hardware address normalised. -/
def normalizeLabels (labels : Labels) : Labels :=
  (labels.filter (!·.2.isEmpty)).map fun (key, value) =>
    (key, if key == CodePoints.ofString "mac" then normalizeAddress value else value)

structure Group where
  id : CodePoints
  profile : CodePoints
  selector : Labels
  deriving DecidableEq, Repr

def Group.accepts (group : Group) (labels : Labels) : Bool :=
  group.selector.all fun (key, value) => labels.lookup key == some value

/-- More selector keys first, then the lesser id. -/
def Group.precedes (a b : Group) : Bool :=
  if a.selector.length = b.selector.length then a.id ≤ b.id
  else b.selector.length < a.selector.length

inductive Fault where
  | selector
  | tooDeep
  | path (fault : Files.Fault)
  deriving DecidableEq, Repr

/-- The groups and profiles in a directory of a file tree. In a document at most `depth` arrays and
objects are open in one another: how many are left to it depends on what else is running. -/
structure Store where
  files : Files.Node
  root : Files.Path
  depth : Nat

namespace Store

/-- The object a file holds; none when it cannot be read or holds anything else. -/
def load (store : Store) (path : Files.Path) : Except Fault (Option Json) :=
  match Files.read store.files path with
  | .error _ => .ok none
  | .ok content =>
    match (Text.decode? content).map (Json.ofChars store.depth) with
    | some (.ok (.obj fields)) => .ok (some (.obj fields))
    | some (.error .tooDeep) => .error .tooDeep
    | _ => .ok none

def suffix : Bytes := Bytes.ofString ".json"

/-- A file name without its last suffix; a leading dot starts none. -/
def stem (name : CodePoints) : CodePoints :=
  match Text.cutLast? (.char '.') name with
  | some (c :: before, _ :: _) => c :: before
  | _ => name

def selectorOf (document : Json) : Except Fault Labels :=
  let selector := (document.field? "selector").getD .null
  if !selector.truthy then .ok []
  else match selector with
    | .obj fields => .ok (fields.map fun (key, value) => (key, value.plain))
    | _ => .error .selector

def groupOf (name : Files.Name) (document : Json) : Except Fault (Option Group) := do
  match document.field? "profile" with
  | none => return none
  | some profile =>
    let selector ← selectorOf document
    return some {
      id := (document.field? "id").elim (stem (.ofFileName name)) (·.plain)
      profile := profile.plain
      selector := normalizeLabels selector }

def namePrecedes (a b : Files.Name) : Bool :=
  decide (CodePoints.ofFileName a ≤ CodePoints.ofFileName b)

def groupFiles (store : Store) : List Files.Name :=
  match Files.find store.files (store.root ++ [Bytes.ofString "groups"]) with
  | .ok (.dir entries) => ((entries.map (·.1)).filter (suffix.isSuffixOf ·)).mergeSort namePrecedes
  | _ => []

def groupAt (store : Store) (name : Files.Name) : Except Fault (Option Group) := do
  match ← store.load (store.root ++ [Bytes.ofString "groups", name]) with
  | none => return none
  | some document => groupOf name document

def groups (store : Store) : Except Fault (List Group) := do
  let found ← store.groupFiles.mapM store.groupAt
  return found.filterMap id

def isIdChar (c : Char) : Bool :=
  ('A' ≤ c && c ≤ 'Z') || ('a' ≤ c && c ≤ 'z') || Text.isAsciiDigit c ||
    c == '.' || c == '_' || c == '-'

def isProfileId (id : String) : Bool :=
  let text := dropFinalNewline id.toList
  !text.isEmpty && text.all isIdChar && id != "." && id != ".."

def profileId? (text : CodePoints) : Option String := text.toString?.filter isProfileId

/-- The document of a profile; none when the id is not one or the file holds no object. -/
def profile (store : Store) (id : CodePoints) : Except Fault (Option Json) := do
  match profileId? id with
  | none => return none
  | some id =>
    let path := store.root ++ [Bytes.ofString "profiles", Bytes.ofString id ++ suffix]
    if ← (Files.exists? store.files path).mapError .path then store.load path
    else return none

def select (store : Store) (labels : Labels) : Except Fault (Option Group) := do
  let labels := normalizeLabels labels
  let candidates := (← store.groups).filter (·.accepts labels)
  return (candidates.mergeSort Group.precedes).head?

def assets (store : Store) : Files.Path := store.root ++ [Bytes.ofString "assets"]

end Store

end Profile

end Netboot
