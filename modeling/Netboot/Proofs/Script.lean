import Netboot.Proofs.Address.Text
import Netboot.Proofs.Profile.Hardware
import Netboot.Proofs.Query
import Netboot.Proofs.Query.Decoding
import Netboot.Script

/-! What a machine says of itself in the URLs of the boot menu and of the entry script: it puts the
texts of its settings into a URL, and the server reads the same texts out of it.

A script is taken apart into its lines, and only the lines that chain are looked at.
-/

set_option autoImplicit false

namespace Netboot.Script

variable {c mark : Char} {text other out out' name before : List Char} {value : String → String}
  {front back : List (List Char)} {ip port : String}

/-! ## Lines that chain -/

def lines (script : String) : List (List Char) := Text.fields '\n' script.toList

theorem lines_ofLines {texts : List String} (single : ∀ line ∈ texts, '\n' ∉ line.toList) :
    lines (ofLines texts) = texts.map String.toList ++ [[]] := by
  induction texts with
  | nil => rfl
  | cons line texts ih =>
    have later := ih fun other member => single other (.tail _ member)
    rw [lines, ofLines] at later ⊢
    rw [List.map_cons, String.join_cons, String.toList_append, String.toList_append,
      List.append_assoc]
    exact (Text.fields_append (single line List.mem_cons_self) _).trans (congrArg (_ :: ·) later)

def chainUrl? : List Char → Option (List Char)
  | 'c' :: 'h' :: 'a' :: 'i' :: 'n' :: ' ' :: url => some url
  | _ => none

/-- The URLs of the lines that chain, each with the line in front of it. -/
def chainsFrom (before : List Char) : List (List Char) → List (List Char × List Char)
  | [] => []
  | line :: rest => ((chainUrl? line).map (before, ·)).toList ++ chainsFrom line rest

def chains (script : String) : List (List Char × List Char) := chainsFrom [] (lines script)

theorem chainsFrom_append : chainsFrom before (front ++ back) =
    chainsFrom before front ++ chainsFrom (front.getLastD before) back := by
  induction front generalizing before with
  | nil => rfl
  | cons line rest ih =>
    rw [List.cons_append, chainsFrom, chainsFrom, ih, List.append_assoc, List.getLastD_cons]

/-- A line of its own that does not chain. -/
def Silent (line : String) : Prop := '\n' ∉ line.toList ∧ chainUrl? line.toList = none

instance (line : String) : Decidable (Silent line) := inferInstanceAs (Decidable (_ ∧ _))

theorem chainsFrom_of_silent {texts : List String} (silent : ∀ line ∈ texts, Silent line) :
    chainsFrom before (texts.map String.toList) = [] := by
  induction texts generalizing before with
  | nil => rfl
  | cons line texts ih =>
    rw [List.map_cons, chainsFrom, (silent line List.mem_cons_self).2,
      ih fun other member => silent other (.tail _ member)]
    rfl

theorem toList_chain (url : String) :
    ("chain " ++ url).toList = 'c' :: 'h' :: 'a' :: 'i' :: 'n' :: ' ' :: url.toList :=
  String.toList_append

def entry (url : String → String) (role : String) : List String :=
  ["", ":" ++ role, "chain " ++ url role]

theorem chainsFrom_entries (roles : List String) (url : String → String) :
    chainsFrom before ((roles.flatMap (entry url)).map String.toList) =
      roles.map fun role => ((":" ++ role).toList, (url role).toList) := by
  induction roles generalizing before with
  | nil => rfl
  | cons role roles ih =>
    -- Neither the empty line nor the label chains, whatever the role is called.
    have empty : chainUrl? "".toList = none := by decide
    have label : (":" ++ role).toList = ':' :: role.toList := String.toList_append
    rw [List.flatMap_cons, List.map_append, entry, List.map_cons, List.map_cons, List.map_cons,
      List.map_nil, List.cons_append, List.cons_append, List.cons_append, List.nil_append, chainsFrom,
      chainsFrom, chainsFrom, ih, empty, toList_chain, label, List.map_cons, label]
    rfl

/-- Among lines that do not chain, each entry chains once, right under its label. -/
theorem chains_ofLines {head roles tail : List String} {url : String → String}
    (above : ∀ line ∈ head, Silent line) (below : ∀ line ∈ tail, Silent line)
    (labels : ∀ role ∈ roles, '\n' ∉ role.toList) (urls : ∀ role ∈ roles, '\n' ∉ (url role).toList) :
    chains (ofLines (head ++ roles.flatMap (entry url) ++ tail)) =
      roles.map fun role => ((":" ++ role).toList, (url role).toList) := by
  -- Behind the last line end nothing is left.
  have ended {before : List Char} : chainsFrom before [[]] = [] := rfl
  rw [chains, lines_ofLines]
  · rw [List.map_append, List.map_append, chainsFrom_append, chainsFrom_append, chainsFrom_append,
      chainsFrom_of_silent above, chainsFrom_of_silent below, chainsFrom_entries, ended]
    simp only [List.nil_append, List.append_nil]
  · rw [List.forall_mem_append, List.forall_mem_append]
    refine ⟨⟨fun line member => (above line member).1, fun line member => ?_⟩,
      fun line member => (below line member).1⟩
    obtain ⟨role, listed, within⟩ := List.mem_flatMap.mp member
    simp only [entry, List.mem_cons, List.not_mem_nil, or_false] at within
    obtain rfl | rfl | rfl := within
    · decide
    · rw [String.toList_append, List.mem_append, not_or]
      exact ⟨by decide, labels role listed⟩
    · rw [String.toList_append, List.mem_append, not_or]
      exact ⟨by decide, urls role listed⟩

/-! ## URLs -/

def Clear (text : String) : Prop := text.toList.all (· ∉ ['\n', '$', '?'])

instance (text : String) : Decidable (Clear text) := inferInstanceAs (Decidable (_ = true))

theorem clear_iff {text : String} :
    Clear text ↔ ∀ c ∈ text.toList, c ≠ '\n' ∧ c ≠ '$' ∧ c ≠ '?' := by
  simp [Clear]

theorem clear_append {first second : String} (left : Clear first) (right : Clear second) :
    Clear (first ++ second) := by
  rw [clear_iff] at left right ⊢
  intro c member
  rw [String.toList_append, List.mem_append] at member
  exact member.elim (left c) (right c)

theorem clear_v4 (a : V4) : Clear a.text := by
  refine clear_iff.mpr fun c member => ?_
  obtain digit | rfl := V4.isDigit_or_eq_of_mem_text member
  · refine ⟨?_, ?_, ?_⟩ <;> rintro rfl <;> exact absurd digit (by decide)
  · decide

theorem clear_natRepr (n : Nat) : Clear n.repr := by
  refine clear_iff.mpr fun c member => ?_
  rw [Nat.toList_repr] at member
  have digit := Nat.isDigit_of_mem_toDigits (by decide) (by decide) member
  refine ⟨?_, ?_, ?_⟩ <;> rintro rfl <;> exact absurd digit (by decide)

theorem clear_port (port : Int) : Clear (toString port) := by
  cases port with
  | ofNat n => exact clear_natRepr n
  | negSucc n => exact clear_append (by decide) (clear_natRepr _)

def Opens (front : String) : Prop :=
  ∃ before : String, Clear before ∧ front.toList = before.toList ++ ['?']

def urlText (value : String → String) (front tail : String) : String :=
  front ++ identityQuery value ++ tail

def roleFront (ip port : String) : String := "http://" ++ ip ++ ":" ++ port ++ "/ipxe?"

theorem roleUrl_eq (value : String → String) (ip port role : String) :
    roleUrl value ip port role = urlText value (roleFront ip port) ("&type=" ++ role) :=
  String.append_assoc

theorem opens_roleFront (address : Clear ip) (number : Clear port) : Opens (roleFront ip port) := by
  refine ⟨"http://" ++ ip ++ ":" ++ port ++ "/ipxe", ?_, ?_⟩
  · exact clear_append (clear_append (clear_append (clear_append (by decide) address) (by decide))
      number) (by decide)
  · have mark : "/ipxe?".toList = "/ipxe".toList ++ ['?'] := by decide
    simp only [roleFront, String.toList_append, mark, List.append_assoc]

theorem opens_entry : Opens "ipxe?" := ⟨"ipxe", by decide, by decide⟩

theorem newline_not_mem_query : '\n' ∉ (identityQuery setting).toList := by decide +kernel

theorem newline_not_mem_urlText {front tail : String} (opens : Opens front)
    (last : '\n' ∉ tail.toList) : '\n' ∉ (urlText setting front tail).toList := by
  obtain ⟨before, clear, same⟩ := opens
  rw [urlText, String.toList_append, String.toList_append, same]
  simp only [List.mem_append, not_or]
  exact ⟨⟨⟨fun member => (clear_iff.mp clear _ member).1 rfl, by decide⟩, newline_not_mem_query⟩, last⟩

theorem chains_menu (address : Clear ip) (number : Clear port) :
    chains (menu ip port) =
      roles.map fun role => ((":" ++ role).toList, (roleUrl setting ip port role).toList) := by
  refine chains_ofLines (by decide +kernel) (by decide +kernel) (by decide) fun role listed => ?_
  have types : ∀ role ∈ roles, '\n' ∉ ("&type=" ++ role).toList := by decide
  rw [roleUrl_eq]
  exact newline_not_mem_urlText (opens_roleFront address number) (types role listed)

theorem chains_chain : chains chain = [("#!ipxe".toList, (urlText setting "ipxe?" "").toList)] := by
  have url : "chain ipxe?" ++ identityQuery setting = "chain " ++ urlText setting "ipxe?" "" := by
    have joined : "chain ipxe?" = "chain " ++ "ipxe?" := by decide
    rw [urlText, String.append_empty, joined, String.append_assoc]
  have single : ∀ line ∈ ["#!ipxe", "chain " ++ urlText setting "ipxe?" ""], '\n' ∉ line.toList := by
    rw [List.forall_mem_cons, List.forall_mem_singleton, String.toList_append, List.mem_append, not_or]
    exact ⟨by decide, by decide, newline_not_mem_urlText opens_entry (by decide)⟩
  rw [chains, chain, url, lines_ofLines single, List.map_cons, List.map_cons, List.map_nil,
    toList_chain]
  rfl

/-! ## Settings -/

/-- The text with the settings it names put in place of their names. Of the name of a setting that
much has been read. -/
def expandFrom (value : String → String) : Option (List Char) → List Char → List Char
  | none, '$' :: '\x7b' :: rest => expandFrom value (some []) rest
  | none, c :: rest => c :: expandFrom value none rest
  | none, [] => []
  | some name, '\x7d' :: rest => (value (.ofList name)).toList ++ expandFrom value none rest
  | some name, c :: rest => expandFrom value (some (name ++ [c])) rest
  | some name, [] => '$' :: '\x7b' :: name

def expand (value : String → String) (text : List Char) : List Char := expandFrom value none text

def Expands (value : String → String) (text out : List Char) : Prop :=
  ∀ rest, expand value (text ++ rest) = out ++ expand value rest

theorem Expands.expand (expands : Expands value text out) : expand value text = out := by
  have alone := expands []
  rwa [List.append_nil, Script.expand, Script.expand, expandFrom, List.append_nil] at alone

theorem Expands.append (first : Expands value text out) (second : Expands value other out') :
    Expands value (text ++ other) (out ++ out') := fun rest => by
  rw [List.append_assoc, first, second, List.append_assoc]

theorem expand_cons (plain : c ≠ '$') (rest : List Char) :
    expand value (c :: rest) = c :: expand value rest := by
  rw [expand, expandFrom]
  · rfl
  · intro rest' same
    exact (plain same).elim

theorem expands_plain (plain : '$' ∉ text) : Expands value text text := by
  intro rest
  induction text with
  | nil => rfl
  | cons c text ih =>
    rw [List.mem_cons, not_or] at plain
    rw [List.cons_append, expand_cons (Ne.symm plain.1), ih plain.2, List.cons_append]

theorem expandFrom_name (closed : '\x7d' ∉ name) (done rest : List Char) :
    expandFrom value (some done) (name ++ '\x7d' :: rest) =
      (value (.ofList (done ++ name))).toList ++ expand value rest := by
  -- By induction on the name from there on, for whatever has been read of it.
  induction name generalizing done with
  | nil => rw [List.nil_append, expandFrom, List.append_nil, expand]
  | cons c name ih =>
    rw [List.mem_cons, not_or] at closed
    rw [List.cons_append, expandFrom, ih closed.2, List.append_assoc, List.singleton_append]
    exact Ne.symm closed.1

theorem expands_setting {name : String} (closed : '\x7d' ∉ name.toList) :
    Expands value (setting name).toList (value name).toList := by
  intro rest
  have opened : "$\x7b".toList = ['$', '\x7b'] := by decide
  have shut : "\x7d".toList = ['\x7d'] := by decide
  rw [setting, String.toList_append, String.toList_append, opened, shut, List.append_assoc,
    List.append_assoc, List.singleton_append]
  exact (expandFrom_name closed [] rest).trans (by rw [List.nil_append, String.ofList_toList])

theorem expands_intercalate {α : Type} {parts : List α} {before after : α → List Char}
    (plain : '$' ∉ [mark]) (each : ∀ part ∈ parts, Expands value (before part) (after part)) :
    Expands value ([mark].intercalate (parts.map before)) ([mark].intercalate (parts.map after)) := by
  induction parts with
  | nil => exact fun rest => rfl
  | cons part parts ih =>
    have here := each part List.mem_cons_self
    by_cases last : parts = []
    · rwa [last, List.map_singleton, List.map_singleton, List.intercalate_singleton,
        List.intercalate_singleton]
    · have more {f : α → List Char} : parts.map f ≠ [] := fun none => last (List.map_eq_nil_iff.mp none)
      rw [List.map_cons, List.map_cons, List.intercalate_cons_of_ne_nil more,
        List.intercalate_cons_of_ne_nil more]
      exact (here.append (expands_plain plain)).append (ih fun part member => each part (.tail _ member))

def identityPairs (value : String → String) : List (String × String) :=
  identityFields.map fun (key, name) => (key, value name)

theorem toList_identityQuery (value : String → String) :
    (identityQuery value).toList = ['&'].intercalate ((identityPairs value).map Query.plainField) := by
  have sides : ∀ field : String × String,
      (field.1 ++ "=" ++ value field.2).toList = Query.plainField (field.1, value field.2) := by
    intro field
    rw [String.toList_append, String.toList_append, List.append_assoc]
    rfl
  rw [identityQuery, String.toList_intercalate, identityPairs, List.map_map, List.map_map]
  refine congrArg₂ List.intercalate (by decide) (List.map_congr_left fun field _ => sides field)

theorem expands_identityQuery :
    Expands value (identityQuery setting).toList (identityQuery value).toList := by
  rw [toList_identityQuery, toList_identityQuery, identityPairs, identityPairs, List.map_map,
    List.map_map]
  have simple : ∀ field ∈ identityFields, '$' ∉ field.1.toList ∧ '\x7d' ∉ field.2.toList := by
    decide
  refine expands_intercalate (by decide) fun field member => ?_
  obtain ⟨key, closed⟩ := simple field member
  have equals : Expands value ['='] ['='] := expands_plain (by decide)
  exact (expands_plain key).append (equals.append (expands_setting closed))

theorem expand_urlText {front tail : String} (opens : Opens front) (plain : '$' ∉ tail.toList) :
    expand value (urlText setting front tail).toList = (urlText value front tail).toList := by
  obtain ⟨before, clear, same⟩ := opens
  have start : '$' ∉ front.toList := by
    rw [same, List.mem_append, not_or]
    exact ⟨fun member => (clear_iff.mp clear _ member).2.1 rfl, by decide⟩
  refine Expands.expand ?_
  rw [urlText, urlText, String.toList_append, String.toList_append, String.toList_append,
    String.toList_append]
  exact ((expands_plain start).append expands_identityQuery).append (expands_plain plain)

/-! ## Machines -/

/-- A machine that runs a script. The texts it identifies itself with need no escapes: letters, digits
and the other unreserved characters do not, nor does a colon. -/
structure Machine where
  setting : String → String
  address : Bytes
  six : address.length = 6
  hyphens : Profile.Hyphenated address (setting "mac:hexhyp")
  plain : ∀ field ∈ identityFields, Query.IsPlain (setting field.2)

def roleLabels : Role → List (String × String)
  | .unknown => []
  | role => [("type", role.name)]

namespace Machine

variable {machine : Machine} {role : Role}

def labels (machine : Machine) (role : Role) : List (String × String) := [
  ("uuid", machine.setting "uuid"), ("ip", machine.setting "ip"),
  ("mac", machine.setting "mac:hexhyp"), ("domain", machine.setting "domain"),
  ("hostname", machine.setting "hostname"), ("serial", machine.setting "serial")] ++ roleLabels role

def selection (machine : Machine) (role : Role) : Selection where
  uuid := machine.setting "uuid"
  mac := machine.setting "mac:hexhyp"
  ip := machine.setting "ip"
  hostname := machine.setting "hostname"
  serial := machine.setting "serial"
  domain := machine.setting "domain"
  role := role

theorem labels_eq (machine : Machine) (role : Role) :
    machine.labels role = identityPairs machine.setting ++ roleLabels role := rfl

theorem roleLabels_plain : ∀ pair ∈ roleLabels role, Query.IsPlain pair.1 ∧ Query.IsPlain pair.2 := by
  cases role <;> decide

theorem labels_plain : ∀ pair ∈ machine.labels role, Query.IsPlain pair.1 ∧ Query.IsPlain pair.2 := by
  have keys : ∀ field ∈ identityFields, Query.IsPlain field.1 := by decide
  rw [labels_eq, List.forall_mem_append]
  refine ⟨fun pair member => ?_, roleLabels_plain⟩
  obtain ⟨field, listed, rfl⟩ := List.mem_map.mp member
  exact ⟨keys field listed, machine.plain field listed⟩

theorem labels_once : ((machine.labels role).map (·.1)).Nodup := by
  have keys : (machine.labels role).map (·.1) =
      ["uuid", "ip", "mac", "domain", "hostname", "serial"] ++ (roleLabels role).map (·.1) :=
    List.map_append
  rw [keys]
  cases role <;> decide

theorem lastValue_labels {key text : String} (member : (key, text) ∈ machine.labels role) :
    Query.lastValue (machine.labels role) key = text :=
  Query.lastValue_of_mem labels_once member

theorem parse_type : Role.parse (Query.lastValue (machine.labels role) "type") = role := by
  by_cases unknown : role = .unknown
  · subst unknown
    have absent : ∀ pair ∈ machine.labels .unknown, pair.1 ≠ "type" := by simp [labels, roleLabels]
    rw [Query.isLast_iff.mp (.inr ⟨rfl, absent⟩)]
    decide +kernel
  · have listed : ("type", role.name) ∈ machine.labels role := by
      refine List.mem_append_right _ ?_
      cases role with
      | unknown => contradiction
      | _ => exact List.mem_singleton_self _
    rw [lastValue_labels listed, Selection.parse_name]

theorem ofPairs_labels (machine : Machine) (role : Role) :
    Selection.ofPairs (machine.labels role) = machine.selection role := by
  simp only [Selection.ofPairs, selection, Selection.mk.injEq]
  refine ⟨?_, ?_, ?_, ?_, ?_, ?_, parse_type⟩ <;> exact lastValue_labels (by simp [labels])

def query (machine : Machine) (role : Role) : List Char :=
  ['&'].intercalate ((machine.labels role).map Query.plainField)

theorem reads_query : Query.Reads (Text.encode (machine.query role)) (machine.labels role) :=
  Query.reads_plain labels_plain

theorem ofQuery_query (machine : Machine) (role : Role) :
    Selection.ofQuery (Text.encode (machine.query role)) = .ok (machine.selection role) :=
  Selection.ofQuery_eq_ok_iff.mpr ⟨_, reads_query, (ofPairs_labels machine role).symm⟩

theorem labels?_query (machine : Machine) (role : Role) :
    Query.labels? (Text.encode (machine.query role)) = some (machine.labels role) := by
  rw [Query.labels?_of_pairs (Query.pairs_eq_ok_iff.mpr reads_query),
    Query.firstOfEach_of_nodup labels_once]

theorem ofChars_query (machine : Machine) (role : Role) :
    Selection.ofChars (machine.query role) = .ok (machine.selection role) := by
  rw [Selection.ofChars, ← Query.pairs_encode]
  exact ofQuery_query machine role

theorem normalizeMac_mac (machine : Machine) (role : Role) :
    ((machine.labels role).lookup "mac").map Profile.normalizeMac =
      some (Profile.colonForm machine.address) := by
  have listed : ("mac", machine.setting "mac:hexhyp") ∈ machine.labels role := by simp [labels]
  rw [lookup_of_mem labels_once listed, Option.map_some,
    Profile.normalizeMac_of_hyphenated machine.six machine.hyphens]

end Machine

def roleTail : Role → String
  | .unknown => ""
  | role => "&type=" ++ role.name

theorem roleTail_plain (role : Role) : '$' ∉ (roleTail role).toList := by
  cases role <;> decide

theorem toList_query (machine : Machine) (role : Role) :
    (identityQuery machine.setting).toList ++ (roleTail role).toList = machine.query role := by
  have identified : (identityPairs machine.setting).map Query.plainField ≠ [] := List.cons_ne_nil _ _
  have typed {role : Role} (label : roleLabels role = [("type", role.name)])
      (added : (roleTail role).toList = '&' :: Query.plainField ("type", role.name)) :
      (identityQuery machine.setting).toList ++ (roleTail role).toList = machine.query role := by
    rw [Machine.query, Machine.labels_eq, label, List.map_append, List.map_singleton,
      Text.intercalate_concat identified, added, toList_identityQuery]
  cases role with
  | unknown =>
    rw [Machine.query, Machine.labels_eq, toList_identityQuery]
    exact (List.append_nil _).trans (congrArg _ (congrArg _ (List.append_nil _).symm))
  | init => exact typed rfl (by decide)
  | controlplane => exact typed rfl (by decide)
  | worker => exact typed rfl (by decide)

/-- What the server reads out of a query, as a selection from bytes or from text, and as labels. -/
structure Identifies (machine : Machine) (role : Role) (query : List Char) : Prop where
  bytes : Selection.ofQuery (Text.encode query) = .ok (machine.selection role)
  text : Selection.ofChars query = .ok (machine.selection role)
  labels : Query.labels? (Text.encode query) = some (machine.labels role)
  mac : ((machine.labels role).lookup "mac").map Profile.normalizeMac =
    some (Profile.colonForm machine.address)

theorem identifies_query (machine : Machine) (role : Role) :
    Identifies machine role (machine.query role) where
  bytes := machine.ofQuery_query role
  text := machine.ofChars_query role
  labels := machine.labels?_query role
  mac := machine.normalizeMac_mac role

/-- With the settings of the machine in it, the URL identifies the machine behind its question mark. -/
def Leads (machine : Machine) (role : Role) (url : List Char) : Prop :=
  ∃ before query, expand machine.setting url = before ++ '?' :: query ∧ '?' ∉ before ∧
    Identifies machine role query

theorem leads_of_opens {front : String} (machine : Machine) (role : Role) (opens : Opens front) :
    Leads machine role (urlText setting front (roleTail role)).toList := by
  have expanded : expand machine.setting _ = _ := expand_urlText opens (roleTail_plain role)
  obtain ⟨before, clear, same⟩ := opens
  refine ⟨before.toList, machine.query role, ?_, fun mark => (clear_iff.mp clear _ mark).2.2 rfl,
    identifies_query machine role⟩
  rw [expanded, urlText, String.toList_append, String.toList_append, same, ← toList_query,
    List.append_assoc, List.append_assoc, List.singleton_append]

/-- The menu chains once for each role, right under its label, to a URL that identifies the machine in
that role, and the entry script chains once, to one that identifies it in none. Addresses and ports
are among the texts that may stand in the URLs of a menu. -/
theorem scripts_identify_machine (machine : Machine) :
    (∀ (ip : V4) (port : Int), Clear ip.text ∧ Clear (toString port)) ∧
    (∀ ip port, Clear ip → Clear port →
      List.Forall₂ (fun role line => line.1 = (":" ++ role.name).toList ∧ Leads machine role line.2)
        [.init, .controlplane, .worker] (chains (menu ip port))) ∧
    List.Forall₂ (fun role line => Leads machine role line.2) [.unknown] (chains chain) := by
  refine ⟨fun ip port => ⟨clear_v4 ip, clear_port port⟩, fun ip port address number => ?_, ?_⟩
  · have named : roles = [Role.init, .controlplane, .worker].map Role.name := rfl
    have tails : ∀ role ∈ [Role.init, .controlplane, .worker], roleTail role = "&type=" ++ role.name := by
      decide
    rw [chains_menu address number, named, List.map_map]
    refine List.forall₂_map_right_iff.mpr (List.forall₂_same.mpr fun role listed => ⟨rfl, ?_⟩)
    have leads := leads_of_opens machine role (opens_roleFront address number)
    rwa [tails role listed, ← roleUrl_eq] at leads
  · rw [chains_chain]
    exact .cons (leads_of_opens machine .unknown opens_entry) .nil

def rackMachine : Machine where
  setting
    | "uuid" => "4c4c4544-0042"
    | "ip" => "10.0.0.5"
    | "mac:hexhyp" => "52-54-00-AA-bb-cC"
    | "hostname" => "node_1~a"
    | "serial" => "X:7"
    | _ => ""
  address := [0x52, 0x54, 0x00, 0xaa, 0xbb, 0xcc]
  six := rfl
  hyphens := ⟨[['5', '2'], ['5', '4'], ['0', '0'], ['A', 'A'], ['b', 'b'], ['c', 'C']],
    .cons ⟨_, _, rfl, by decide, by decide⟩ (.cons ⟨_, _, rfl, by decide, by decide⟩
      (.cons ⟨_, _, rfl, by decide, by decide⟩ (.cons ⟨_, _, rfl, by decide, by decide⟩
        (.cons ⟨_, _, rfl, by decide, by decide⟩ (.cons ⟨_, _, rfl, by decide, by decide⟩ .nil))))),
    by decide⟩
  plain := by decide

theorem scripts_identify_machine_of_rack :
    Clear "192.168.123.1" ∧ Clear "8080" ∧
      (chains (menu "192.168.123.1" "8080")).length = 3 ∧
      ∃ url, (":init".toList, url) ∈ chains (menu "192.168.123.1" "8080") ∧
        Leads rackMachine .init url := by
  have address : Clear "192.168.123.1" := by decide
  have number : Clear "8080" := by decide
  have each := (scripts_identify_machine rackMachine).2.1 _ _ address number
  refine ⟨address, number, each.length_eq.symm, ?_⟩
  generalize chains (menu "192.168.123.1" "8080") = found at each
  cases each with
  | @cons _ line _ _ first _ =>
    obtain ⟨label, leads⟩ := first
    refine ⟨line.2, ?_, leads⟩
    have initial : ":init".toList = line.1 := label.symm
    rw [initial]
    exact List.mem_cons_self

end Netboot.Script
