import Netboot.Dns.Name

/-! The words of a line in a zone file. Parentheses let it run over line breaks, a semicolon starts a
comment, and quotes hold blanks together. -/

set_option autoImplicit false

namespace Netboot.Dns.ZoneText

inductive Fault where
  | malformed
  | unexpectedEnd
  | badTtl
  | name (fault : Name.Fault)
  | infiniteAltitude
  | noAltitude
  | altitudeRange
  deriving DecidableEq, Repr

/-- A token; an escape in it is not yet resolved. A quoted one is glued when nothing but marks
separates it from the word before. The last of a list is `stop` or a fault. -/
inductive Token where
  | word (text : List Char)
  | quoted (glued : Bool) (text : List Char)
  | stop
  | fault (cause : Fault)
  deriving DecidableEq, Repr

inductive Place where
  | between
  | word (done : List Char)
  | wordEscape (done : List Char)
  | quoted (done : List Char)
  | quotedEscape (done : List Char)
  | comment
  deriving DecidableEq, Repr

structure Setting where
  depth : Nat := 0
  glued : Bool := false
  deriving DecidableEq, Repr

def isLineBreak (c : Char) : Bool := c == '\n' || c == '\r'

def isSpace (c : Char) : Bool := c == ' ' || c == '\t' || isLineBreak c

def isDelimiter (c : Char) : Bool := isSpace c || ";()\"".toList.contains c

def enter (setting : Setting) (c : Char) : Except Token (Setting × Place) :=
  let { depth, glued } := setting
  match c with
  | '(' => .ok (⟨depth + 1, glued⟩, .between)
  | ')' => if depth = 0 then .error (.fault .malformed) else .ok (⟨depth - 1, glued⟩, .between)
  | '"' => .ok (setting, .quoted [])
  | ';' => .ok (setting, .comment)
  | '\\' => .ok (setting, .wordEscape ['\\'])
  | c =>
    if isLineBreak c && depth == 0 then .error .stop
    else if isSpace c then .ok (setting, .between)
    else .ok (setting, .word [c])

def Setting.finish (setting : Setting) : Token :=
  if setting.depth = 0 then .stop else .fault .malformed

def lex (setting : Setting) : Place → List Char → List Token
  | .between, [] => [setting.finish]
  | .between, c :: rest =>
    match enter setting c with
    | .ok (setting, place) => lex setting place rest
    | .error last => [last]
  | .word done, [] => [.word done.reverse, setting.finish]
  | .word done, c :: rest =>
    if c = '\\' then lex setting (.wordEscape (c :: done)) rest
    else if isDelimiter c then
      .word done.reverse :: match enter { setting with glued := !isSpace c } c with
        | .ok (setting, place) => lex setting place rest
        | .error last => [last]
    else lex setting (.word (c :: done)) rest
  | .wordEscape done, c :: rest =>
    if isLineBreak c then [.fault .unexpectedEnd] else lex setting (.word (c :: done)) rest
  | .quoted done, c :: rest =>
    if c = '"' then .quoted setting.glued done.reverse :: lex setting .between rest
    else if c = '\n' then [.fault .malformed]
    else if c = '\\' then lex setting (.quotedEscape (c :: done)) rest
    else lex setting (.quoted (c :: done)) rest
  | .quotedEscape done, c :: rest => lex setting (.quoted (c :: done)) rest
  | .wordEscape _, [] | .quoted _, [] | .quotedEscape _, [] => [.fault .unexpectedEnd]
  | .comment, [] => [setting.finish]
  | .comment, c :: rest =>
    if !isLineBreak c then lex setting .comment rest
    else if setting.depth = 0 then [.stop]
    else lex setting .between rest

def tokens (text : String) : List Token := lex {} .between text.toList

/-- Resolve escapes: a backslash before three digits stands for the unit of that value, and before
any other character for that character. -/
def unescape {α : Type} (unit : Nat → List α) (char : Char → List α) :
    List Char → Except Fault (List α)
  | [] => .ok []
  | ['\\'] => .error .unexpectedEnd
  | '\\' :: a :: rest =>
    if Text.isAsciiDigit a then
      match rest with
      | b :: c :: rest =>
        let n := Text.asciiValue [a, b, c]
        if Text.isAsciiDigit b && Text.isAsciiDigit c && n < 256 then
          (unescape unit char rest).map (unit n ++ ·)
        else .error .malformed
      | _ => .error .unexpectedEnd
    else (unescape unit char rest).map (char a ++ ·)
  | c :: rest => (unescape unit char rest).map (char c ++ ·)
termination_by text => text.length

def unescapeChars : List Char → Except Fault (List Char) :=
  unescape (fun n => [Char.ofNat n]) (fun c => [c])

def unescapeBytes : List Char → Except Fault Bytes :=
  unescape (fun n => [UInt8.ofNat n]) Text.encodeChar

end Netboot.Dns.ZoneText
