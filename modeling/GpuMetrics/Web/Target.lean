import GpuMetrics.Text.Blank
import GpuMetrics.Text.Whole
import GpuMetrics.Web.HostLiteral

/-!
# Targets of requests

The first line of a request has three words: a method, a target and a version, which the oldest
requests leave out. It is read as `parse_request` reads it, for a handler that has a `do_GET` and no
other method. The path of a target ends before a question mark or a number sign. A target may name a
scheme and a host in front of the path, which `urlsplit` takes off; slashes that a target begins
with count as one.
-/

namespace GpuMetrics.Web

/-- The words of a text. `word` is what of the word in hand has been read, backwards. -/
def wordsFrom (word : List Char) : List Char → List (List Char)
  | [] => if word.isEmpty then [] else [word.reverse]
  | c :: r =>
    if Text.isBlank c then
      if word.isEmpty then wordsFrom [] r else word.reverse :: wordsFrom [] r
    else wordsFrom (c :: word) r

/-- The words of a text, with blanks between them. -/
def wordsOf (s : List Char) : List (List Char) := wordsFrom [] s

/-- The only method that is served. -/
def servedMethod : String := "GET"

/-- The request for a target. -/
def requestLine (target : String) : String := servedMethod ++ " " ++ target ++ " HTTP/1.0"

/-- The line of a request: what stands in front of the first line feed, without the carriage returns
at its end. -/
def lineOf (request : String) : String :=
  let line := request.toList.takeWhile (· ≠ '\n')
  String.ofList ((line.reverse.dropWhile (· = '\r')).reverse)

/-- The most bytes of a line with its end. -/
def mostLineBytes : Nat := 0x10000

/-- Whether the line of a request is too long. A request that holds no line feed is sent with a line
end of two bytes behind it; every character is one byte. -/
def isTooLong (request : String) : Bool :=
  match Text.cutFirst '\n' request.toList with
  | (line, some _) => line.length + 1 > mostLineBytes
  | (line, none) => line.length + 2 > mostLineBytes

/-- Why a request names no target that is served. -/
inductive LineFault
  | /-- The line has no words. -/
    blank
  | /-- The line is too long. -/
    tooLong
  | /-- The last of three words or more is no version. -/
    noVersion (word : String)
  | /-- The version is one that is not served. -/
    futureVersion (number : String)
  | /-- The line has too few words or too many. -/
    badSyntax (line : String)
  | /-- The line has no version, and a method that such a line cannot have. -/
    oldMethod (method : String)
  | /-- The method is not served. -/
    noMethod (method : String)
  deriving DecidableEq, Repr

/-- What a version begins with. -/
def versionStem : String := "HTTP/"

/-- The most digits of a number in a version. -/
def mostVersionDigits : Nat := 10

/-- A number in a version: a few digits, and nothing else. -/
def versionNumber? (s : List Char) : Option Int :=
  if s.isEmpty || !s.all Text.isDigitLike || s.length > mostVersionDigits then none
  else (Text.Whole.read 10 s).toOption

/-- The two numbers of a version. -/
def versionOf? (word : List Char) : Option (Int × Int) :=
  if !versionStem.toList.isPrefixOf word then none
  else match Text.pieces '.' (word.drop versionStem.length) with
    | [major, minor] =>
      match versionNumber? major, versionNumber? minor with
      | some a, some b => some (a, b)
      | _, _ => none
    | _ => none

/-- Accepts the version that a line ends with. -/
def checkVersion (word : List Char) : Except LineFault Unit :=
  match versionOf? word with
  | none => .error (.noVersion (String.ofList word))
  | some (major, minor) =>
    if major > 2 || (major = 2 && minor ≥ 0) then
      .error (.futureVersion (String.ofList (word.drop versionStem.length)))
    else .ok ()

/-- Accepts the method of a line, which has the fault if it is another one than is served. -/
def checkMethod (fault : String → LineFault) (method : List Char) : Except LineFault Unit :=
  let method := String.ofList method
  if method = servedMethod then .ok () else .error (fault method)

/-- The target of a line, if the line has two or three words, the first of them is the method that
is served, and the third is a version. -/
def targetOfLine (line : String) : Except LineFault (List Char) :=
  match wordsOf line.toList with
  | [] => .error .blank
  | [_] => .error (.badSyntax line)
  | [method, target] => (checkMethod .oldMethod method).map fun _ => target
  | [method, target, version] =>
    (checkVersion version).bind fun _ => (checkMethod .noMethod method).map fun _ => target
  | _ :: _ :: _ :: rest =>
    (checkVersion (rest.getLast?.getD [])).bind fun _ => .error (.badSyntax line)

/-- The target of a request. -/
def targetOf (request : String) : Except LineFault (List Char) :=
  if isTooLong request then .error .tooLong else targetOfLine (lineOf request)

/-- The slashes that a target begins with count as one. -/
def withOneSlash (s : List Char) : List Char :=
  match s with
  | '/' :: '/' :: r => '/' :: r.dropWhile (· = '/')
  | s => s

/-- A character of the name of a scheme. -/
def isSchemeChar (c : Char) : Bool := c.isAlphanum || c = '+' || c = '-' || c = '.'

/-- A target without the scheme in front of it, if it has one. -/
def withoutScheme (s : List Char) : List Char :=
  match Text.cutFirst ':' s with
  | (scheme, some rest) =>
    if (scheme.head?.map Char.isAlpha).getD false && scheme.all isSchemeChar then rest else s
  | (_, none) => s

/-- A character that ends the authority part of a target. -/
def endsAuthority (c : Char) : Bool := c = '/' || c = '?' || c = '#'

/-- A target without the authority part in front of it, if it has one. -/
def withoutAuthority (s : List Char) : Except HostFault (List Char) :=
  match s with
  | '/' :: '/' :: r =>
    (checkAuthority (r.takeWhile (!endsAuthority ·))).map fun _ => r.dropWhile (!endsAuthority ·)
  | s => .ok s

/-- The path of a target. -/
def pathOf (target : List Char) : Except HostFault String :=
  let s := (withOneSlash target).dropWhile fun c => c.toNat ≤ 32
  (withoutAuthority (withoutScheme s)).map fun s =>
    String.ofList (s.takeWhile fun c => c ≠ '?' && c ≠ '#')

end GpuMetrics.Web
