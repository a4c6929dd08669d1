import UiStream.Url.Domain

/-!
# URLs

`isUrl` says whether a text is an absolute URL.  Blanks at its ends do not count, nor do tabs and
line breaks anywhere.  What makes a text no URL is that it has no scheme, or that its host, or the
user in front of it or the service number behind it, cannot be one; the path, the query and the
fragment may hold anything.
-/

namespace UiStream.Url

/-- Whether a character separates the parts of a path. -/
def isSlash (c : Char) : Bool := c == '/' || c == '\\'

/-- Whether a character ends the authority of a URL.  Under the schemes of the web a backslash is a
slash. -/
def endsAuthority (web : Bool) (c : Char) : Bool :=
  c == '/' || c == '?' || c == '#' || (web && c == '\\')

/-- A host in front of its service number: up to the first colon outside brackets. -/
def splitHost (inBrackets : Bool) : List Char → List Char × List Char
  | [] => ([], [])
  | c :: rest =>
    if c == ':' && !inBrackets then ([], c :: rest)
    else
      let (host, service) := splitHost (if c == '[' then true else inBrackets && c != ']') rest
      (c :: host, service)

/-- Whether a text is empty, or a colon with a service number, whose digits may be left out. -/
def isService : List Char → Bool
  | [] => true
  | _ :: digits =>
    match numberOf? 10 (digits.takeWhile (· != '\\')) with
    | some n => n < 0x10000
    | none => false

/-- Whether a text begins with the authority of a URL: a host, perhaps behind a user, perhaps in
front of a service number. -/
def hasAuthority (web : Bool) (text : List Char) : Bool :=
  let authority := text.takeWhile (!endsAuthority web ·)
  let server := (authority.reverse.takeWhile (· != '@')).reverse
  let user := authority.take (authority.length - server.length - 1)
  let (host, service) := splitHost false server
  if host.isEmpty then
    !web && service.isEmpty && (user.isEmpty || user == [':']) &&
      (authority != ['@'] || authority == text)
  else (if web then isHost host else isOpaqueHost host) && isService service

/-- Whether a text is the letter of a drive. -/
def isDrive : List Char → Bool
  | [letter, c] => letter.isAlpha && (c == ':' || c == '|')
  | _ => false

/-- Whether a text can follow the scheme of files.  Behind two slashes there may be a host. -/
def isFilePart : List Char → Bool
  | a :: b :: rest =>
    let host := rest.takeWhile (!endsAuthority true ·)
    !(isSlash a && isSlash b) || host.isEmpty || isDrive host || isHost host
  | _ => true

/-- The schemes of the web, under which a URL has a host. -/
def webSchemes : List String := ["http", "https", "ws", "wss", "ftp"]

/-- A text without its scheme, which a letter begins and a colon ends. -/
def splitScheme? (text : List Char) : Option (String × List Char) :=
  let scheme := text.takeWhile fun c => c.isAlphanum || c == '+' || c == '-' || c == '.'
  match scheme, text.drop scheme.length with
  | c :: _, ':' :: rest =>
    if c.isAlpha then some (String.ofList (scheme.map Char.toLower), rest) else none
  | _, _ => none

/-- A text without the characters that do not count. -/
def plain (text : List Char) : List Char :=
  let trimmed := ((text.dropWhile (· ≤ ' ')).reverse.dropWhile (· ≤ ' ')).reverse
  trimmed.filter fun c => c != '\t' && c != '\n' && c != '\r'

/-- Whether a text is an absolute URL. -/
def isUrl (text : List Char) : Bool :=
  match splitScheme? (plain text) with
  | none => false
  | some ("file", rest) => isFilePart rest
  | some (scheme, rest) =>
    if webSchemes.contains scheme then hasAuthority true (rest.dropWhile isSlash)
    else
      match rest with
      | '/' :: '/' :: rest => hasAuthority false rest
      | _ => true

end UiStream.Url
