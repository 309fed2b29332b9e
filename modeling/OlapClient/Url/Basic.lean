import OlapClient.Number.Power
import OlapClient.Url.Host

/-!
# URLs

A `Url` is an absolute URL taken apart.  `Url.read` reads one by the rules of the URL standard,
which give equivalent spellings one form: schemes and hosts in small letters, no port where it is
the one of the scheme, no steps `.` and `..` in a path, and percent encoding where a part needs
it.  `Url.text` writes the parts back.
-/

namespace OlapClient

open OlapClient.Text
open OlapClient.Url

/-- An absolute URL taken apart.  Its user name, password, path, query and fragment are percent
encoded. -/
structure Url where
  scheme : List Char
  username : List Char
  password : Option (List Char)
  host : Option (List Char)
  port : Option Nat
  path : List Char
  query : Option (List Char)
  fragment : Option (List Char)
  deriving DecidableEq, Repr

namespace Url

/-! ### Schemes -/

/-- The port that a special scheme has unless another is written; no port for files. -/
def specialSchemes : List (List Char × Option Nat) :=
  [("http".toList, some 80), ("https".toList, some 443), ("ws".toList, some 80),
    ("wss".toList, some 443), ("ftp".toList, some 21), ("file".toList, none)]

/-- The scheme of local files. -/
def fileScheme : List Char := "file".toList

/-- The scheme has hosts and paths of its own rules. -/
def isSpecial (scheme : List Char) : Bool :=
  (specialSchemes.lookup scheme).isSome

/-- The port of a scheme. -/
def defaultPort (scheme : List Char) : Option Nat :=
  (specialSchemes.lookup scheme).join

/-- A character within a scheme. -/
def isSchemeCharacter (c : Char) : Bool :=
  c.isAlphanum || c == '+' || c == '-' || c == '.'

/-- A scheme in small letters, and what follows its colon. -/
def readScheme (cs : List Char) : Option (List Char × List Char) :=
  if cs.head?.any Char.isAlpha then
    match cs.dropWhile isSchemeCharacter with
    | ':' :: rest => some ((cs.takeWhile isSchemeCharacter).map Char.toLower, rest)
    | _ => none
  else none

/-! ### Authorities -/

/-- What stands before the first character that satisfies `stop`, and what stands after it if
there is one. -/
def part (stop : Char → Bool) (cs : List Char) : List Char × Option (List Char) :=
  match cut stop cs with
  | some (before, _, after) => (before, some after)
  | none => (cs, none)

/-- What stands before and after the last at sign. -/
def cutUserinfo (cs : List Char) : Option (List Char × List Char) :=
  (cut (· == '@') cs.reverse).map fun (after, _, before) => (before.reverse, after.reverse)

/-- A user name and a password, percent encoded.  An empty password is none. -/
def readUserinfo (cs : List Char) : List Char × Option (List Char) :=
  let (username, password) := part (· == ':') cs
  (percentEncode specialInUserinfo username,
    (password.filter (!·.isEmpty)).map (percentEncode specialInUserinfo))

/-- What stands before and after the first colon outside brackets. -/
def cutPort (bracketed : Bool) : List Char → List Char × Option (List Char)
  | [] => ([], none)
  | c :: rest =>
    if c = ':' ∧ ¬bracketed then ([], some rest)
    else
      let (host, port) := cutPort (if c = '[' then true else if c = ']' then false else bracketed) rest
      (c :: host, port)

/-- The port that digits name, unless there are none, and what follows them: nothing, or a
backslash with the beginning of a path. -/
def readPort (cs : List Char) : Except UrlFault (Option Nat × List Char) :=
  let digits := cs.takeWhile Char.isDigit
  let rest := cs.dropWhile Char.isDigit
  let port := (valueIn 10 digits).getD 0
  if 2 ^ 16 ≤ port ∨ ¬rest.head?.all (· = '\\') then .error .invalidPort
  else .ok (if digits.isEmpty then none else some port, rest)

/-- The host and the port of an authority, and what follows them.  The port of the scheme is not
kept. -/
def readHostAndPort (scheme cs : List Char) :
    Except UrlFault (List Char × Option Nat × List Char) := do
  let (host, port) := cutPort false cs
  if host.isEmpty then
    if isSpecial scheme || port.isSome then .error .emptyHost else return ([], none, [])
  else
    let host ← if isSpecial scheme then readHost host else readOpaqueHost host
    let (port, rest) ← readPort (port.getD [])
    return (host, port.filter fun port => some port ≠ defaultPort scheme, rest)

/-- A URL of which the scheme, the authority, the query and the fragment are known, and what of
the authority belongs to its path.  `more` says whether anything follows the authority. -/
def readAuthority (scheme cs : List Char) (more : Bool) : Except UrlFault (Url × List Char) := do
  let (userinfo, rest) := (cutUserinfo cs).getD ([], cs)
  let (username, password) := readUserinfo userinfo
  if (cutUserinfo cs).isSome && userinfo.isEmpty && rest.isEmpty && more then .error .emptyHost
  let (host, port, rest) ← readHostAndPort scheme rest
  if host = [] ∧ (¬username.isEmpty ∨ password.isSome) then .error .emptyHost
  return (⟨scheme, username, password, some host, port, [], none, none⟩, rest)

/-! ### Paths -/

/-- A character that separates the steps of a path. -/
def separatesSteps (special : Bool) (c : Char) : Bool :=
  c == '/' || (special && c == '\\')

/-- A step that stays where it is. -/
def staysPut (step : List Char) : Bool :=
  [".", "%2e"].contains (String.ofList (step.map Char.toLower))

/-- A step that leads back. -/
def leadsBack (step : List Char) : Bool :=
  ["..", ".%2e", "%2e.", "%2e%2e"].contains (String.ofList (step.map Char.toLower))

/-- A step that names a drive: a letter and a colon or a vertical bar. -/
def isDrive (step : List Char) : Bool :=
  match step with
  | [letter, mark] => letter.isAlpha && (mark == ':' || mark == '|')
  | _ => false

/-- A step with a drive written with a colon. -/
def plainDrive (step : List Char) : List Char :=
  if isDrive step then step.take 1 ++ [':'] else step

/-- The steps without the latest one, unless it names a drive. -/
def goBack : List (List Char) → List (List Char)
  | [] => []
  | step :: gone => if isDrive step then step :: gone else gone

/-- The steps with one more, which in a file's path may be a drive. -/
def goOn (file : Bool) (gone : List (List Char)) (step : List Char) : List (List Char) :=
  (if file && gone.isEmpty then plainDrive step else step) :: gone

/-- Follows the steps of a path from those gone so far, latest first.  After a last step that
stays or leads back comes an empty one. -/
def follow (file : Bool) (gone : List (List Char)) : List (List Char) → List (List Char)
  | [] => gone
  | step :: rest =>
    let gone :=
      if leadsBack step then goBack gone
      else if staysPut step then gone
      else goOn file gone step
    follow file
      (if rest.isEmpty && (leadsBack step || staysPut step) then [] :: gone else gone) rest

/-- The path of steps, each after a slash. -/
def stepsText (steps : List (List Char)) : List Char :=
  steps.flatMap fun step => '/' :: step

/-- A text without the separator that it may begin with. -/
def dropSeparator (special : Bool) (cs : List Char) : List Char :=
  if cs.head?.any (separatesSteps special) then cs.drop 1 else cs

/-- The steps that a path leads along, in percent encoding. -/
def readSteps (special file : Bool) (cs : List Char) : List (List Char) :=
  let marked := cs.map fun c => if separatesSteps special c then '/' else c
  (follow file [] ((splitBy '/' marked).map (percentEncode specialInPath))).reverse

/-- Reads a path.  A path of a special scheme has at least one step. -/
def readPath (special : Bool) (cs : List Char) : List Char :=
  stepsText (readSteps special false (dropSeparator special cs))

/-- The path of the steps to a file.  It begins with a single slash. -/
def fileStepsText (steps : List (List Char)) : List Char :=
  '/' :: (stepsText steps).dropWhile (· == '/')

/-! ### Files -/

/-- The host and the path of a file, from what follows the scheme.  A drive has no host, and
neither has the machine itself. -/
def readFile (cs : List Char) : Except UrlFault (List Char × List Char) := do
  let isSlash := separatesSteps true
  let steps (cs : List Char) := readSteps true true cs
  if 2 ≤ cs.length ∧ (cs.take 2).all isSlash then
    let rest := cs.drop 2
    let host := rest.takeWhile (!isSlash ·)
    if isDrive host then return ([], fileStepsText (steps rest))
    else
      let path := rest.dropWhile (!isSlash ·)
      let host ← if host.isEmpty then pure [] else readHost host
      if host = [] ∨ host = "localhost".toList then return ([], fileStepsText (steps path))
      else
        let gone := steps (dropSeparator true path)
        return (if gone.head?.any isDrive then [] else host, fileStepsText gone)
  else return ([], fileStepsText (steps (dropSeparator true cs)))

/-! ### Whole URLs -/

/-- A character that is passed over at the ends of a URL. -/
def isPadding (c : Char) : Bool :=
  c.toNat ≤ 0x20

/-- A URL without padding, tabs and line ends. -/
def strip (cs : List Char) : List Char :=
  (((cs.dropWhile isPadding).reverse.dropWhile isPadding).reverse).filter
    fun c => c ≠ '\t' ∧ c ≠ '\n' ∧ c ≠ '\r'

/-- Reads what follows the scheme up to the query.  `more` says whether a query or a fragment
follows. -/
def readHierarchy (scheme cs : List Char) (more : Bool) : Except UrlFault Url := do
  let special := isSpecial scheme
  let bare : Url := ⟨scheme, [], none, none, none, [], none, none⟩
  let withAuthority (cs : List Char) : Except UrlFault Url := do
    let authority := cs.takeWhile (!separatesSteps special ·)
    let path := cs.dropWhile (!separatesSteps special ·)
    let (url, rest) ← readAuthority scheme authority (more || !path.isEmpty)
    let path := rest ++ path
    return { url with path := if special || !path.isEmpty then readPath special path else [] }
  if scheme = fileScheme then
    let (host, path) ← readFile cs
    return { bare with host := some host, path }
  else if special then withAuthority (cs.dropWhile (separatesSteps special))
  else if "//".toList.isPrefixOf cs then withAuthority (cs.drop 2)
  else if cs.head? = some '/' then return { bare with path := readPath false cs }
  else return { bare with path := percentEncode isControl cs }

/-- Reads an absolute URL. -/
def read (text : String) : Except UrlFault Url := do
  let (beforeFragment, fragment) := part (· == '#') (strip text.toList)
  let (beforeQuery, query) := part (· == '?') beforeFragment
  match readScheme beforeQuery with
  | none => .error .noScheme
  | some (scheme, rest) =>
    let url ← readHierarchy scheme rest (query.isSome || fragment.isSome)
    let specialCharacter (c : Char) : Bool :=
      specialInQuery c || (isSpecial scheme && c == '\'')
    return { url with
      query := query.map (percentEncode specialCharacter),
      fragment := fragment.map (percentEncode specialInFragment) }

/-- The user name and the password, followed by an at sign, where there is one of them. -/
def userinfoText (url : Url) : List Char :=
  if url.username.isEmpty && url.password.isNone then []
  else url.username ++ url.password.elim [] (':' :: ·) ++ ['@']

/-- A URL as text. -/
def text (url : Url) : String :=
  let authority := match url.host with
    | some host =>
      '/' :: '/' :: url.userinfoText ++ host
        ++ url.port.elim [] fun port => ':' :: Number.decimalDigits port
    | none => if "//".toList.isPrefixOf url.path then ['/', '.'] else []
  String.ofList (url.scheme ++ ':' :: authority ++ url.path ++ url.query.elim [] ('?' :: ·)
    ++ url.fragment.elim [] ('#' :: ·))

/-- A URL without user name and password. -/
def withoutUserinfo (url : Url) : Url :=
  { url with username := [], password := none }

/-- The pairs of a query, decoded. -/
def queryPairs (url : Url) : List (List Char × List Char) :=
  url.query.elim [] readForm

/-- A URL with other pairs in its query, and without a query where there are no pairs. -/
def withQueryPairs (url : Url) (pairs : List (List Char × List Char)) : Url :=
  { url with query := if pairs.isEmpty then none else some (formText pairs) }

end Url

end OlapClient
