import OlapClient.Text.Blank
import OlapClient.Text.Cut

/-!
# Cookies

A `Cookie` is a name and a value that a provider wants back with each later request.  Cookies
are kept in the order in which their names first came; a cookie with a name that is kept
already takes its place.
-/

namespace OlapClient.Http

open OlapClient.Text

/-- A name and a value. -/
structure Cookie where
  name : String
  value : String
  deriving DecidableEq, Repr

namespace Cookie

/-- A character of a name. -/
def isNameCharacter (c : Char) : Bool :=
  c.isAlphanum || "!#$%&'*+-.^_\x60|~".toList.contains c

/-- A character of a value. -/
def isValueCharacter (c : Char) : Bool :=
  0x21 ≤ c.toNat && c.toNat ≤ 0x7E && !"\",;\\".toList.contains c

/-- The cookie that a header sets, without its attributes. -/
def read? (header : String) : Option Cookie := do
  let pair := header.toList.takeWhile (· ≠ ';')
  let (name, _, value) ← cut (· == '=') pair
  let name := trim name
  let value := trim value
  if name.isEmpty || !name.all isNameCharacter || !value.all isValueCharacter then none
  else return ⟨String.ofList name, String.ofList value⟩

/-- A cookie as it is sent back. -/
def text (c : Cookie) : String :=
  c.name ++ "=" ++ c.value

end Cookie

/-- The cookies with one more. -/
def keepCookie : List Cookie → Cookie → List Cookie
  | [], cookie => [cookie]
  | kept :: rest, cookie =>
    if kept.name = cookie.name then cookie :: rest else kept :: keepCookie rest cookie

/-- The header that sends cookies back; none where there are no cookies. -/
def cookieHeader? (cookies : List Cookie) : Option String :=
  if cookies.isEmpty then none else some (String.intercalate ";" (cookies.map Cookie.text))

end OlapClient.Http
