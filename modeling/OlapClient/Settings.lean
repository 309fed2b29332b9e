import OlapClient.Failure
import OlapClient.Protocol.Request
import OlapClient.Url.Basic

/-!
# Settings of a connection

`Settings` says where a provider is and how to talk to it.  `Settings.read` reads the settings
that a URL gives: the pairs of its query whose names are those of settings, with the user name
and the password before its host.  What remains of the URL is the address of the provider.
-/

namespace OlapClient

open OlapClient.Number
open OlapClient.Protocol

/-- Where a provider is and how to talk to it. -/
structure Settings where
  /-- The address of the provider. -/
  url : String
  /-- The user to present to the provider; empty for none. -/
  user : String
  password : Option String
  /-- The properties that are sent with each request. -/
  properties : Properties
  /-- The number of seconds that one exchange may take. -/
  timeout : Option (Bounded .nat64)
  /-- Cookies of the provider are sent back to it. -/
  cookies : Bool
  deriving DecidableEq, Repr

namespace Settings

/-- The settings where nothing else is said. -/
def standard : Settings :=
  ⟨"http://localhost:8080/xmla", "", none, .none, none, true⟩

/-- A setting that the query of a URL can give. -/
inductive Key where
  | catalog
  | dataSourceInfo
  | roles
  | timeout
  | cookies
  deriving DecidableEq, Repr

/-- The names of settings in a query. -/
def Key.names : List (List Char × Key) :=
  [("catalog".toList, .catalog), ("data_source".toList, .dataSourceInfo),
    ("data_source_info".toList, .dataSourceInfo), ("roles".toList, .roles),
    ("timeout".toList, .timeout), ("cookies".toList, .cookies)]

/-- The setting with a name. -/
def Key.ofName? (name : List Char) : Option Key :=
  Key.names.lookup name

/-- The flag that a text names. -/
def flag? (text : String) : Option Bool :=
  if text = "true" then some true else if text = "false" then some false else none

/-- The settings with one of them as a text gives it. -/
def put (s : Settings) (key : Key) (text : String) : Except SettingFault Settings :=
  match key with
  | .catalog => .ok { s with properties := { s.properties with catalog := some text } }
  | .dataSourceInfo =>
    .ok { s with properties := { s.properties with dataSourceInfo := some text } }
  | .roles => .ok { s with properties := { s.properties with roles := some text } }
  | .timeout =>
    match readBounded 10 .nat64 text.toList with
    | .ok seconds => .ok { s with timeout := some seconds }
    | .error fault => .error (.timeout text fault)
  | .cookies =>
    match flag? text with
    | some cookies => .ok { s with cookies := cookies }
    | none => .error (.cookies text)

/-- The settings among the pairs of a query, with their texts. -/
def given (pairs : List (List Char × List Char)) : List (Key × String) :=
  pairs.filterMap fun (name, value) => (Key.ofName? name).map (·, String.ofList value)

/-- The pairs of a query that give no setting. -/
def others (pairs : List (List Char × List Char)) : List (List Char × List Char) :=
  pairs.filter fun (name, _) => (Key.ofName? name).isNone

/-- The settings with each that is given put in turn, so that the last one counts. -/
def putAll (s : Settings) (given : List (Key × String)) : Except SettingFault Settings :=
  given.foldlM (fun s (key, text) => s.put key text) s

/-- The schemes of addresses that a provider can have. -/
def schemes : List (List Char) :=
  ["http".toList, "https".toList]

/-- The address that remains of a URL when the settings are taken from it. -/
def addressOf (url : Url) : Url :=
  url.withoutUserinfo.withQueryPairs (others url.queryPairs)

/-- The settings that a URL gives.  The user name and the password stay percent encoded. -/
def ofUrl (url : Url) : Except SettingFault Settings :=
  if schemes.contains url.scheme then
    putAll
      { standard with
        url := (addressOf url).text,
        user := String.ofList url.username,
        password := url.password.map String.ofList }
      (given url.queryPairs)
  else .error (.scheme (String.ofList url.scheme))

/-- Reads the settings that the text of a URL gives. -/
def read (text : String) : Except Failure Settings :=
  match Url.read text with
  | .ok url => (ofUrl url).mapError .badSetting
  | .error fault => .error (.badSetting (.url fault))

end Settings

end OlapClient
