import Mathlib.Data.List.Induction
import Mathlib.Tactic.Common
import OlapClient.Proofs.Number.Grammar
import OlapClient.Proofs.Results
import OlapClient.Proofs.Url.Host
import OlapClient.Settings

/-!
# Settings and the address that remains

The query of a URL is parted in two: the pairs that give settings, of which the last one of each
counts, and all others, which stay with the address in their order.  Nothing is lost on either
side, and taking the settings from the address that remains takes nothing more from it.
-/

namespace OlapClient.Settings

open OlapClient.Number
open OlapClient.Text
open OlapClient.Url

/-! ### Names of settings -/

/-- The names of a setting in a query. -/
def Key.spellings : Key → List String
  | .catalog => ["catalog"]
  | .dataSourceInfo => ["data_source", "data_source_info"]
  | .roles => ["roles"]
  | .timeout => ["timeout"]
  | .cookies => ["cookies"]

theorem Key.ofName?_eq_some_iff {name : List Char} {key : Key} :
  Key.ofName? name = some key ↔ String.ofList name ∈ key.spellings
  := by
  have listed : ∀ entry ∈ Key.names, String.ofList entry.1 ∈ entry.2.spellings := by decide
  have found : ∀ spelling ∈ key.spellings, Key.ofName? spelling.toList = some key := by
    cases key <;> decide
  constructor
  · intro h
    rw [Key.ofName?, List.lookup_eq_some_iff] at h
    obtain ⟨before, after, whole, -⟩ := h
    apply listed (name, key)
    simp [whole]
  · intro h
    have spelled := found _ h
    rwa [String.toList_ofList] at spelled

/-- The names of all settings. -/
def settingNames : List String :=
  ["catalog", "data_source", "data_source_info", "roles", "timeout", "cookies"]

theorem isNone_ofName?_iff {name : List Char} :
  (Key.ofName? name).isNone ↔ String.ofList name ∉ settingNames
  := by
  have covered : ∀ key : Key, ∀ spelling ∈ key.spellings, spelling ∈ settingNames := by
    rintro (_ | _ | _ | _ | _) <;> decide
  have named : ∀ spelling ∈ settingNames, (Key.ofName? spelling.toList).isSome := by decide
  constructor
  · intro none listed
    have some := named _ listed
    rw [String.toList_ofList] at some
    rw [Option.isNone_iff_eq_none] at none
    rw [none] at some
    cases some
  · intro other
    rw [Option.isNone_iff_eq_none, Option.eq_none_iff_forall_not_mem]
    intro key h
    exact other (covered key _ (Key.ofName?_eq_some_iff.mp h))

/-! ### The last pair of a setting -/

/-- The text that the last pair of a setting gives. -/
def lastText (key : Key) (pairs : List (List Char × List Char)) : Option String :=
  ((pairs.filter fun pair => key.spellings.contains (String.ofList pair.1)).getLast?).map
    fun pair => String.ofList pair.2

theorem lastText_concat
    (key : Key) (pairs : List (List Char × List Char)) (pair : List Char × List Char) :
  lastText key (pairs ++ [pair])
    = if Key.ofName? pair.1 = some key then some (String.ofList pair.2) else lastText key pairs
  := by
  rw [lastText, List.filter_append]
  split
  · rename_i named
    have kept := Key.ofName?_eq_some_iff.mp named
    simp [kept]
  · rename_i other
    rw [Key.ofName?_eq_some_iff] at other
    simp [other, lastText]

/-- The number of seconds that a text gives, if there is one. -/
def TimeoutOf : Option String → Option (Bounded .nat64) → Prop
  | none, seconds => seconds = none
  | some text, seconds => ∃ n, seconds = some n ∧ DenotesIn .nat64 text.toList n.val

/-- The flag that a text gives, if there is one; otherwise it is set. -/
def CookiesOf : Option String → Bool → Prop
  | none, cookies => cookies = true
  | some text, cookies => text = if cookies then "true" else "false"

/-- Settings are what texts give, and the standard where there is none. -/
structure GivenBy (texts : Key → Option String) (s : Settings) : Prop where
  catalog : s.properties.catalog = texts .catalog
  dataSourceInfo : s.properties.dataSourceInfo = texts .dataSourceInfo
  roles : s.properties.roles = texts .roles
  timeout : TimeoutOf (texts .timeout) s.timeout
  cookies : CookiesOf (texts .cookies) s.cookies

/-- The address and who asks are the same. -/
structure SameAddress (s s' : Settings) : Prop where
  url : s'.url = s.url
  user : s'.user = s.user
  password : s'.password = s.password

theorem given_concat (pairs : List (List Char × List Char)) (pair : List Char × List Char) :
  given (pairs ++ [pair])
    = given pairs ++ ((Key.ofName? pair.1).map (·, String.ofList pair.2)).toList
  := by
  rw [given, List.filterMap_append]
  cases found : Key.ofName? pair.1 <;> simp [given, found]

theorem flag?_eq_some_iff {text : String} {cookies : Bool} :
  flag? text = some cookies ↔ text = if cookies then "true" else "false"
  := by
  cases cookies <;> grind [flag?]

theorem GivenBy.put
    {texts : Key → Option String} {s s' : Settings} (h : GivenBy texts s) {key : Key}
    {text : String} (put : s.put key text = .ok s') :
  GivenBy (fun other => if key = other then some text else texts other) s' ∧ SameAddress s s'
  := by
  cases key with
  | catalog =>
    cases put
    exact ⟨⟨rfl, h.dataSourceInfo, h.roles, h.timeout, h.cookies⟩, ⟨rfl, rfl, rfl⟩⟩
  | dataSourceInfo =>
    cases put
    exact ⟨⟨h.catalog, rfl, h.roles, h.timeout, h.cookies⟩, ⟨rfl, rfl, rfl⟩⟩
  | roles =>
    cases put
    exact ⟨⟨h.catalog, h.dataSourceInfo, rfl, h.timeout, h.cookies⟩, ⟨rfl, rfl, rfl⟩⟩
  | timeout =>
    simp only [Settings.put] at put
    split at put
    · rename_i seconds read
      cases put
      have timeout : TimeoutOf (some text) (some seconds) :=
        ⟨seconds, rfl, denotesIn_of_readBounded read⟩
      exact ⟨⟨h.catalog, h.dataSourceInfo, h.roles, timeout, h.cookies⟩, ⟨rfl, rfl, rfl⟩⟩
    · cases put
  | cookies =>
    simp only [Settings.put] at put
    split at put
    · rename_i flag read
      cases put
      have cookies : CookiesOf (some text) flag := flag?_eq_some_iff.mp read
      exact ⟨⟨h.catalog, h.dataSourceInfo, h.roles, h.timeout, cookies⟩, ⟨rfl, rfl, rfl⟩⟩
    · cases put

/-- Settings that the pairs of a query give are those that the last pair of each gives. -/
theorem givenBy_of_putAll
    {pairs : List (List Char × List Char)} {s s' : Settings} (start : GivenBy (lastText · []) s)
    (put : putAll s (given pairs) = .ok s') :
  GivenBy (lastText · pairs) s' ∧ SameAddress s s'
  := by
  induction pairs using List.reverseRecOn generalizing s' with
  | nil =>
    cases put
    exact ⟨start, ⟨rfl, rfl, rfl⟩⟩
  | append_singleton pairs pair ih =>
    rw [putAll, given_concat, List.foldlM_append, bind_eq_ok_iff] at put
    obtain ⟨s₁, first, put⟩ := put
    obtain ⟨before, same⟩ := ih first
    simp only [lastText_concat]
    cases named : Key.ofName? pair.1 with
    | none =>
      rw [named] at put
      cases put
      simpa using ⟨before, same⟩
    | some key =>
      rw [named] at put
      simp only [Option.map_some, Option.toList_some, List.foldlM_cons, List.foldlM_nil,
        bind_pure] at put
      obtain ⟨after, same'⟩ := before.put put
      simp only [Option.some.injEq]
      exact ⟨after, ⟨same'.url.trans same.url, same'.user.trans same.user,
        same'.password.trans same.password⟩⟩

/-! ### What settings can be given by -/

/-- A text that a setting can be given by. -/
def Key.Takes : Key → String → Prop
  | .timeout, text => ∃ n, DenotesIn .nat64 text.toList n
  | .cookies, text => text = "true" ∨ text = "false"
  | _, _ => True

theorem exists_put_iff (s : Settings) (entry : Key × String) :
  (∃ s', s.put entry.1 entry.2 = .ok s') ↔ entry.1.Takes entry.2
  := by
  obtain ⟨key, text⟩ := entry
  cases key with
  | timeout =>
    constructor
    · rintro ⟨s', put⟩
      simp only [Settings.put] at put
      split at put
      · rename_i seconds read
        exact ⟨seconds.val, denotesIn_of_readBounded read⟩
      · cases put
    · rintro ⟨n, denotes⟩
      have read : readBounded 10 .nat64 text.toList = .ok ⟨n, denotes.holds⟩ :=
        readBounded_eq_ok_iff.mpr denotes
      simp [Settings.put, read]
  | cookies =>
    constructor
    · rintro ⟨s', put⟩
      simp only [Settings.put] at put
      split at put
      · rename_i flag read
        have spelled := flag?_eq_some_iff.mp read
        cases flag
        · exact .inr spelled
        · exact .inl spelled
      · cases put
    · rintro (rfl | rfl) <;> exact ⟨_, rfl⟩
  | _ => simp [Settings.put, Key.Takes]

/-- A pair of a query gives no setting, or a text that the setting can be given by. -/
def IsSound (pair : List Char × List Char) : Prop :=
  ∀ key : Key, String.ofList pair.1 ∈ key.spellings → key.Takes (String.ofList pair.2)

theorem exists_putAll_iff (s : Settings) (pairs : List (List Char × List Char)) :
  (∃ s', putAll s (given pairs) = .ok s') ↔ ∀ pair ∈ pairs, IsSound pair
  := by
  rw [putAll, exists_foldlM_eq_ok_iff exists_put_iff]
  simp only [given, List.mem_filterMap, IsSound, ← Key.ofName?_eq_some_iff]
  constructor
  · intro takes pair hpair key named
    apply takes (key, String.ofList pair.2)
    exact ⟨pair, hpair, by simp [named]⟩
  · rintro sound entry ⟨pair, hpair, h⟩
    obtain ⟨key, named, rfl⟩ := Option.map_eq_some_iff.mp h
    exact sound pair hpair key named

/-! ### The address that remains -/

theorem others_eq (pairs : List (List Char × List Char)) :
  others pairs = pairs.filter fun pair => String.ofList pair.1 ∉ settingNames
  := by
  apply List.filter_congr
  intro pair _
  rw [Bool.eq_iff_iff, decide_eq_true_iff]
  exact isNone_ofName?_iff

theorem others_others (pairs : List (List Char × List Char)) :
  others (others pairs) = others pairs
  := by simp [others, List.filter_filter]

theorem given_others (pairs : List (List Char × List Char)) :
  given (others pairs) = []
  := by
  rw [given, List.filterMap_eq_nil_iff]
  rintro ⟨name, value⟩ hpair
  rw [others, List.mem_filter, Option.isNone_iff_eq_none] at hpair
  simp [hpair.2]

theorem queryPairs_withQueryPairs (url : Url) (pairs : List (List Char × List Char)) :
  (url.withQueryPairs pairs).queryPairs = pairs
  := by
  rw [Url.queryPairs, Url.withQueryPairs]
  cases pairs with
  | nil => rfl
  | cons pair pairs => exact readForm_formText _

/-- Nothing more is taken from the address that remains. -/
theorem addressOf_addressOf (url : Url) :
  addressOf (addressOf url) = addressOf url
  := by
  have remaining : (addressOf url).queryPairs = others url.queryPairs :=
    queryPairs_withQueryPairs _ _
  rw [addressOf, remaining, others_others]
  rfl

/-- What remains of a URL without user name, password and the pairs that give settings. -/
structure Remains (url address : Url) : Prop where
  anonymous : address.username = [] ∧ address.password = none
  place : address.scheme = url.scheme ∧ address.host = url.host ∧ address.port = url.port
  path : address.path = url.path ∧ address.fragment = url.fragment
  pairs : address.queryPairs = url.queryPairs.filter fun pair => String.ofList pair.1 ∉ settingNames
  query : address.query = none ↔ address.queryPairs = []

theorem remains_addressOf (url : Url) :
  Remains url (addressOf url)
  := by
  have remaining : (addressOf url).queryPairs = others url.queryPairs :=
    queryPairs_withQueryPairs _ _
  refine ⟨⟨rfl, rfl⟩, ⟨rfl, rfl, rfl⟩, ⟨rfl, rfl⟩, ?_, ?_⟩
  · rw [remaining, others_eq]
  · rw [remaining]
    simp [addressOf, Url.withQueryPairs]

/-- A character of a form stands in a query as it is. -/
theorem plain_of_mem_formText
    {pairs : List (List Char × List Char)} {c : Char} (h : c ∈ formText pairs) :
  specialInQuery c = false ∧ c ≠ '\''
  := by
  rcases isForm_or_of_mem_formText h with form | rfl | rfl
  · have ascii : isAscii c := by
      simp only [isForm, Bool.or_eq_true, beq_iff_eq] at form
      rcases form with (safe | rfl) | encoding
      · exact isAscii_of_isFormSafe safe
      · rfl
      · exact isAscii_of_isEncoding encoding
    exact of_forall_ascii (p := fun c => isForm c → specialInQuery c = false ∧ c ≠ '\'') (by decide)
      ascii form
  · decide
  · decide

/-- The address that remains of a URL that was read has the one form of its kind. -/
theorem isAddress_addressOf
    {text : String} {url : Url} (read : Url.read text = .ok url) (web : url.scheme ∈ schemes) :
  (addressOf url).IsAddress
  := by
  obtain ⟨⟨⟨host, written, host_eq, host_read⟩, port⟩, path, fragment⟩ := Url.read_eq_ok read web
  constructor
  · exact web
  · exact ⟨rfl, rfl⟩
  · intro host' found
    cases host_eq.symm.trans found
    exact isHostText_of_readHost host_read
  · exact port
  · exact path
  · intro query found c hc
    simp only [addressOf, Url.withQueryPairs, Option.mem_def, Option.ite_none_left_eq_some,
      Option.some.injEq] at found
    rw [← found.2] at hc
    exact plain_of_mem_formText hc
  · exact fragment

/-- The address that remains is read as itself, if no label of its host is too long. -/
theorem read_addressOf
    {text : String} {url : Url} (read : Url.read text = .ok url) (web : url.scheme ∈ schemes) :
  Url.read (addressOf url).text
    = if url.host.all isWithinLimit then .ok (addressOf url) else .error .invalidDomainName
  := by
  obtain ⟨⟨⟨host, written, host_eq, host_read⟩, -⟩, -⟩ := Url.read_eq_ok read web
  have remaining : (addressOf url).host = some host := host_eq
  rw [(isAddress_addressOf read web).read_text remaining, readHost_readHost host_read, host_eq,
    Option.all_some]
  split
  · rw [Except.map, ← remaining]
  · rfl

/-! ### Settings that were read -/

/-- What a URL is parted into: its user and password, the settings that its query gives, and an
address with everything else.  From the address alone the standard settings are read.

The reader of host names takes no label whose ASCII form is longer than 2000 characters, which the
rules for URLs do not forbid.  A host may get such a label when it is written; only then is the
address not read again. -/
structure Parted (url : Url) (s : Settings) : Prop where
  user : s.user = String.ofList url.username
  password : s.password = url.password.map String.ofList
  given : GivenBy (lastText · url.queryPairs) s
  address : ∃ address, s.url = address.text ∧ Remains url address
    ∧ (url.host.all isWithinLimit → Url.read s.url = .ok address)
  again : Settings.read s.url = if url.host.all isWithinLimit then .ok { standard with url := s.url }
    else .error (.badSetting (.url .invalidDomainName))

theorem ofUrl_eq_ok
    {url : Url} {s : Settings} (h : ofUrl url = .ok s) :
  url.scheme ∈ schemes ∧ GivenBy (lastText · url.queryPairs) s ∧ s.url = (addressOf url).text
    ∧ s.user = String.ofList url.username ∧ s.password = url.password.map String.ofList
  := by
  rw [ofUrl] at h
  split at h
  · rename_i web
    have start : GivenBy (lastText · []) { standard with
        url := (addressOf url).text,
        user := String.ofList url.username,
        password := url.password.map String.ofList } := ⟨rfl, rfl, rfl, rfl, rfl⟩
    obtain ⟨given, same⟩ := givenBy_of_putAll start h
    exact ⟨by simpa using web, given, same.url, same.user, same.password⟩
  · cases h

/-- What a URL must be to give settings. -/
theorem exists_ofUrl_iff (url : Url) :
  (∃ s, ofUrl url = .ok s) ↔ url.scheme ∈ schemes ∧ ∀ pair ∈ url.queryPairs, IsSound pair
  := by
  rw [ofUrl]
  split
  · rename_i web
    rw [exists_putAll_iff]
    exact (and_iff_right (List.contains_iff_mem.mp web)).symm
  · rename_i other
    rw [List.contains_iff_mem] at other
    constructor
    · rintro ⟨s, h⟩
      cases h
    · exact fun h => absurd h.1 other

/-- Nothing is given by an address from which the settings have been taken. -/
theorem ofUrl_addressOf
    {url : Url} (web : url.scheme ∈ schemes) :
  ofUrl (addressOf url) = .ok { standard with url := (addressOf url).text }
  := by
  have remaining : (addressOf url).queryPairs = others url.queryPairs :=
    queryPairs_withQueryPairs _ _
  have web' : schemes.contains (addressOf url).scheme := List.contains_iff_mem.mpr web
  rw [ofUrl, if_pos web', addressOf_addressOf, remaining, given_others]
  rfl

theorem parted_of_ofUrl
    {text : String} {url : Url} {s : Settings} (read : Url.read text = .ok url)
    (h : ofUrl url = .ok s) :
  Parted url s
  := by
  obtain ⟨web, given, address, user, password⟩ := ofUrl_eq_ok h
  have again := read_addressOf read web
  rw [← address] at again
  refine ⟨user, password, given, ⟨addressOf url, address, remains_addressOf url, ?_⟩, ?_⟩
  · intro limit
    rw [again, if_pos limit]
  · rw [Settings.read, again]
    by_cases limit : url.host.all isWithinLimit
    · rw [if_pos limit, if_pos limit]
      simp only
      rw [ofUrl_addressOf web, ← address]
      rfl
    · rw [if_neg limit, if_neg limit]

/-- Connection settings are parted from a URL without loss.

Every URL of a web service whose query has a number wherever it says `timeout`, and a flag wherever
it says `cookies`, is parted into its settings and an address.  Any other text is refused as a bad
setting. -/
theorem read_parts (text : String) :
  (∀ s, Settings.read text = .ok s → ∃ url, Url.read text = .ok url ∧ Parted url s)
    ∧ ((∃ s, Settings.read text = .ok s) ↔ ∃ url, Url.read text = .ok url
      ∧ (url.scheme = "http".toList ∨ url.scheme = "https".toList)
      ∧ ∀ pair ∈ url.queryPairs, IsSound pair)
    ∧ ∀ failure, Settings.read text = .error failure → ∃ fault, failure = .badSetting fault
  := by
  refine ⟨?_, ?_, ?_⟩
  · intro s h
    rw [Settings.read] at h
    split at h
    · rename_i url read
      exact ⟨url, read, parted_of_ofUrl read (mapError_eq_ok_iff.mp h)⟩
    · cases h
  · rw [Settings.read]
    split
    · rename_i url read
      have web : url.scheme ∈ schemes ↔ url.scheme = "http".toList ∨ url.scheme = "https".toList := by
        simp [schemes]
      simp only [read, mapError_eq_ok_iff, Except.ok.injEq, exists_eq_left', exists_ofUrl_iff, web]
    · rename_i fault read
      simp [read]
  · intro failure h
    rw [Settings.read] at h
    split at h
    · rename_i url _
      cases result : ofUrl url with
      | ok s =>
        rw [result] at h
        cases h
      | error fault =>
        rw [result] at h
        cases h
        exact ⟨fault, rfl⟩
    · cases h
      exact ⟨_, rfl⟩

end OlapClient.Settings
