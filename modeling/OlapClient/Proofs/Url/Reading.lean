import Mathlib.Tactic.Common
import OlapClient.Proofs.Url.Address
import OlapClient.Proofs.Url.Path

/-!
# URLs read back

An address of a web service has one text, and `read_text` reads the address from it, with whatever
host its host is read as: every part stands where reading looks for it, and none of them holds a
character that would end it early.
-/

namespace OlapClient.Url

open OlapClient.Number
open OlapClient.Text

/-! ### Hosts within a URL -/

/-- A character that ends the host of a URL or stands before it. -/
def boundsHost (c : Char) : Bool :=
  isPadding c || "/\\?#@".toList.contains c

/-- A host that stands in a URL as it is: nothing in it is taken for the end of the host. -/
structure IsHostText (host : List Char) : Prop where
  some_char : host ≠ []
  unbounded : ∀ c ∈ host, boundsHost c = false
  whole : cutPort false host = (host, none)
  before_port : ∀ rest, cutPort false (host ++ ':' :: rest) = (host, some rest)

/-! ### The address of a web service -/

/-- The schemes of web services. -/
def webSchemes : List (List Char) :=
  ["http".toList, "https".toList]

/-- A URL in the one form of its kind, with a host and without user name and password. -/
structure IsAddress (url : Url) : Prop where
  scheme : url.scheme ∈ webSchemes
  anonymous : url.username = [] ∧ url.password = none
  host : ∀ host ∈ url.host, IsHostText host
  port : ∀ port ∈ url.port, port < 2 ^ 16 ∧ some port ≠ defaultPort url.scheme
  path : readPath true url.path = url.path
  query : ∀ query ∈ url.query, ∀ c ∈ query, specialInQuery c = false ∧ c ≠ '\''
  fragment : ∀ fragment ∈ url.fragment, ∀ c ∈ fragment, specialInFragment c = false

/-! ### Parts of a text -/

theorem part_of_forall {stop : Char → Bool} {cs : List Char} (h : ∀ c ∈ cs, stop c = false) :
  part stop cs = (cs, none)
  := by
  rw [part, cut_eq_none_iff.mpr h]

theorem part_append
    {stop : Char → Bool} {cs : List Char} {mark : Char} (h : ∀ c ∈ cs, stop c = false)
    (stops : stop mark) (rest : List Char) :
  part stop (cs ++ mark :: rest) = (cs, some rest)
  := by
  rw [part, cut_append rest stops h]

/-- What stands before a mark and what stands after it, if the mark is there. -/
theorem part_elim
    {mark : Char} {cs : List Char} (h : mark ∉ cs) (rest : Option (List Char)) :
  part (· == mark) (cs ++ rest.elim [] (mark :: ·)) = (cs, rest)
  := by
  have goes : ∀ c ∈ cs, (c == mark) = false := by
    intro c hc
    rw [beq_eq_false_iff_ne]
    rintro rfl
    exact h hc
  cases rest with
  | none =>
    rw [Option.elim, List.append_nil]
    apply part_of_forall goes
  | some rest => apply part_append goes (by simp)

section

variable {cs : List Char} (h : ∀ c ∈ cs, isPadding c = false)
include h

theorem dropWhile_isPadding_of_forall :
  cs.dropWhile isPadding = cs
  := by
  cases cs with
  | nil => rfl
  | cons c cs => simp [h c]

theorem filter_of_forall :
  cs.filter (fun c => c ≠ '\t' ∧ c ≠ '\n' ∧ c ≠ '\r') = cs
  := by
  rw [List.filter_eq_self]
  intro c hc
  have wide := h c hc
  have tab : c ≠ '\t' := by
    rintro rfl
    exact absurd wide (by decide)
  have line : c ≠ '\n' := by
    rintro rfl
    exact absurd wide (by decide)
  have carriage : c ≠ '\r' := by
    rintro rfl
    exact absurd wide (by decide)
  simp [tab, line, carriage]

theorem strip_of_forall :
  strip cs = cs
  := by
  rw [strip, dropWhile_isPadding_of_forall h, dropWhile_isPadding_of_forall (by simpa using h),
    List.reverse_reverse, filter_of_forall h]

end

/-! ### Authorities -/

section

variable {scheme host : List Char}

/-- A port as it stands behind a host. -/
def portText (port : Option Nat) : List Char :=
  port.elim [] fun port => ':' :: decimalDigits port

theorem readPort_decimalDigits {port : Nat} (small : port < 2 ^ 16) :
  readPort (decimalDigits port) = .ok (some port, [])
  := by
  have digits : ∀ c ∈ decimalDigits port, c.isDigit :=
    fun c hc => Nat.isDigit_of_mem_toDigits (by decide) (by decide) hc
  have taken : (decimalDigits port).takeWhile Char.isDigit = decimalDigits port := by
    have all := @List.takeWhile_append_of_pos _ _ _ [] digits
    simpa using all
  have dropped : (decimalDigits port).dropWhile Char.isDigit = [] := by
    have all := @List.dropWhile_append_of_pos _ _ _ [] digits
    simpa using all
  have within : ¬ 2 ^ 16 ≤ port := by omega
  have some_digit : (decimalDigits port).isEmpty = false := by
    simpa using decimalDigits_ne_nil port
  rw [readPort, taken, dropped, valueIn_decimalDigits]
  simp [within, some_digit]

/-- A character of a port behind a host. -/
theorem isPort_of_mem_portText {port : Option Nat} {c : Char} (h : c ∈ portText port) :
  c = ':' ∨ isDigit c
  := by
  cases port with
  | none => simp [portText] at h
  | some port =>
    rcases List.mem_cons.mp h with rfl | h
    · exact .inl rfl
    · exact .inr (isDigit_of_mem_decimalDigits h)

theorem boundsHost_of_isDigit {c : Char} (h : isDigit c) :
  boundsHost c = false
  := by
  have ascii : isAscii c := by
    have range := isDigit_iff.mp h
    simp only [isAscii, decide_eq_true_eq]
    omega
  exact of_forall_ascii (p := fun c => isDigit c → boundsHost c = false) (by decide) ascii h

theorem isSpecial_of_mem_webSchemes (web : scheme ∈ webSchemes) :
  isSpecial scheme
  := by
  simp only [webSchemes, List.mem_cons, List.not_mem_nil, or_false] at web
  rcases web with rfl | rfl <;> decide

theorem readHostAndPort_text
    (web : scheme ∈ webSchemes) (stands : IsHostText host) {port : Option Nat}
    (proper : ∀ p ∈ port, p < 2 ^ 16 ∧ some p ≠ defaultPort scheme) :
  readHostAndPort scheme (host ++ portText port)
    = (readHost host).map fun host' => (host', port, [])
  := by
  have special := isSpecial_of_mem_webSchemes web
  have some_char : host.isEmpty = false := by simpa using stands.some_char
  cases port with
  | none =>
    rw [portText, Option.elim, List.append_nil, readHostAndPort, stands.whole]
    simp only [some_char, special]
    cases readHost host <;> rfl
  | some port =>
    obtain ⟨small, other⟩ := proper port rfl
    rw [portText, Option.elim, readHostAndPort, stands.before_port]
    simp only [some_char, special, Option.getD_some, readPort_decimalDigits small]
    cases readHost host with
    | error fault => rfl
    | ok host' => simpa [bind, Except.bind, pure, Except.pure, Except.map] using other

theorem readAuthority_text
    (web : scheme ∈ webSchemes) (stands : IsHostText host) {port : Option Nat}
    (proper : ∀ p ∈ port, p < 2 ^ 16 ∧ some p ≠ defaultPort scheme) (more : Bool) :
  readAuthority scheme (host ++ portText port) more
    = (readHost host).map fun host' => (⟨scheme, [], none, some host', port, [], none, none⟩, [])
  := by
  have alone : cutUserinfo (host ++ portText port) = none := by
    rw [cutUserinfo, Option.map_eq_none_iff, cut_eq_none_iff]
    intro c hc
    rw [List.mem_reverse, List.mem_append] at hc
    rw [beq_eq_false_iff_ne]
    rintro rfl
    rcases hc with hc | hc
    · exact absurd (stands.unbounded _ hc) (by decide)
    · exact absurd (isPort_of_mem_portText hc) (by decide)
  rw [readAuthority, alone]
  have nobody : readUserinfo [] = ([], none) := rfl
  simp only [Option.getD_none, readHostAndPort_text web stands proper, nobody]
  cases readHost host <;> simp [bind, Except.bind, pure, Except.pure, Except.map]

end

/-! ### What stands before the query -/

theorem readScheme_text {scheme : List Char} (web : scheme ∈ webSchemes) (rest : List Char) :
  readScheme (scheme ++ ':' :: rest) = some (scheme, rest)
  := by
  simp only [webSchemes, List.mem_cons, List.not_mem_nil, or_false] at web
  rcases web with rfl | rfl <;> rfl

/-- A URL of a web service is read by reading its authority, up to the path. -/
theorem readHierarchy_authority
    {scheme authority path : List Char} (web : scheme ∈ webSchemes) (some_char : authority ≠ [])
    (apart : ∀ c ∈ authority, separatesSteps true c = false)
    (start : ∀ c ∈ path.head?, separatesSteps true c) (more : Bool) :
  readHierarchy scheme ('/' :: '/' :: (authority ++ path)) more
    = (readAuthority scheme authority (more || !path.isEmpty)).map fun parts =>
      { parts.1 with path := readPath true (parts.2 ++ path) }
  := by
  have special := isSpecial_of_mem_webSchemes web
  have web_only : scheme ≠ fileScheme := by
    rintro rfl
    exact absurd web (by decide)
  have within : ∀ c ∈ authority, (!separatesSteps true c) = true := by simpa using apart
  have begins : ('/' :: '/' :: (authority ++ path)).dropWhile (separatesSteps true)
      = authority ++ path := by
    obtain ⟨c, rest, rfl⟩ := List.exists_cons_of_ne_nil some_char
    have slash : separatesSteps true '/' = true := rfl
    rw [List.dropWhile_cons_of_pos slash, List.dropWhile_cons_of_pos slash, List.cons_append,
      List.dropWhile_cons_of_neg (by simp [apart c])]
  have taken : (authority ++ path).takeWhile (!separatesSteps true ·) = authority := by
    rw [List.takeWhile_append_of_pos within]
    cases path with
    | nil => simp
    | cons c path => simp [start c rfl]
  have dropped : (authority ++ path).dropWhile (!separatesSteps true ·) = path := by
    rw [List.dropWhile_append_of_pos within]
    cases path with
    | nil => rfl
    | cons c path => simp [start c rfl]
  rw [readHierarchy]
  simp only [web_only, if_false, special, if_true, begins, taken, dropped, Bool.true_or]
  cases readAuthority scheme authority (more || !path.isEmpty) <;> rfl

theorem separatesSteps_of_boundsHost {c : Char} (h : boundsHost c = false) :
  separatesSteps true c = false
  := by
  have slash : c ≠ '/' := by
    rintro rfl
    exact absurd h (by decide)
  have backslash : c ≠ '\\' := by
    rintro rfl
    exact absurd h (by decide)
  simp [separatesSteps, slash, backslash]

theorem readHierarchy_text
    {scheme host path : List Char} (web : scheme ∈ webSchemes) (stands : IsHostText host)
    {port : Option Nat} (proper : ∀ p ∈ port, p < 2 ^ 16 ∧ some p ≠ defaultPort scheme)
    (path_read : readPath true path = path) (more : Bool) :
  readHierarchy scheme ('/' :: '/' :: (host ++ portText port ++ path)) more
    = (readHost host).map fun host' => ⟨scheme, [], none, some host', port, path, none, none⟩
  := by
  have some_char : host ++ portText port ≠ [] := by simp [stands.some_char]
  have apart : ∀ c ∈ host ++ portText port, separatesSteps true c = false := by
    intro c hc
    rcases List.mem_append.mp hc with hc | hc
    · exact separatesSteps_of_boundsHost (stands.unbounded c hc)
    · rcases isPort_of_mem_portText hc with rfl | digit
      · rfl
      · exact separatesSteps_of_boundsHost (boundsHost_of_isDigit digit)
  obtain ⟨steps, start⟩ := exists_readPath_eq path
  rw [path_read] at start
  have begins : ∀ c ∈ path.head?, separatesSteps true c := by
    rw [start]
    simp [separatesSteps]
  rw [readHierarchy_authority web some_char apart begins, readAuthority_text web stands proper]
  cases readHost host <;> simp [Except.map, path_read]

/-! ### Characters of a URL -/

theorem isPadding_of_visible {c : Char} (control : isControl c = false) (space : c ≠ ' ') :
  isPadding c = false
  := by
  have wide : ¬ c.toNat < 0x20 := by
    intro low
    simp [isControl, low] at control
  have other : c.toNat ≠ 0x20 := by
    intro code
    apply space
    apply Char.toNat_inj.mp code
  simp only [isPadding, decide_eq_false_iff_not]
  omega

theorem visible_of_fragment {c : Char} (h : specialInFragment c = false) :
  isPadding c = false
  := by
  simp only [specialInFragment, Bool.or_eq_false_iff] at h
  apply isPadding_of_visible h.1
  rintro rfl
  exact absurd h.2 (by decide)

theorem visible_of_path {c : Char} (h : specialInPath c = false) :
  isPadding c = false ∧ c ≠ '#' ∧ c ≠ '?'
  := by
  simp only [specialInPath, Bool.or_eq_false_iff] at h
  refine ⟨visible_of_fragment h.1, ?_, ?_⟩ <;> rintro rfl <;> exact absurd h.2 (by decide)

theorem visible_of_query {c : Char} (h : specialInQuery c = false) :
  isPadding c = false ∧ c ≠ '#'
  := by
  simp only [specialInQuery, Bool.or_eq_false_iff] at h
  constructor
  · apply isPadding_of_visible h.1
    rintro rfl
    exact absurd h.2 (by decide)
  · rintro rfl
    exact absurd h.2 (by decide)

theorem visible_of_host {c : Char} (h : boundsHost c = false) :
  isPadding c = false ∧ c ≠ '#' ∧ c ≠ '?'
  := by
  simp only [boundsHost, Bool.or_eq_false_iff] at h
  refine ⟨h.1, ?_, ?_⟩ <;> rintro rfl <;> exact absurd h.2 (by decide)

theorem visible_of_port {port : Option Nat} {c : Char} (h : c ∈ portText port) :
  isPadding c = false ∧ c ≠ '#' ∧ c ≠ '?'
  := by
  rcases isPort_of_mem_portText h with rfl | digit
  · decide
  · apply visible_of_host (boundsHost_of_isDigit digit)

theorem visible_of_scheme {scheme : List Char} (web : scheme ∈ webSchemes) {c : Char}
    (h : c ∈ scheme) :
  isPadding c = false ∧ c ≠ '#' ∧ c ≠ '?'
  := by
  have all : webSchemes.all fun scheme =>
      scheme.all fun c => !isPadding c && c ≠ '#' && c ≠ '?' := by
    decide
  rw [List.all_eq_true] at all
  have plain := List.all_eq_true.mp (all scheme web) c h
  simpa [and_assoc] using plain

/-! ### Whole URLs -/

/-- What stands before the query. -/
def hierarchyText (url : Url) (host : List Char) : List Char :=
  url.scheme ++ ':' :: '/' :: '/' :: (host ++ portText url.port ++ url.path)

theorem IsAddress.text_eq {url : Url} (h : url.IsAddress) {host : List Char}
    (host_eq : url.host = some host) :
  url.text.toList = hierarchyText url host ++ url.query.elim [] ('?' :: ·)
    ++ url.fragment.elim [] ('#' :: ·)
  := by
  obtain ⟨username, password⟩ := h.anonymous
  simp [text, host_eq, userinfoText, username, password, hierarchyText, portText]

theorem IsAddress.visible_hierarchy {url : Url} (h : url.IsAddress) {host : List Char}
    (stands : IsHostText host) {c : Char} (hc : c ∈ hierarchyText url host) :
  isPadding c = false ∧ c ≠ '#' ∧ c ≠ '?'
  := by
  have path : ∀ c ∈ url.path, isPadding c = false ∧ c ≠ '#' ∧ c ≠ '?' := by
    intro c hc
    rw [← h.path] at hc
    apply visible_of_path (plain_of_mem_readPath hc)
  simp only [hierarchyText, List.mem_append, List.mem_cons] at hc
  rcases hc with hc | rfl | rfl | rfl | (hc | hc) | hc
  · apply visible_of_scheme h.scheme hc
  · decide
  · decide
  · decide
  · apply visible_of_host (stands.unbounded c hc)
  · apply visible_of_port hc
  · apply path c hc

theorem IsAddress.visible_query {url : Url} (h : url.IsAddress) {c : Char}
    (hc : c ∈ url.query.elim [] ('?' :: ·)) :
  isPadding c = false ∧ c ≠ '#'
  := by
  have query := h.query
  cases found : url.query with
  | none => simp [found] at hc
  | some cs =>
    rw [found, Option.elim, List.mem_cons] at hc
    rcases hc with rfl | hc
    · decide
    · apply visible_of_query (query cs found c hc).1

theorem map_percentEncode_of_plain
    {special : Char → Bool} {part : Option (List Char)}
    (plain : ∀ cs ∈ part, ∀ c ∈ cs, special c = false) :
  part.map (percentEncode special) = part
  := by
  cases part with
  | none => rfl
  | some cs => rw [Option.map_some, percentEncode_of_plain (plain cs rfl)]

/-- An address is read from its text, with what its host is read as. -/
theorem IsAddress.read_text
    {url : Url} (h : url.IsAddress) {host : List Char} (host_eq : url.host = some host) :
  Url.read url.text = (readHost host).map fun host' => { url with host := some host' }
  := by
  have stands := h.host host host_eq
  obtain ⟨username, password⟩ := h.anonymous
  have no_question : '?' ∉ hierarchyText url host :=
    fun hc => (h.visible_hierarchy stands hc).2.2 rfl
  have no_hash : '#' ∉ hierarchyText url host ++ url.query.elim [] ('?' :: ·) := by
    intro hc
    rcases List.mem_append.mp hc with hc | hc
    · exact (h.visible_hierarchy stands hc).2.1 rfl
    · exact (h.visible_query hc).2 rfl
  have stripped : strip url.text.toList = url.text.toList := by
    apply strip_of_forall
    intro c hc
    rw [h.text_eq host_eq] at hc
    rcases List.mem_append.mp hc with hc | hc
    · rcases List.mem_append.mp hc with hc | hc
      · exact (h.visible_hierarchy stands hc).1
      · exact (h.visible_query hc).1
    · cases found : url.fragment with
      | none => simp [found] at hc
      | some cs =>
        rw [found, Option.elim, List.mem_cons] at hc
        rcases hc with rfl | hc
        · decide
        · apply visible_of_fragment (h.fragment cs found c hc)
  have query (special : Bool) : url.query.map
      (percentEncode fun c => specialInQuery c || (special && c == '\'')) = url.query := by
    apply map_percentEncode_of_plain
    intro cs hcs c hc
    obtain ⟨plain, quote⟩ := h.query cs hcs c hc
    simp [plain, quote]
  have fragment : url.fragment.map (percentEncode specialInFragment) = url.fragment :=
    map_percentEncode_of_plain h.fragment
  rw [Url.read, stripped, h.text_eq host_eq, part_elim no_hash]
  simp only [part_elim no_question]
  rw [hierarchyText, readScheme_text h.scheme]
  simp only [readHierarchy_text h.scheme stands h.port h.path, query, fragment]
  obtain ⟨scheme, username', password', host', port, path, query', fragment'⟩ := url
  simp only at username password host_eq
  subst username password host_eq
  cases readHost host <;> rfl

/-! ### URLs that were read -/

theorem readPort_lt {cs rest : List Char} {port : Nat} (h : readPort cs = .ok (some port, rest)) :
  port < 2 ^ 16
  := by
  simp only [readPort] at h
  split at h
  · cases h
  · rename_i within
    simp only [Except.ok.injEq, Prod.mk.injEq, Option.ite_none_left_eq_some, Option.some.injEq]
      at h
    rw [not_or, h.1.2] at within
    exact Nat.lt_of_not_le within.1

/-- A host and a port of a web service: the host was written in some way, and the port is not the
one of the scheme. -/
structure HasEndpoint (url : Url) : Prop where
  host : ∃ host written, url.host = some host ∧ readHost written = .ok host
  port : ∀ port ∈ url.port, port < 2 ^ 16 ∧ some port ≠ defaultPort url.scheme

theorem readHostAndPort_eq_ok
    {scheme cs host rest : List Char} {port : Option Nat} (special : isSpecial scheme)
    (h : readHostAndPort scheme cs = .ok (host, port, rest)) :
  (∃ written, readHost written = .ok host)
    ∧ ∀ p ∈ port, p < 2 ^ 16 ∧ some p ≠ defaultPort scheme
  := by
  rw [readHostAndPort] at h
  simp only [special, if_true, Bool.true_or] at h
  split at h
  · cases h
  · simp only [bind_eq_ok_iff] at h
    obtain ⟨host', host_read, ⟨port', rest'⟩, port_read, h⟩ := h
    cases h
    constructor
    · exact ⟨_, host_read⟩
    · intro p hp
      obtain ⟨found, other⟩ := Option.filter_eq_some_iff.mp hp
      cases found
      exact ⟨readPort_lt port_read, by simpa using other⟩

theorem readAuthority_eq_ok
    {scheme cs rest : List Char} {more : Bool} {url : Url} (special : isSpecial scheme)
    (h : readAuthority scheme cs more = .ok (url, rest)) :
  url.scheme = scheme ∧ url.HasEndpoint
  := by
  simp only [readAuthority] at h
  split at h
  · cases h
  · rw [bind_eq_ok_iff] at h
    obtain ⟨⟨host, port, rest'⟩, read, h⟩ := h
    obtain ⟨⟨written, host_read⟩, proper⟩ := readHostAndPort_eq_ok special read
    split at h
    · cases h
    · cases h
      refine ⟨rfl, ⟨⟨host, written, rfl, host_read⟩, proper⟩⟩

theorem scheme_of_readAuthority
    {scheme cs rest : List Char} {more : Bool} {url : Url}
    (h : readAuthority scheme cs more = .ok (url, rest)) :
  url.scheme = scheme
  := by
  simp only [readAuthority] at h
  split at h
  · cases h
  · rw [bind_eq_ok_iff] at h
    obtain ⟨_, -, h⟩ := h
    split at h
    · cases h
    · cases h
      rfl

theorem scheme_of_readHierarchy
    {scheme cs : List Char} {more : Bool} {url : Url}
    (h : readHierarchy scheme cs more = .ok url) :
  url.scheme = scheme
  := by
  have authority {cs : List Char} {more : Bool} {path : Url × List Char → List Char}
      (h : (do
        let parts ← readAuthority scheme cs more
        return { parts.1 with path := path parts } : Except UrlFault Url) = .ok url) :
      url.scheme = scheme := by
    rw [bind_eq_ok_iff] at h
    obtain ⟨⟨parts, rest⟩, read, h⟩ := h
    cases h
    exact (scheme_of_readAuthority read :)
  simp only [readHierarchy] at h
  split at h
  · rw [bind_eq_ok_iff] at h
    obtain ⟨_, -, h⟩ := h
    cases h
    rfl
  · split at h
    · exact authority h
    · split at h
      · exact authority h
      · split at h <;> cases h <;> rfl

theorem readHierarchy_eq_ok
    {scheme cs : List Char} {more : Bool} {url : Url} (web : scheme ∈ webSchemes)
    (h : readHierarchy scheme cs more = .ok url) :
  url.HasEndpoint ∧ ∃ written, url.path = readPath true written
  := by
  have special := isSpecial_of_mem_webSchemes web
  have web_only : scheme ≠ fileScheme := by
    rintro rfl
    exact absurd web (by decide)
  simp only [readHierarchy, web_only, if_false, special, if_true, Bool.true_or] at h
  rw [bind_eq_ok_iff] at h
  obtain ⟨⟨parts, rest⟩, read, h⟩ := h
  cases h
  obtain ⟨-, endpoint⟩ := readAuthority_eq_ok special read
  refine ⟨⟨endpoint.host, endpoint.port⟩, _, rfl⟩

/-- A URL of a web service that was read: its host was written in some way, its path is in its one
form and its fragment is encoded. -/
theorem read_eq_ok {text : String} {url : Url} (h : Url.read text = .ok url)
    (web : url.scheme ∈ webSchemes) :
  url.HasEndpoint ∧ readPath true url.path = url.path
    ∧ ∀ fragment ∈ url.fragment, ∀ c ∈ fragment, specialInFragment c = false
  := by
  simp only [Url.read] at h
  split at h
  · cases h
  · rename_i scheme rest _
    rw [bind_eq_ok_iff] at h
    obtain ⟨url', read, h⟩ := h
    cases h
    have same := scheme_of_readHierarchy read
    simp only at web
    rw [same] at web
    obtain ⟨endpoint, written, path⟩ := readHierarchy_eq_ok web read
    refine ⟨⟨endpoint.host, endpoint.port⟩, ?_, ?_⟩
    · rw [path, readPath_readPath]
    · intro fragment hfragment c hc
      obtain ⟨cs, -, rfl⟩ := Option.map_eq_some_iff.mp hfragment
      apply plain_of_mem_percentEncode spares_specialInFragment hc

end OlapClient.Url
