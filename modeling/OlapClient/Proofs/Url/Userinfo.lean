import Mathlib.Tactic.Common
import Mathlib.Tactic.Ring
import OlapClient.Proofs.Url.Host

/-!
# Userinfo in URLs

The user name and the password that stand before a host change nothing else in a URL.
`read_userinfoBefore` says so of every URL of a web service, whatever its host is read as and
whatever follows: with them it is read as without them, and they are kept as they are written.
-/

namespace OlapClient.Url

open OlapClient.Number
open OlapClient.Text

/-! ### The text of a URL -/

/-- A character that ends an authority. -/
def endsAuthority (c : Char) : Bool :=
  "/\\?#".toList.contains c

/-- A URL with an authority, as text. -/
def addressText (scheme authority rest : List Char) : String :=
  String.ofList (scheme ++ ':' :: '/' :: '/' :: (authority ++ rest))

/-- A user name and a password before the host that they are for. -/
def userinfoBefore (username password host : List Char) : List Char :=
  username ++ ':' :: (password ++ '@' :: host)

/-- A URL of a web service without userinfo: a host with or without a port, in any form, and what
follows it. -/
structure IsSite (scheme host rest : List Char) : Prop where
  web : scheme ∈ webSchemes
  some_char : host ≠ []
  unbounded : ∀ c ∈ host, boundsHost c = false
  ends : ∀ c ∈ rest.head?, endsAuthority c

/-- A URL with a user name and a password. -/
def withUserinfo (url : Url) (username password : List Char) : Url :=
  { url with username := username, password := some password }

/-! ### Padding -/

/-- A text without padding at its end, tabs and line ends. -/
def stripEnd (cs : List Char) : List Char :=
  (cs.reverse.dropWhile isPadding).reverse.filter fun c => c ≠ '\t' ∧ c ≠ '\n' ∧ c ≠ '\r'

section

variable {front : List Char} (plain : ∀ c ∈ front, isPadding c = false)
include plain

theorem stripEnd_append (rest : List Char) :
  stripEnd (front ++ rest) = front ++ stripEnd rest
  := by
  have unpadded : front.reverse.dropWhile isPadding = front.reverse :=
    dropWhile_isPadding_of_forall (by simpa using plain)
  have kept := filter_of_forall plain
  rw [stripEnd, List.reverse_append, List.dropWhile_append, unpadded]
  split
  · rename_i padded
    rw [stripEnd, List.isEmpty_iff.mp padded, List.reverse_reverse, kept]
    simp
  · rw [List.reverse_append, List.reverse_reverse, List.filter_append, kept, stripEnd]

/-- What stands before the padding at the end of a URL is kept. -/
theorem strip_append (some_char : front ≠ []) (rest : List Char) :
  strip (front ++ rest) = front ++ stripEnd rest
  := by
  have start : (front ++ rest).dropWhile isPadding = front ++ rest := by
    obtain ⟨c, front, rfl⟩ := List.exists_cons_of_ne_nil some_char
    rw [List.cons_append, List.dropWhile_cons_of_neg (by simp [plain c])]
  rw [strip, start, ← stripEnd, stripEnd_append plain]

end

/-! ### What follows an authority -/

theorem part_nil (stop : Char → Bool) :
  part stop [] = ([], none)
  := rfl

theorem part_cons (stop : Char → Bool) (c : Char) (cs : List Char) :
  part stop (c :: cs)
    = if stop c then ([], some cs) else (c :: (part stop cs).1, (part stop cs).2)
  := by
  cases stops : stop c with
  | true => simp [part, cut, stops]
  | false => cases found : cut stop cs <;> simp [part, cut, stops, found]

/-- A text is parted behind what has no mark as its rest is. -/
theorem part_append_of_forall
    {stop : Char → Bool} {cs : List Char} (h : ∀ c ∈ cs, stop c = false) (rest : List Char) :
  part stop (cs ++ rest) = (cs ++ (part stop rest).1, (part stop rest).2)
  := by
  induction cs with
  | nil => rfl
  | cons c cs ih =>
    rw [List.cons_append, part_cons, h c List.mem_cons_self,
      ih fun d hd => h d (List.mem_cons_of_mem _ hd)]
    rfl

/-- A path, a query and a fragment as they are written. -/
structure Tail where
  path : List Char
  query : Option (List Char)
  fragment : Option (List Char)
  deriving DecidableEq, Repr

/-- What follows an authority, taken apart. -/
def tailOf (rest : List Char) : Tail :=
  let (beforeFragment, fragment) := part (· == '#') (stripEnd rest)
  let (path, query) := part (· == '?') beforeFragment
  ⟨path, query, fragment⟩

/-- Something follows the authority. -/
def Tail.follows (tail : Tail) : Bool :=
  tail.query.isSome || tail.fragment.isSome || !tail.path.isEmpty

/-- The URL of a web service whose authority was read, with what follows. -/
def Tail.complete (tail : Tail) (parts : Url × List Char) : Url :=
  { parts.1 with
    path := readPath true (parts.2 ++ tail.path),
    query := tail.query.map (percentEncode fun c => specialInQuery c || c == '\''),
    fragment := tail.fragment.map (percentEncode specialInFragment) }

theorem endsAuthority_iff {c : Char} :
  endsAuthority c ↔ c = '/' ∨ c = '\\' ∨ c = '?' ∨ c = '#'
  := by
  rw [endsAuthority, List.contains_iff_mem]
  exact ⟨by simp, by simp⟩

/-- A character outside a class that has all characters which end an authority. -/
theorem not_endsAuthority_of_plain
    {special : Char → Bool} (ends : "/\\?#".toList.all special) {c : Char}
    (plain : special c = false) :
  endsAuthority c = false
  := by
  rw [← Bool.not_eq_true, endsAuthority, List.contains_iff_mem]
  intro listed
  rw [List.all_eq_true.mp ends c listed] at plain
  cases plain

theorem apart_of_not_endsAuthority {c : Char} (goes : endsAuthority c = false) :
  separatesSteps true c = false ∧ c ≠ '#' ∧ c ≠ '?'
  := by
  rw [← Bool.not_eq_true, endsAuthority_iff] at goes
  obtain ⟨slash, backslash, question, hash⟩ : c ≠ '/' ∧ c ≠ '\\' ∧ c ≠ '?' ∧ c ≠ '#' := by
    simpa only [not_or] using goes
  exact ⟨by simp [separatesSteps, slash, backslash], hash, question⟩

/-- A path begins with a separator of its steps. -/
theorem separatesSteps_of_mem_head?_path
    {rest : List Char} (ends : ∀ c ∈ rest.head?, endsAuthority c) :
  ∀ c ∈ (tailOf rest).path.head?, separatesSteps true c
  := by
  cases rest with
  | nil => simp [tailOf, stripEnd, part_nil]
  | cons mark rest =>
    have marks := endsAuthority_iff.mp (ends mark rfl)
    have visible : ∀ c ∈ [mark], isPadding c = false := by
      rw [List.forall_mem_singleton]
      rcases marks with rfl | rfl | rfl | rfl <;> decide
    have stripped : stripEnd (mark :: rest) = [mark] ++ stripEnd rest :=
      stripEnd_append visible rest
    rw [tailOf, stripped, List.singleton_append, part_cons]
    rcases marks with rfl | rfl | rfl | rfl <;> simp [part_cons, part_nil, separatesSteps]

/-- A URL of a web service is read by reading its authority and completing it by what follows. -/
theorem read_addressText
    {scheme authority rest : List Char} (web : scheme ∈ webSchemes) (some_char : authority ≠ [])
    (unbounded : ∀ c ∈ authority, isPadding c = false ∧ endsAuthority c = false)
    (ends : ∀ c ∈ rest.head?, endsAuthority c) :
  Url.read (addressText scheme authority rest)
    = (readAuthority scheme authority (tailOf rest).follows).map (tailOf rest).complete
  := by
  have special := isSpecial_of_mem_webSchemes web
  have apart : ∀ c ∈ authority, separatesSteps true c = false ∧ c ≠ '#' ∧ c ≠ '?' :=
    fun c hc => apart_of_not_endsAuthority (unbounded c hc).2
  have visible : ∀ c ∈ scheme ++ ':' :: '/' :: '/' :: authority,
      isPadding c = false ∧ c ≠ '#' ∧ c ≠ '?' := by
    intro c hc
    simp only [List.mem_append, List.mem_cons] at hc
    rcases hc with hc | rfl | rfl | rfl | hc
    · exact visible_of_scheme web hc
    · decide
    · decide
    · decide
    · exact ⟨(unbounded c hc).1, (apart c hc).2⟩
  have no_hash : ∀ c ∈ scheme ++ ':' :: '/' :: '/' :: authority, (c == '#') = false := by
    intro c hc
    simpa using (visible c hc).2.1
  have no_question : ∀ c ∈ scheme ++ ':' :: '/' :: '/' :: authority, (c == '?') = false := by
    intro c hc
    simpa using (visible c hc).2.2
  have stripped : strip (addressText scheme authority rest).toList
      = (scheme ++ ':' :: '/' :: '/' :: authority) ++ stripEnd rest := by
    rw [← strip_append (fun c hc => (visible c hc).1) (by simp)]
    simp [addressText]
  have hierarchy (path : List Char) : scheme ++ ':' :: '/' :: '/' :: authority ++ path
      = scheme ++ ':' :: ('/' :: '/' :: (authority ++ path)) := by simp
  have start := separatesSteps_of_mem_head?_path ends
  simp only [tailOf] at start ⊢
  -- the marks of a fragment and of a query stand behind the authority, where the rest is parted
  rw [Url.read, stripped, part_append_of_forall no_hash]
  simp only [part_append_of_forall no_question]
  generalize part (· == '?') (part (· == '#') (stripEnd rest)).1 = parts at start ⊢
  simp only [hierarchy, readScheme_text web]
  rw [readHierarchy_authority web some_char (fun c hc => (apart c hc).1) start]
  simp only [Tail.follows, special, Bool.true_and]
  cases readAuthority scheme authority _ <;> rfl

/-! ### Credentials before a host -/

section

variable {username password host : List Char}
  (plain_username : ∀ c ∈ username, specialInUserinfo c = false)
  (plain_password : ∀ c ∈ password, specialInUserinfo c = false)
  (some_password : password ≠ [])

include plain_username plain_password some_password in
theorem readUserinfo_of_plain :
  readUserinfo (username ++ ':' :: password) = (username, some password)
  := by
  have no_colon : ∀ c ∈ username, (c == ':') = false := by
    intro c hc
    rw [beq_eq_false_iff_ne]
    rintro rfl
    exact absurd (plain_username _ hc) (by decide)
  rw [readUserinfo, part_append no_colon rfl]
  simp [percentEncode_of_plain plain_username, percentEncode_of_plain plain_password, some_password]

theorem cutUserinfo_of_not_mem {cs : List Char} (apart : '@' ∉ cs) :
  cutUserinfo cs = none
  := by
  rw [cutUserinfo, Option.map_eq_none_iff, cut_eq_none_iff]
  intro c hc
  rw [beq_eq_false_iff_ne]
  rintro rfl
  exact apart (List.mem_reverse.mp hc)

theorem cutUserinfo_append {cs : List Char} (apart : '@' ∉ host) :
  cutUserinfo (cs ++ '@' :: host) = some (cs, host)
  := by
  have after : ∀ c ∈ host.reverse, (c == '@') = false := by
    intro c hc
    rw [beq_eq_false_iff_ne]
    rintro rfl
    exact apart (List.mem_reverse.mp hc)
  have turned : (cs ++ '@' :: host).reverse = host.reverse ++ '@' :: cs.reverse := by simp
  rw [cutUserinfo, turned, cut_append _ rfl after]
  simp

include plain_username plain_password some_password in
/-- An authority is read alike with a user name and a password before its host. -/
theorem readAuthority_userinfoBefore
    {scheme : List Char} (special : isSpecial scheme) (apart : '@' ∉ host) (more : Bool) :
  readAuthority scheme (userinfoBefore username password host) more
    = (readAuthority scheme host more).map fun parts =>
      (parts.1.withUserinfo username password, parts.2)
  := by
  have before : userinfoBefore username password host
      = username ++ ':' :: password ++ '@' :: host := by simp [userinfoBefore]
  have nobody : readUserinfo [] = ([], none) := rfl
  rw [readAuthority, readAuthority, before, cutUserinfo_append apart, cutUserinfo_of_not_mem apart]
  simp only [Option.getD_some, Option.getD_none, nobody,
    readUserinfo_of_plain plain_username plain_password some_password]
  cases read : readHostAndPort scheme host with
  | error fault => simp [Bind.bind, Except.bind, Except.map]
  | ok parts =>
    obtain ⟨host', port, rest⟩ := parts
    obtain ⟨⟨written, host_read⟩, -⟩ := readHostAndPort_eq_ok special read
    have some_char : host' ≠ [] := (isHostText_of_readHost host_read).some_char
    simp [Bind.bind, Except.bind, Except.map, Pure.pure, Except.pure, some_char, withUserinfo]

theorem unbounded_of_userinfo {c : Char} (plain : specialInUserinfo c = false) :
  isPadding c = false ∧ endsAuthority c = false
  := by
  have in_path : specialInPath c = false := by
    rw [specialInUserinfo, Bool.or_eq_false_iff] at plain
    exact plain.1
  exact ⟨(visible_of_path in_path).1, not_endsAuthority_of_plain (by decide) plain⟩

theorem unbounded_of_host {c : Char} (plain : boundsHost c = false) :
  isPadding c = false ∧ endsAuthority c = false
  := ⟨(visible_of_host plain).1, not_endsAuthority_of_plain (by decide) plain⟩

include plain_username plain_password some_password in
/-- A URL of a web service is read alike with a user name and a password before its host, which are
kept as they are written. -/
theorem read_userinfoBefore
    {scheme rest : List Char} (site : IsSite scheme host rest) :
  Url.read (addressText scheme (userinfoBefore username password host) rest)
    = (Url.read (addressText scheme host rest)).map (·.withUserinfo username password)
  := by
  have apart : '@' ∉ host := fun hc => absurd (site.unbounded _ hc) (by decide)
  have some_char : userinfoBefore username password host ≠ [] := by simp [userinfoBefore]
  have host_unbounded : ∀ c ∈ host, isPadding c = false ∧ endsAuthority c = false :=
    fun c hc => unbounded_of_host (site.unbounded c hc)
  have unbounded : ∀ c ∈ userinfoBefore username password host,
      isPadding c = false ∧ endsAuthority c = false := by
    intro c hc
    simp only [userinfoBefore, List.mem_append, List.mem_cons] at hc
    rcases hc with hc | rfl | hc | rfl | hc
    · exact unbounded_of_userinfo (plain_username c hc)
    · decide
    · exact unbounded_of_userinfo (plain_password c hc)
    · decide
    · exact host_unbounded c hc
  rw [read_addressText site.web some_char unbounded site.ends,
    read_addressText site.web site.some_char host_unbounded site.ends,
    readAuthority_userinfoBefore plain_username plain_password some_password
      (isSpecial_of_mem_webSchemes site.web) apart]
  cases readAuthority scheme host (tailOf rest).follows <;> rfl

end

end OlapClient.Url
