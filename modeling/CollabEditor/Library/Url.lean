import CollabEditor.Library.PercentEncoding
import Mathlib.Data.List.DropRight

/-!
Owns the URL parser as far as the scheme, host, port and path of a URL go, state
by state. How a host is written is a parameter.
-/

set_option autoImplicit false

namespace CollabEditor.Library

/-- The host parser with the host serializer: the host of a text, which is opaque
when the flag says so; `none` is a failure. -/
abbrev HostParser := Bool → List Char → Option (List Char)

inductive UrlPath where
  /-- An opaque path. -/
  | text (chars : List Char)
  | segments (segments : List (List Char))
deriving DecidableEq

structure Url where
  scheme : List Char
  host : Option (List Char)
  port : Option ℕ
  path : UrlPath
deriving DecidableEq

namespace Url

def fileScheme : List Char := ['f', 'i', 'l', 'e']

/-- The special schemes, with their default ports. -/
def specialSchemes : List (List Char × Option ℕ) :=
  [("ftp".toList, some 21), (fileScheme, none), ("http".toList, some 80),
    ("https".toList, some 443), ("ws".toList, some 80), ("wss".toList, some 443)]

def isSpecial (scheme : List Char) : Bool := (specialSchemes.lookup scheme).isSome

def defaultPort (scheme : List Char) : Option ℕ := (specialSchemes.lookup scheme).getD none

/-! ### Code points -/

def isControlOrSpace (char : Char) : Bool := char.toNat ≤ 0x20

def isTabOrNewline (char : Char) : Bool := char = '\t' || char = '\n' || char = '\r'

def isSlash (char : Char) : Bool := char = '/' || char = '\\'

/-- The C0 control percent-encode set. -/
def isControlSet (char : Char) : Bool := char.toNat < 0x20 || 0x7E < char.toNat

/-- The path percent-encode set. -/
def isPathSet (char : Char) : Bool :=
  isControlSet char ||
    char.toNat ∈ [0x20, 0x22, 0x23, 0x3C, 0x3E, 0x3F, 0x5E, 0x60, 0x7B, 0x7D]

/-- UTF-8 percent-encode a code point. -/
def percentEncode (encodes : Char → Bool) (char : Char) : List Char :=
  if encodes char then
    (String.utf8EncodeChar char).flatMap fun byte => Utf16.decode (PercentEncoding.escape byte)
  else [char]

/-- Ends the authority of a URL and each of its segments. -/
def isTerminator (special : Bool) (char : Char) : Bool :=
  char = '/' || char = '?' || char = '#' || (special && char = '\\')

/-! ### Segments -/

def isSingleDot (buffer : List Char) : Bool :=
  buffer.map Char.toLower ∈ [".".toList, "%2e".toList]

def isDoubleDot (buffer : List Char) : Bool :=
  buffer.map Char.toLower ∈ ["..".toList, ".%2e".toList, "%2e.".toList, "%2e%2e".toList]

def isWindowsDriveLetter : List Char → Bool
  | [letter, mark] => letter.isAlpha && (mark = ':' || mark = '|')
  | _ => false

def isNormalizedDriveLetter (buffer : List Char) : Bool :=
  isWindowsDriveLetter buffer && buffer.getLast? = some ':'

def startsWithDriveLetter (input : List Char) : Bool :=
  isWindowsDriveLetter (input.take 2) && (input.drop 2).head?.all (isTerminator true)

/-- Shorten a URL's path. -/
def shorten (scheme : List Char) (path : List (List Char)) : List (List Char) :=
  match path with
  | [only] => if scheme = fileScheme ∧ isNormalizedDriveLetter only then [only] else []
  | _ => path.dropLast

/-- A segment ends, at a slash or at the end of the path. -/
def endSegment (scheme : List Char) (slash : Bool) (path : List (List Char)) (buffer : List Char) :
    List (List Char) :=
  let trailing := if slash then [] else [[]]
  if isDoubleDot buffer then shorten scheme path ++ trailing
  else if isSingleDot buffer then path ++ trailing
  else if scheme = fileScheme ∧ path = [] ∧ isWindowsDriveLetter buffer then
    [buffer.take 1 ++ [':']]
  else path ++ [buffer]

/-- Path state. -/
def pathFrom (scheme : List Char) : List (List Char) → List Char → List Char → List (List Char)
  | path, buffer, [] => endSegment scheme false path buffer
  | path, buffer, char :: rest =>
      if char = '/' ∨ (isSpecial scheme ∧ char = '\\') then
        pathFrom scheme (endSegment scheme true path buffer) [] rest
      else if char = '?' ∨ char = '#' then endSegment scheme false path buffer
      else pathFrom scheme path (buffer ++ percentEncode isPathSet char) rest

/-- Path start state. -/
def pathStart (scheme : List Char) (input : List Char) : List (List Char) :=
  match input with
  | [] => if isSpecial scheme then pathFrom scheme [] [] [] else []
  | char :: rest =>
      if char = '/' ∨ (isSpecial scheme ∧ char = '\\') then pathFrom scheme [] [] rest
      else if ¬ isSpecial scheme ∧ (char = '?' ∨ char = '#') then []
      else pathFrom scheme [] [] (char :: rest)

/-- Opaque path state. -/
def opaqueFrom : List Char → List Char
  | [] => []
  | char :: rest =>
      if char = '?' ∨ char = '#' then []
      else if char = ' ' then
        (if rest.head? = some '?' ∨ rest.head? = some '#' then "%20".toList else [' ']) ++
          opaqueFrom rest
      else percentEncode isControlSet char ++ opaqueFrom rest

/-! ### Authorities -/

/-- What is before the first colon outside brackets, and what is after it. -/
def splitPort : Bool → List Char → List Char × Option (List Char)
  | _, [] => ([], none)
  | insideBrackets, char :: rest =>
      if char = ':' ∧ insideBrackets = false then ([], some rest)
      else
        let split := splitPort
          (if char = '[' then true else if char = ']' then false else insideBrackets) rest
        (char :: split.1, split.2)

/-- Port state. -/
def portOf (scheme digits : List Char) : Option (Option ℕ) :=
  if digits.all Char.isDigit then
    if digits = [] then some none
    else
      let port := Nat.ofDigitChars 10 digits 0
      if port > 65535 then none
      else some (if defaultPort scheme = some port then none else some port)
  else none

/-- Host state, for a text that ends where the authority does. -/
def hostAndPort (hosts : HostParser) (scheme input : List Char) :
    Option (List Char × Option ℕ) :=
  match splitPort false input with
  | (text, some digits) =>
      if text = [] then none
      else (hosts (!isSpecial scheme) text).bind fun host =>
        (portOf scheme digits).map fun port => (host, port)
  | (text, none) =>
      if isSpecial scheme ∧ text = [] then none
      else (hosts (!isSpecial scheme) text).map fun host => (host, none)

/-- Authority state. The credentials end at the last `@`. -/
def authority (hosts : HostParser) (scheme input : List Char) : Option Url :=
  let inside := input.takeWhile fun char => !isTerminator (isSpecial scheme) char
  let after := input.dropWhile fun char => !isTerminator (isSpecial scheme) char
  let text := inside.rtakeWhile fun char => char ≠ '@'
  if '@' ∈ inside ∧ text = [] then none
  else (hostAndPort hosts scheme text).map fun (host, port) =>
    ⟨scheme, some host, port, .segments (pathStart scheme after)⟩

/-- Special authority ignore slashes state. -/
def ignoreSlashes (hosts : HostParser) (scheme input : List Char) : Option Url :=
  authority hosts scheme (input.dropWhile isSlash)

/-! ### File URLs -/

/-- The segments of a base URL. -/
def segmentsOf (base : Url) : List (List Char) :=
  match base.path with
  | .text _ => []
  | .segments segments => segments

/-- File host state. -/
def fileHost (hosts : HostParser) (input : List Char) : Option Url :=
  let text := input.takeWhile fun char => !isTerminator true char
  let after := input.dropWhile fun char => !isTerminator true char
  if isWindowsDriveLetter text then
    some ⟨fileScheme, some [], none, .segments (pathFrom fileScheme [] text after)⟩
  else if text = [] then some ⟨fileScheme, some [], none, .segments (pathStart fileScheme after)⟩
  else (hosts false text).map fun host =>
    ⟨fileScheme, some (if host = "localhost".toList then [] else host), none,
      .segments (pathStart fileScheme after)⟩

/-- File slash state. -/
def fileSlash (hosts : HostParser) (base : Option Url) (input : List Char) : Option Url :=
  if input.head?.any isSlash then fileHost hosts input.tail
  else
    match base.filter fun base => base.scheme = fileScheme with
    | none => some ⟨fileScheme, some [], none, .segments (pathFrom fileScheme [] [] input)⟩
    | some base =>
        let drive := (segmentsOf base).take 1 |>.filter isNormalizedDriveLetter
        let path := if startsWithDriveLetter input then [] else drive
        some ⟨fileScheme, base.host, none, .segments (pathFrom fileScheme path [] input)⟩

/-- File state. -/
def file (hosts : HostParser) (base : Option Url) (input : List Char) : Option Url :=
  if input.head?.any isSlash then fileSlash hosts base input.tail
  else
    match base.filter fun base => base.scheme = fileScheme with
    | none => some ⟨fileScheme, some [], none, .segments (pathFrom fileScheme [] [] input)⟩
    | some base =>
        if input.head?.all fun char => char = '?' ∨ char = '#' then some base
        else
          let path := if startsWithDriveLetter input then []
            else shorten fileScheme (segmentsOf base)
          some { base with path := .segments (pathFrom fileScheme path [] input) }

/-! ### The parser -/

/-- Relative slash state. -/
def relativeSlash (hosts : HostParser) (base : Url) (input : List Char) : Option Url :=
  if isSpecial base.scheme ∧ input.head?.any isSlash then ignoreSlashes hosts base.scheme input.tail
  else if input.head? = some '/' then authority hosts base.scheme input.tail
  else some { base with path := .segments (pathFrom base.scheme [] [] input) }

/-- Relative state. -/
def relative (hosts : HostParser) (base : Url) (input : List Char) : Option Url :=
  match input with
  | [] => some base
  | char :: rest =>
      if char = '/' ∨ (isSpecial base.scheme ∧ char = '\\') then relativeSlash hosts base rest
      else if char = '?' ∨ char = '#' then some base
      else
        let path := shorten base.scheme (segmentsOf base)
        some { base with path := .segments (pathFrom base.scheme path [] input) }

/-- No scheme state. -/
def noScheme (hosts : HostParser) (base : Option Url) (input : List Char) : Option Url :=
  base.bind fun base =>
    match base.path with
    | .text _ => if input.head? = some '#' then some base else none
    | .segments _ =>
        if base.scheme = fileScheme then file hosts (some base) input
        else relative hosts base input

/-- Scheme state: the scheme, and what follows the colon. -/
def schemeFrom : List Char → Option (List Char × List Char)
  | [] => none
  | char :: rest =>
      if char.isAlphanum ∨ char = '+' ∨ char = '-' ∨ char = '.' then
        (schemeFrom rest).map fun (scheme, after) => (char.toLower :: scheme, after)
      else if char = ':' then some ([], rest)
      else none

/-- Scheme start state. -/
def schemeStart (input : List Char) : Option (List Char × List Char) :=
  if input.head?.any Char.isAlpha then schemeFrom input else none

/-- Scheme state, after the colon. -/
def afterScheme (hosts : HostParser) (base : Option Url) (scheme input : List Char) : Option Url :=
  if scheme = fileScheme then file hosts base input
  else if isSpecial scheme then
    match base.filter fun base => base.scheme = scheme with
    | none => ignoreSlashes hosts scheme input
    | some base =>
        if input.take 2 = ['/', '/'] then ignoreSlashes hosts scheme (input.drop 2)
        else relative hosts base input
  else if input.take 2 = ['/', '/'] then authority hosts scheme (input.drop 2)
  else if input.head? = some '/' then
    some ⟨scheme, none, none, .segments (pathFrom scheme [] [] input.tail)⟩
  else some ⟨scheme, none, none, .text (opaqueFrom input)⟩

/-- Without the C0 controls and spaces around it, and without tabs and newlines. -/
def clean (input : List Char) : List Char :=
  ((input.dropWhile isControlOrSpace).rdropWhile isControlOrSpace).filter fun char =>
    !isTabOrNewline char

/-- The basic URL parser. -/
def parse (hosts : HostParser) (base : Option Url) (input : List Char) : Option Url :=
  let input := clean input
  match schemeStart input with
  | none => noScheme hosts base input
  | some (scheme, after) => afterScheme hosts base scheme after

/-! ### What scripts read -/

/-- `pathname`. -/
def pathname (url : Url) : List Char :=
  match url.path with
  | .text chars => chars
  | .segments segments => segments.flatMap fun segment => '/' :: segment

/-- `hostname`. -/
def hostname (url : Url) : List Char := url.host.getD []

/-- `host`. -/
def hostText (url : Url) : List Char :=
  url.hostname ++ url.port.elim [] fun port => ':' :: Nat.toDigits 10 port

/-- `origin` of a URL with a special scheme other than that of files. -/
def origin (url : Url) : List Char := url.scheme ++ "://".toList ++ url.hostText

example : (parse (fun _ text => some text) none " HTTPS:host\\r\\x/../a b?q".toList).map pathname =
    some "/r/a%20b".toList := by decide +kernel

/-! ### Texts that are no URL -/

private theorem schemeFrom_eq_none {input : List Char} (noColon : ':' ∉ input) :
    schemeFrom input = none := by
  induction input with
  | nil => rfl
  | cons char rest inductionHypothesis =>
      rw [List.mem_cons, not_or] at noColon
      rw [schemeFrom, inductionHypothesis noColon.2]
      split
      · rfl
      · exact if_neg (Ne.symm noColon.1)

private theorem mem_of_mem_clean {input : List Char} {char : Char} (member : char ∈ clean input) :
    char ∈ input := by
  have inner := List.mem_of_mem_filter member
  have stripped := (List.rdropWhile_prefix isControlOrSpace _).subset inner
  exact (List.dropWhile_suffix isControlOrSpace).subset stripped

/-- Without a base, a text without a colon is no URL. -/
theorem parse_of_no_colon (hosts : HostParser) {input : List Char} (noColon : ':' ∉ input) :
    parse hosts none input = none := by
  have noScheme : schemeStart (clean input) = none := by
    unfold schemeStart
    rw [schemeFrom_eq_none fun member => noColon (mem_of_mem_clean member), ite_self]
  unfold parse
  dsimp only
  rw [noScheme]
  rfl

/-- A text without spaces and controls is left as it is. -/
theorem clean_eq_self {input : List Char} (visible : ∀ char ∈ input, 0x20 < char.toNat) :
    clean input = input := by
  have kept : ∀ char ∈ input, isControlOrSpace char = false := fun char member =>
    decide_eq_false (Nat.not_le_of_lt (visible char member))
  have front : input.dropWhile isControlOrSpace = input := by
    cases input with
    | nil => rfl
    | cons char rest => exact List.dropWhile_cons_of_neg (by simp [kept char List.mem_cons_self])
  have back : input.rdropWhile isControlOrSpace = input := by
    refine List.rdropWhile_eq_self_iff.mpr fun some => ?_
    rw [kept _ (List.getLast_mem some)]
    exact Bool.false_ne_true
  rw [clean, front, back, List.filter_eq_self]
  intro char member
  have above := visible char member
  have notTab : char ≠ '\t' := by
    rintro rfl
    exact absurd above (by decide)
  have notFeed : char ≠ '\n' := by
    rintro rfl
    exact absurd above (by decide)
  have notReturn : char ≠ '\r' := by
    rintro rfl
    exact absurd above (by decide)
  simp [isTabOrNewline, notTab, notFeed, notReturn]

/-! ### Plain segments -/

/-- A segment that a path keeps as it is. -/
structure IsSegment (segment : List Char) : Prop where
  nonempty : segment ≠ []
  plain : ∀ char ∈ segment, isPathSet char = false ∧ isTerminator true char = false
  notSingle : isSingleDot segment = false
  notDouble : isDoubleDot segment = false

private theorem isTerminator_of_special {char : Char} (plain : isTerminator true char = false)
    (special : Bool) : isTerminator special char = false := by
  cases special with
  | true => exact plain
  | false =>
      simp only [isTerminator, Bool.or_eq_false_iff] at plain ⊢
      exact ⟨plain.1, rfl⟩

private theorem pathFrom_plain {text : List Char}
    (plain : ∀ char ∈ text, isPathSet char = false ∧ isTerminator true char = false)
    (scheme : List Char) (path : List (List Char)) (buffer rest : List Char) :
    pathFrom scheme path buffer (text ++ rest) = pathFrom scheme path (buffer ++ text) rest := by
  induction text generalizing buffer with
  | nil => rw [List.nil_append, List.append_nil]
  | cons char text inductionHypothesis =>
      obtain ⟨⟨kept, goesOn⟩, others⟩ := List.forall_mem_cons.mp plain
      have same := isTerminator_of_special goesOn (isSpecial scheme)
      simp only [isTerminator, Bool.or_eq_false_iff, decide_eq_false_iff_not,
        Bool.and_eq_false_iff] at same
      obtain ⟨⟨⟨notSlash, notQuery⟩, notHash⟩, notBackslash⟩ := same
      have inside : ¬ (char = '/' ∨ (isSpecial scheme = true ∧ char = '\\')) := by
        rintro (slash | ⟨special, backslash⟩)
        · exact notSlash slash
        · rcases notBackslash with notSpecial | other
          · exact Bool.false_ne_true (notSpecial.symm.trans special)
          · exact other backslash
      rw [List.cons_append, pathFrom, if_neg inside, if_neg (not_or.mpr ⟨notQuery, notHash⟩),
        inductionHypothesis others, percentEncode, kept, if_neg Bool.false_ne_true,
        ← List.append_cons]

private theorem endSegment_plain {scheme segment : List Char} (notFile : scheme ≠ fileScheme)
    (isSegment : IsSegment segment) (slash : Bool) (path : List (List Char)) :
    endSegment scheme slash path segment = path ++ [segment] := by
  unfold endSegment
  dsimp only
  rw [isSegment.notDouble, isSegment.notSingle, if_neg Bool.false_ne_true,
    if_neg Bool.false_ne_true, if_neg fun file => notFile file.1]

/-- A path of plain segments is read as it is written. -/
theorem pathFrom_segments {scheme : List Char} (notFile : scheme ≠ fileScheme)
    {segments : List (List Char)} (first : List Char)
    (plain : ∀ segment ∈ first :: segments, IsSegment segment) (path : List (List Char)) :
    pathFrom scheme path [] (first ++ segments.flatMap fun segment => '/' :: segment) =
      path ++ first :: segments := by
  induction segments generalizing first path with
  | nil =>
      have isSegment := plain first List.mem_cons_self
      rw [pathFrom_plain isSegment.plain, List.nil_append, List.flatMap_nil, pathFrom,
        endSegment_plain notFile isSegment]
  | cons second segments inductionHypothesis =>
      obtain ⟨isSegment, others⟩ := List.forall_mem_cons.mp plain
      rw [pathFrom_plain isSegment.plain, List.nil_append, List.flatMap_cons, List.cons_append,
        pathFrom, if_pos (Or.inl rfl), endSegment_plain notFile isSegment,
        inductionHypothesis second others, ← List.append_cons]

/-! ### Sites -/

/-- Neither delimits a host nor is removed. -/
def isHostChar (char : Char) : Bool :=
  0x20 < char.toNat && char ∉ ['/', '\\', '?', '#', '@', '[', ']']

/-- A host as it is written: one without a colon, or one in brackets. -/
def IsHost (text : List Char) : Prop :=
  text ≠ [] ∧ (∀ char ∈ text, isHostChar char = true ∧ char ≠ ':') ∨
    ∃ inner, text = '[' :: (inner ++ [']']) ∧ ∀ char ∈ inner, isHostChar char = true

/-- What the parser makes of URLs with a special scheme but that of files: the
host parser returns their hosts as they are, and a default port is not kept. -/
structure IsSite (hosts : HostParser) (url : Url) : Prop where
  special : isSpecial url.scheme = true
  notFile : url.scheme ≠ fileScheme
  host : ∃ text, url.host = some text ∧ IsHost text ∧ hosts false text = some text
  port : ∀ port ∈ url.port, port ≤ 65535 ∧ defaultPort url.scheme ≠ some port
  path : ∃ segments, url.path = .segments segments

private theorem schemeStart_of_special {scheme : List Char} (special : isSpecial scheme = true)
    (rest : List Char) : schemeStart (scheme ++ ':' :: rest) = some (scheme, rest) := by
  obtain ⟨entry, member, same⟩ := List.lookup_isSome_iff.mp special
  obtain rfl : scheme = entry.1 := eq_of_beq same
  simp only [specialSchemes, List.mem_cons, List.not_mem_nil, or_false] at member
  rcases member with rfl | rfl | rfl | rfl | rfl | rfl <;> rfl

private theorem isHostChar_iff {char : Char} : isHostChar char = true ↔
    0x20 < char.toNat ∧ char ∉ ['/', '\\', '?', '#', '@', '[', ']'] := by
  rw [isHostChar, Bool.and_eq_true, decide_eq_true_eq, decide_eq_true_eq]

/-- What may stand in the authority of a site: no space, no slash and no `@`. -/
def IsInside (char : Char) : Prop :=
  0x20 < char.toNat ∧ isTerminator true char = false ∧ char ≠ '@'

private theorem inside_of_isHostChar {char : Char} (plain : isHostChar char = true) :
    IsInside char := by
  obtain ⟨visible, others⟩ := isHostChar_iff.mp plain
  simp only [List.mem_cons, List.not_mem_nil, or_false, not_or] at others
  refine ⟨visible, ?_, others.2.2.2.2.1⟩
  simp [isTerminator, others]

private theorem IsHost.inside {text : List Char} (isHost : IsHost text) :
    ∀ char ∈ text, IsInside char := by
  rcases isHost with ⟨-, plain⟩ | ⟨inner, rfl, plain⟩
  · exact fun char member => inside_of_isHostChar (plain char member).1
  · intro char member
    rcases List.mem_cons.mp member with rfl | later
    · exact ⟨by decide, by decide, by decide⟩
    · rcases List.mem_append.mp later with within | last
      · exact inside_of_isHostChar (plain char within)
      · rw [List.mem_singleton.mp last]
        exact ⟨by decide, by decide, by decide⟩

private theorem IsHost.nonempty {text : List Char} (isHost : IsHost text) : text ≠ [] := by
  rcases isHost with ⟨some, -⟩ | ⟨inner, rfl, -⟩
  · exact some
  · exact List.cons_ne_nil _ _

/-- The colon of a port is the first one outside brackets. -/
theorem splitPort_host {text rest : List Char} (isHost : IsHost text) :
    splitPort false (text ++ rest) =
      (text ++ (splitPort false rest).1, (splitPort false rest).2) := by
  have plainly : ∀ (insideBrackets : Bool) (text rest : List Char),
      (∀ char ∈ text, isHostChar char = true ∧ (insideBrackets = false → char ≠ ':')) →
      splitPort insideBrackets (text ++ rest) =
        (text ++ (splitPort insideBrackets rest).1, (splitPort insideBrackets rest).2) := by
    intro insideBrackets text rest plain
    induction text with
    | nil => rfl
    | cons char text inductionHypothesis =>
        obtain ⟨⟨isPlain, noColon⟩, others⟩ := List.forall_mem_cons.mp plain
        have excluded := (isHostChar_iff.mp isPlain).2
        simp only [List.mem_cons, List.not_mem_nil, or_false, not_or] at excluded
        obtain ⟨-, -, -, -, -, notOpening, notClosing⟩ := excluded
        rw [List.cons_append, splitPort, if_neg fun colon => noColon colon.2 colon.1,
          if_neg notOpening, if_neg notClosing, inductionHypothesis others]
        rfl
  rcases isHost with ⟨-, plain⟩ | ⟨inner, rfl, plain⟩
  · exact plainly false text rest fun char member =>
      ⟨(plain char member).1, fun _ => (plain char member).2⟩
  · have within := plainly true inner (']' :: rest) fun char member =>
      ⟨plain char member, fun outside => nomatch outside⟩
    have opens : splitPort false ('[' :: (inner ++ ']' :: rest)) =
        ('[' :: (splitPort true (inner ++ ']' :: rest)).1,
          (splitPort true (inner ++ ']' :: rest)).2) := rfl
    have closes : splitPort true (']' :: rest) =
        (']' :: (splitPort false rest).1, (splitPort false rest).2) := rfl
    rw [List.cons_append, List.append_assoc, List.singleton_append, opens, within, closes]
    simp

private theorem portOf_toDigits {scheme : List Char} {port : ℕ} (bound : port ≤ 65535)
    (other : defaultPort scheme ≠ some port) :
    portOf scheme (Nat.toDigits 10 port) = some (some port) := by
  have digits : (Nat.toDigits 10 port).all Char.isDigit = true :=
    List.all_eq_true.mpr fun digit member =>
      Nat.isDigit_of_mem_toDigits (by decide) (by decide) member
  rw [portOf, if_pos digits, if_neg Nat.toDigits_ne_nil]
  dsimp only
  rw [Nat.ofDigitChars_ten_toDigits, if_neg (by omega), if_neg other]

private theorem inside_of_isDigit {char : Char} (digit : char.isDigit = true) : IsInside char := by
  obtain ⟨above, below⟩ := (Bool.and_eq_true _ _).mp digit
  have lower : 0x30 ≤ char.toNat := of_decide_eq_true above
  have upper : char.toNat ≤ 0x39 := of_decide_eq_true below
  have other : ∀ excluded : Char, 0x39 < excluded.toNat ∨ excluded.toNat < 0x30 →
      char ≠ excluded := by
    rintro excluded outside rfl
    omega
  refine ⟨by omega, ?_, other '@' (by decide)⟩
  simp [isTerminator, other '/' (by decide), other '?' (by decide), other '#' (by decide),
    other '\\' (by decide)]

section

variable {hosts : HostParser} {url : Url}

private theorem IsSite.hostname (site : url.IsSite hosts) : some url.hostname = url.host ∧
    IsHost url.hostname ∧ hosts false url.hostname = some url.hostname := by
  obtain ⟨text, isText, isHost, accepted⟩ := site.host
  rw [Url.hostname, isText, Option.getD_some]
  exact ⟨rfl, isHost, accepted⟩

private theorem IsSite.hostText (site : url.IsSite hosts) :
    url.hostText ≠ [] ∧ ∀ char ∈ url.hostText, IsInside char := by
  obtain ⟨-, isHost, -⟩ := site.hostname
  unfold Url.hostText
  refine ⟨List.append_ne_nil_of_left_ne_nil isHost.nonempty _, fun char member => ?_⟩
  rcases List.mem_append.mp member with inHost | inPort
  · exact isHost.inside char inHost
  · cases portIs : url.port with
    | none =>
        rw [portIs] at inPort
        cases inPort
    | some port =>
        rw [portIs] at inPort
        rcases List.mem_cons.mp inPort with rfl | digit
        · exact ⟨by decide, by decide, by decide⟩
        · exact inside_of_isDigit (Nat.isDigit_of_mem_toDigits (by decide) (by decide) digit)

private theorem IsSite.hostAndPort (site : url.IsSite hosts) :
    hostAndPort hosts url.scheme url.hostText = some (url.hostname, url.port) := by
  obtain ⟨-, isHost, accepted⟩ := site.hostname
  unfold Url.hostAndPort Url.hostText
  rw [splitPort_host isHost, site.special]
  cases portIs : url.port with
  | none =>
      have split : splitPort false [] = ([], none) := rfl
      dsimp only [Option.elim]
      rw [split]
      dsimp only
      rw [List.append_nil, if_neg fun empty => isHost.nonempty empty.2, Bool.not_true, accepted]
      rfl
  | some port =>
      obtain ⟨bound, other⟩ := site.port port portIs
      have split : splitPort false (':' :: Nat.toDigits 10 port) =
          ([], some (Nat.toDigits 10 port)) := rfl
      dsimp only [Option.elim]
      rw [split]
      dsimp only
      rw [List.append_nil, if_neg isHost.nonempty, Bool.not_true, accepted, Option.bind_some,
        portOf_toDigits bound other]
      rfl

/-- An authority ends at the slash of the path. -/
theorem IsSite.authority (site : url.IsSite hosts) (rest : List Char) :
    authority hosts url.scheme (url.hostText ++ '/' :: rest) = some { url with
      path := .segments (pathFrom url.scheme [] [] rest) } := by
  obtain ⟨-, inside⟩ := site.hostText
  have goesOn : ∀ char ∈ url.hostText, (!isTerminator true char) = true := fun char member => by
    rw [(inside char member).2.1, Bool.not_false]
  have taken : (url.hostText ++ '/' :: rest).takeWhile (fun char => !isTerminator true char) =
      url.hostText := by
    rw [List.takeWhile_append_of_pos goesOn, List.takeWhile_cons_of_neg (by decide),
      List.append_nil]
  have dropped : (url.hostText ++ '/' :: rest).dropWhile (fun char => !isTerminator true char) =
      '/' :: rest := by
    rw [List.dropWhile_append_of_pos goesOn, List.dropWhile_cons_of_neg (by decide)]
  have noCredentials : '@' ∉ url.hostText := fun member => (inside '@' member).2.2 rfl
  have whole : url.hostText.rtakeWhile (fun char => char ≠ '@') = url.hostText :=
    List.rtakeWhile_eq_self_iff.mpr fun char member => decide_eq_true (inside char member).2.2
  unfold Url.authority
  rw [site.special]
  dsimp only
  rw [taken, dropped, whole, if_neg fun credentials => noCredentials credentials.1,
    site.hostAndPort, Option.map_some]
  dsimp only
  rw [site.hostname.1, pathStart, if_pos (Or.inl rfl)]

private theorem IsSite.ignoreSlashes (site : url.IsSite hosts) (rest : List Char) :
    ignoreSlashes hosts url.scheme (url.hostText ++ '/' :: rest) = some { url with
      path := .segments (pathFrom url.scheme [] [] rest) } := by
  obtain ⟨some, inside⟩ := site.hostText
  have kept : (url.hostText ++ '/' :: rest).dropWhile isSlash = url.hostText ++ '/' :: rest := by
    obtain ⟨first, others, begins⟩ := List.exists_cons_of_ne_nil some
    have goesOn := (inside first (begins ▸ List.mem_cons_self)).2.1
    simp only [isTerminator, Bool.or_eq_false_iff, decide_eq_false_iff_not, Bool.true_and] at goesOn
    rw [begins, List.cons_append, List.dropWhile_cons_of_neg]
    simp [isSlash, goesOn]
  rw [Url.ignoreSlashes, kept, site.authority]

/-- The base does not matter for a URL with a scheme and a host. -/
theorem IsSite.afterScheme (site : url.IsSite hosts) (base : Option Url) (rest : List Char) :
    afterScheme hosts base url.scheme ('/' :: '/' :: (url.hostText ++ '/' :: rest)) =
      some { url with path := .segments (pathFrom url.scheme [] [] rest) } := by
  unfold Url.afterScheme
  rw [if_neg site.notFile, if_pos site.special]
  split
  · exact site.ignoreSlashes rest
  · exact (if_pos rfl).trans (site.ignoreSlashes rest)

/-- The text of a path. -/
def pathText (segments : List (List Char)) : List Char :=
  segments.flatMap fun segment => '/' :: segment

private theorem visible_pathText {segments : List (List Char)}
    (plain : ∀ segment ∈ segments, IsSegment segment) :
    ∀ char ∈ pathText segments, 0x20 < char.toNat := by
  intro char member
  obtain ⟨segment, isSegment, inside⟩ := List.mem_flatMap.mp member
  rcases List.mem_cons.mp inside with rfl | within
  · decide
  · have kept := ((plain segment isSegment).plain char within).1
    simp only [isPathSet, isControlSet, Bool.or_eq_false_iff, decide_eq_false_iff_not,
      List.mem_cons, not_or] at kept
    omega

private theorem IsSite.visible_origin (site : url.IsSite hosts) :
    ∀ char ∈ url.origin, 0x20 < char.toNat := by
  have scheme : ∀ char ∈ url.scheme, 0x20 < char.toNat := by
    obtain ⟨entry, member, same⟩ := List.lookup_isSome_iff.mp site.special
    have schemes : (specialSchemes.all fun entry =>
        entry.1.all fun char => 0x20 < char.toNat) = true := by decide
    rw [eq_of_beq same]
    intro char inScheme
    exact of_decide_eq_true
      (List.all_eq_true.mp (List.all_eq_true.mp schemes entry member) char inScheme)
  have mark : ("://".toList.all fun char => 0x20 < char.toNat) = true := by decide
  intro char member
  rcases List.mem_append.mp member with front | inHost
  · rcases List.mem_append.mp front with inScheme | inMark
    · exact scheme char inScheme
    · exact of_decide_eq_true (List.all_eq_true.mp mark char inMark)
  · exact (site.hostText.2 char inHost).1

private theorem pathname_of_segments {segments : List (List Char)}
    (path : url.path = .segments segments) :
    url.pathname = pathText segments := by
  rw [pathname, path]
  rfl

/-- The address of a site is parsed to it, against any base. -/
theorem IsSite.parse_href (site : url.IsSite hosts) (base : Option Url)
    {segments : List (List Char)} (path : url.path = .segments segments) (nonempty : segments ≠ [])
    (plain : ∀ segment ∈ segments, IsSegment segment) :
    parse hosts base (url.origin ++ url.pathname) = some url := by
  obtain ⟨first, others, rfl⟩ := List.exists_cons_of_ne_nil nonempty
  have visible : ∀ char ∈ url.origin ++ url.pathname, 0x20 < char.toNat := by
    rw [pathname_of_segments path]
    intro char member
    rcases List.mem_append.mp member with inOrigin | inPath
    · exact site.visible_origin char inOrigin
    · exact visible_pathText plain char inPath
  have written : url.origin ++ url.pathname = url.scheme ++ ':' :: '/' :: '/' ::
      (url.hostText ++ '/' :: (first ++ pathText others)) := by
    rw [pathname_of_segments path, origin, pathText, List.flatMap_cons]
    simp [pathText]
  unfold parse
  dsimp only
  rw [clean_eq_self visible, written, schemeStart_of_special site.special]
  dsimp only
  rw [site.afterScheme, pathText, pathFrom_segments site.notFile first plain, List.nil_append,
    ← path]

/-- A path is parsed against the address of a site. -/
theorem IsSite.parse_path (site : url.IsSite hosts) {segments : List (List Char)}
    (nonempty : segments ≠ []) (plain : ∀ segment ∈ segments, IsSegment segment) :
    parse hosts (some url) (pathText segments) =
      some { url with path := .segments segments } := by
  obtain ⟨first, others, rfl⟩ := List.exists_cons_of_ne_nil nonempty
  have isSegment := plain first List.mem_cons_self
  obtain ⟨char, chars, begins⟩ := List.exists_cons_of_ne_nil isSegment.nonempty
  have notTerminator := (isSegment.plain char (begins ▸ List.mem_cons_self)).2
  simp only [isTerminator, Bool.or_eq_false_iff, decide_eq_false_iff_not, Bool.true_and]
    at notTerminator
  obtain ⟨current, isCurrent⟩ := site.path
  have slash : pathText (first :: others) = '/' :: (first ++ pathText others) := rfl
  have noScheme : schemeStart ('/' :: (first ++ pathText others)) = none := rfl
  have head : (first ++ pathText others).head? = some char := by
    rw [begins]
    rfl
  unfold parse
  dsimp only
  rw [clean_eq_self (visible_pathText plain), slash, noScheme]
  dsimp only
  rw [Url.noScheme, Option.bind_some, isCurrent]
  dsimp only
  rw [if_neg site.notFile, relative, if_pos (Or.inl rfl), relativeSlash, head]
  rw [if_neg (by simp [isSlash, notTerminator]), if_neg (by simp [notTerminator]), pathText,
    pathFrom_segments site.notFile first plain, List.nil_append]

end

end Url

end CollabEditor.Library
