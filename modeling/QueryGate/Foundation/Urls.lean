import Mathlib.Data.List.DropRight
import Mathlib.Data.Nat.Digits.Defs

/-! # Two readings of a reference

How Python's `urlsplit` and a browser read a URL reference. Both first delete characters from
the text. The browser's states are those of the URL standard that a reference with a leading
slash goes through against a base with a special scheme, where a backslash counts as a slash.
How a host is read is a parameter, and so are the two tests that `urlsplit` makes of a network
location that is not empty.
-/

namespace Foundation

/-- U+0000 to U+0020. -/
def isControlOrSpace (letter : Char) : Bool :=
  decide (letter.toNat ≤ 32)

/-- Tab, line feed or carriage return. -/
def isTabOrNewline (letter : Char) : Bool :=
  letter == '\t' || letter == '\n' || letter == '\r'

/-- The text without its tabs, line feeds and carriage returns. -/
def withoutTabs (chars : List Char) : List Char :=
  chars.filter fun letter => !isTabOrNewline letter

/-! ## `urlsplit` -/

/-- The tests of a network location: of what stands in brackets, and of its normal form. -/
structure NetlocChecks where
  bracketed : List Char → Bool
  normal : List Char → Bool

/-- `SplitResult`. -/
structure SplitResult where
  scheme : List Char
  netloc : List Char
  path : List Char
  query : List Char
  fragment : List Char
  deriving DecidableEq, Repr

/-- `c in scheme_chars`. -/
def isSchemeChar (letter : Char) : Bool :=
  letter.isAlphanum || letter == '+' || letter == '-' || letter == '.'

/-- The scheme in small letters and what follows its colon. -/
def splitScheme (chars : List Char) : List Char × List Char :=
  let front := chars.takeWhile (· != ':')
  match chars.dropWhile (· != ':') with
  | ':' :: behind =>
      if front.head?.any Char.isAlpha && front.all isSchemeChar then
        (front.map Char.toLower, behind)
      else ([], chars)
  | _ => ([], chars)

/-- `_splitnetloc`: up to the first slash, question mark or number sign. -/
def splitNetloc (chars : List Char) : List Char × List Char :=
  chars.span fun letter => letter != '/' && letter != '?' && letter != '#'

/-- The text before the first such letter, and the text behind it. -/
def splitAtFirst (letter : Char) (chars : List Char) : List Char × List Char :=
  (chars.takeWhile (· != letter), (chars.dropWhile (· != letter)).drop 1)

/-- `urlsplit`, or `none` where it raises. -/
def urlsplit (checks : NetlocChecks) (text : String) : Option SplitResult :=
  let (scheme, url) := splitScheme (withoutTabs (text.toList.dropWhile isControlOrSpace))
  let (netloc, url) : List Char × List Char :=
    match url with
    | '/' :: '/' :: behind => splitNetloc behind
    | _ => ([], url)
  if netloc.contains '[' != netloc.contains ']' then none
  else if netloc.contains '[' && !checks.bracketed netloc then none
  else if !netloc.isEmpty && !checks.normal netloc then none
  else
    let (url, fragment) := splitAtFirst '#' url
    let (path, query) := splitAtFirst '?' url
    some { scheme := scheme, netloc := netloc, path := path, query := query, fragment := fragment }

/-! ## The browser -/

inductive HttpScheme where
  | http | https
  deriving DecidableEq, Repr

/-- The port that is left out. -/
def HttpScheme.defaultPort : HttpScheme → Nat
  | .http => 80
  | .https => 443

structure Origin where
  scheme : HttpScheme
  host : String
  port : Option Nat := none
  deriving DecidableEq, Repr

/-- A slash or a backslash. -/
def isUrlSlash (letter : Char) : Bool :=
  letter == '/' || letter == '\\'

/-- What ends an authority. -/
def endsAuthority (letter : Char) : Bool :=
  isUrlSlash letter || letter == '?' || letter == '#'

/-- The text as the parser starts with it. -/
def cleanReference (text : String) : List Char :=
  withoutTabs ((text.toList.dropWhile isControlOrSpace).rdropWhile isControlOrSpace)

section Browser

variable (parseHost : List Char → Option String)

/-- The host state: the characters before the first colon outside brackets, and those
behind it. -/
def splitHost : Bool → List Char → List Char × Option (List Char)
  | _, [] => ([], none)
  | inside, letter :: rest =>
      if letter = ':' ∧ inside = false then ([], some rest)
      else
        let inside := if letter = '[' then true else if letter = ']' then false else inside
        let (host, port) := splitHost inside rest
        (letter :: host, port)

/-- The port state. -/
def parsePort (scheme : HttpScheme) (digits : List Char) : Option (Option Nat) :=
  if digits.all Char.isDigit then
    let port := Nat.ofDigits 10 (digits.reverse.map fun digit => digit.toNat - '0'.toNat)
    if digits = [] then some none
    else if port > 65535 then none
    else if port = scheme.defaultPort then some none
    else some (some port)
  else none

/-- The authority and host states: the host, the port, and what the path starts with. -/
def parseAuthority (scheme : HttpScheme) (chars : List Char) :
    Option (String × Option Nat × List Char) := do
  let (authority, path) := chars.span fun letter => !endsAuthority letter
  let located := (authority.reverse.takeWhile (· != '@')).reverse
  let (host, digits) := splitHost false located
  if host = [] then none
  else
    let parsed ← parseHost host
    match digits with
    | none => some (parsed, none, path)
    | some digits =>
        let port ← parsePort scheme digits
        some (parsed, port, path)

/-- The relative slash state, behind the first slash. A second one starts an authority, however
many slashes follow. -/
def relativeSlash (base : Origin) (chars : List Char) : Option (Origin × List Char) :=
  match chars with
  | letter :: rest =>
      if isUrlSlash letter then
        (parseAuthority parseHost base.scheme (rest.dropWhile isUrlSlash)).map
          fun (host, port, path) => ({ scheme := base.scheme, host := host, port := port }, path)
      else some (base, chars)
  | [] => some (base, [])

/-- The reference starts with a slash and leads to a URL of the base's origin, whatever the
base. -/
def StaysOnOrigin (text : String) : Prop :=
  ∃ rest, cleanReference text = '/' :: rest ∧
    ∀ base, ∃ path, relativeSlash parseHost base rest = some (base, path)

variable {parseHost}

/-- Without a second slash the base keeps its origin. -/
theorem relativeSlash_of_plain {base : Origin} {chars : List Char}
    (plain : ∀ letter ∈ chars.head?, isUrlSlash letter = false) :
    relativeSlash parseHost base chars = some (base, chars) := by
  cases chars with
  | nil => rfl
  | cons letter rest =>
      rw [relativeSlash, if_neg]
      rw [plain letter rfl]
      exact Bool.false_ne_true

/-- With a second slash the host is not taken from the base. -/
theorem exists_base_of_slash {letter : Char} {rest : List Char}
    (slash : isUrlSlash letter = true) :
    ∃ base, ∀ path, relativeSlash parseHost base (letter :: rest) ≠ some (base, path) := by
  by_contra stays
  push Not at stays
  obtain ⟨path, first⟩ := stays ⟨.https, "first", none⟩
  obtain ⟨other, second⟩ := stays ⟨.https, "second", none⟩
  rw [relativeSlash, if_pos slash] at first second
  obtain ⟨⟨host, port, left⟩, parsed, same⟩ := Option.map_eq_some_iff.mp first
  rw [parsed] at second
  simp only [Prod.mk.injEq, Origin.mk.injEq, true_and] at same
  simp only [Option.map_some, Option.some.injEq, Prod.mk.injEq, Origin.mk.injEq, true_and] at second
  have hosts := same.1.1.symm.trans second.1.1
  revert hosts
  decide

/-- A reference with a leading slash stays on the origin exactly when no slash follows that one
in what the browser reads. -/
theorem staysOnOrigin_iff {text : String} {rest : List Char}
    (slashed : cleanReference text = '/' :: rest) :
    StaysOnOrigin parseHost text ↔ ∀ letter ∈ rest.head?, isUrlSlash letter = false := by
  constructor
  · rintro ⟨behind, cleaned, stays⟩ letter first
    rw [slashed] at cleaned
    cases cleaned
    cases rest with
    | nil => cases first
    | cons head more =>
        cases first
        by_contra slash
        have leaving : ∃ base, ∀ path,
            relativeSlash parseHost base (letter :: more) ≠ some (base, path) :=
          exists_base_of_slash (Bool.not_eq_false _ ▸ slash)
        obtain ⟨base, leaves⟩ := leaving
        obtain ⟨path, resolved⟩ := stays base
        exact leaves path resolved
  · exact fun plain => ⟨rest, slashed, fun base => ⟨rest, relativeSlash_of_plain plain⟩⟩

end Browser

end Foundation
