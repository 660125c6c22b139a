import QueryGate.Foundation.Urls

/-! # Where a login returns to

`is_safe_relative_path` of `identity/models.py` and `_safe_return_to` of `api/sso_routes.py`:
an accepted path stays on the origin exactly when it is not a slash, tabs and another slash,
which the browser reads as the start of an authority and `urlsplit` as an empty one.
-/

namespace QueryGate

open Foundation

section ReturnTarget

variable (checks : NetlocChecks)

/-- `is_safe_relative_path`, or `none` where `urlsplit` raises. -/
def isSafeRelativePath (value : String) : Option Bool :=
  let chars := value.toList
  if chars.isEmpty || !List.isPrefixOf ['/'] chars then some false
  else if ['/', '/'].isPrefixOf chars || ['/', '\\'].isPrefixOf chars then some false
  else if chars.contains '\\' || chars.contains '\n' || chars.contains '\r' then some false
  else (urlsplit checks value).map fun parts => parts.scheme.isEmpty && parts.netloc.isEmpty

/-- `_safe_return_to`. -/
def safeReturnTo (candidate defaultLandingPath : String) : Option String :=
  if candidate = "" then some defaultLandingPath
  else (isSafeRelativePath checks candidate).map fun safe =>
    if safe then candidate else defaultLandingPath

/-- A slash, tabs, and another slash. -/
def TabbedAuthority (value : String) : Prop :=
  ∃ tabs rest, value.toList = '/' :: (tabs ++ '/' :: rest) ∧ ∀ letter ∈ tabs, letter = '\t'

/-- One slash, then no slash, and none of the letters a parser deletes or reads as a slash. -/
structure PlainPath (value : String) (rest : List Char) : Prop where
  slashed : value.toList = '/' :: rest
  single : rest.head? ≠ some '/'
  letters : ∀ letter ∈ rest, letter ≠ '\\' ∧ letter ≠ '\n' ∧ letter ≠ '\r'

variable {checks}

theorem withoutTabs_cons {letter : Char} (solid : isTabOrNewline letter = false)
    (rest : List Char) : withoutTabs (letter :: rest) = letter :: withoutTabs rest := by
  rw [withoutTabs, List.filter_cons, solid]
  rfl

/-- The letters behind a slash keep what stands in front of it. -/
theorem rdropWhile_append_slash (front rest : List Char) :
    (front ++ '/' :: rest).rdropWhile isControlOrSpace =
      front ++ '/' :: rest.rdropWhile isControlOrSpace := by
  unfold List.rdropWhile
  rw [List.reverse_append, List.reverse_cons, List.append_assoc, List.dropWhile_append]
  split
  case isTrue gone =>
    rw [List.isEmpty_iff] at gone
    rw [gone]
    simp [isControlOrSpace]
  case isFalse left =>
    simp

theorem cleanReference_of_slash {value : String} {rest : List Char}
    (slashed : value.toList = '/' :: rest) :
    cleanReference value = '/' :: withoutTabs (rest.rdropWhile isControlOrSpace) := by
  have kept : ('/' :: rest).dropWhile isControlOrSpace = '/' :: rest := by
    simp [isControlOrSpace]
  rw [cleanReference, slashed, kept, ← List.nil_append ('/' :: rest), rdropWhile_append_slash,
    List.nil_append, withoutTabs_cons (by decide)]

/-- What the raw tests leave. -/
theorem plainPath_of_safe {value : String} (safe : isSafeRelativePath checks value = some true) :
    ∃ rest, PlainPath value rest ∧
      ∃ parts, urlsplit checks value = some parts ∧ parts.netloc = [] := by
  unfold isSafeRelativePath at safe
  dsimp only at safe
  split_ifs at safe with start double letters
  · cases safe
  · cases safe
  · cases safe
  obtain ⟨parts, split, both⟩ := Option.map_eq_some_iff.mp safe
  rw [Bool.and_eq_true, List.isEmpty_iff, List.isEmpty_iff] at both
  cases chars : value.toList with
  | nil => simp [chars] at start
  | cons first rest =>
      simp only [chars, List.isEmpty_cons, List.isPrefixOf, Bool.and_true, Bool.false_or,
        Bool.not_eq_true', beq_eq_false_iff_ne, ne_eq, not_not] at start
      cases start
      simp only [chars, List.contains_cons, Bool.or_eq_true, List.contains_iff_mem, beq_iff_eq,
        not_or] at letters
      refine ⟨rest, ⟨chars, ?_, ?_⟩, parts, split, both.2⟩
      · intro second
        cases rest with
        | nil => cases second
        | cons next more =>
            cases second
            simp [chars, List.isPrefixOf] at double
      · intro letter member
        refine ⟨?_, ?_, ?_⟩ <;> rintro rfl
        · exact letters.1.1.2 member
        · exact letters.1.2.2 member
        · exact letters.2.2 member

/-- `urlsplit` finds no scheme behind a slash. -/
theorem splitScheme_slash (rest : List Char) : splitScheme ('/' :: rest) = ([], '/' :: rest) := by
  have colon : ('/' != ':') = true := by decide
  have notAlpha : Char.isAlpha '/' = false := by decide
  unfold splitScheme
  simp only [List.takeWhile_cons, List.dropWhile_cons, colon, ↓reduceIte, List.head?_cons,
    Option.any_some, notAlpha, Bool.false_and]
  split <;> rfl

theorem urlsplit_slash {value : String} {rest : List Char} (slashed : value.toList = '/' :: rest) :
    splitScheme (withoutTabs (value.toList.dropWhile isControlOrSpace)) =
      ([], '/' :: withoutTabs rest) := by
  have kept : ('/' :: rest).dropWhile isControlOrSpace = '/' :: rest := by
    simp [isControlOrSpace]
  rw [slashed, kept, withoutTabs_cons (by decide), splitScheme_slash]

/-- A plain path whose second letter is no slash for `urlsplit` either is accepted. -/
theorem safe_of_plainPath {value : String} {rest : List Char} (plain : PlainPath value rest)
    (apart : (withoutTabs rest).head? ≠ some '/') :
    isSafeRelativePath checks value = some true := by
  obtain ⟨slashed, single, letters⟩ := plain
  have split : ∃ parts, urlsplit checks value = some parts ∧ parts.scheme = [] ∧
      parts.netloc = [] := by
    unfold urlsplit
    rw [urlsplit_slash slashed]
    cases behind : withoutTabs rest with
    | nil => exact ⟨_, rfl, rfl, rfl⟩
    | cons second more =>
        have notSlash : second ≠ '/' := fun same => apart (by rw [behind, same]; rfl)
        simp [notSlash]
  obtain ⟨parts, split, scheme, netloc⟩ := split
  have outside : ∀ letter, (letter = '\\' ∨ letter = '\n' ∨ letter = '\r') → letter ∉ rest := by
    rintro letter bad member
    obtain ⟨notBack, notLine, notReturn⟩ := letters letter member
    rcases bad with rfl | rfl | rfl
    · exact notBack rfl
    · exact notLine rfl
    · exact notReturn rfl
  unfold isSafeRelativePath
  dsimp only
  rw [slashed, if_neg (by simp [List.isPrefixOf]), if_neg, if_neg, split]
  · rw [Option.map_some, scheme, netloc]
    rfl
  · simp [outside]
  · cases rest with
    | nil => simp [List.isPrefixOf]
    | cons second more =>
        have notBack := (letters second (List.mem_cons_self ..)).1
        have notSlash : second ≠ '/' := fun same => single (by rw [same]; rfl)
        simp [List.isPrefixOf, Ne.symm notBack, Ne.symm notSlash]

/-- The browser reads a second slash where only tabs stand before it. -/
theorem head_cleaned_iff {rest : List Char}
    (letters : ∀ letter ∈ rest, letter ≠ '\\' ∧ letter ≠ '\n' ∧ letter ≠ '\r') :
    (withoutTabs (rest.rdropWhile isControlOrSpace)).head? = some '/' ↔
      ∃ tabs more, rest = tabs ++ '/' :: more ∧ ∀ letter ∈ tabs, letter = '\t' := by
  constructor
  · intro first
    obtain ⟨behind, cleaned⟩ := List.head?_eq_some_iff.mp first
    obtain ⟨tabs, more, split, blank, _, _⟩ := List.filter_eq_cons_iff.mp cleaned
    obtain ⟨suffix, whole⟩ := List.rdropWhile_prefix isControlOrSpace rest
    refine ⟨tabs, more ++ suffix, by rw [← whole, split]; simp, fun letter member => ?_⟩
    have inside : letter ∈ rest := by
      rw [← whole, split]
      simp [member]
    have deleted := blank letter member
    obtain ⟨_, notLine, notReturn⟩ := letters letter inside
    simpa [isTabOrNewline, notLine, notReturn] using deleted
  · rintro ⟨tabs, more, rfl, blank⟩
    have gone : tabs.filter (fun letter => !isTabOrNewline letter) = [] := by
      apply List.filter_eq_nil_iff.mpr
      intro letter member
      rw [blank letter member]
      decide
    rw [rdropWhile_append_slash, withoutTabs, List.filter_append, gone, List.nil_append]
    rfl

theorem isUrlSlash_iff {letter : Char} (notBack : letter ≠ '\\') :
    isUrlSlash letter = true ↔ letter = '/' := by
  simp [isUrlSlash, notBack]

/-- An accepted path stays on the origin of every base exactly when it is not a slash, tabs and
another slash, and every plain path without a slash behind tabs is accepted. -/
theorem isSafeRelativePath_stays_iff (checks : NetlocChecks)
    (parseHost : List Char → Option String) (value : String) :
    (isSafeRelativePath checks value = some true →
      (StaysOnOrigin parseHost value ↔ ¬TabbedAuthority value)) ∧
    ∀ rest, PlainPath value rest → '\t' ∉ rest →
      isSafeRelativePath checks value = some true := by
  constructor
  · intro safe
    obtain ⟨rest, ⟨slashed, single, letters⟩, _⟩ := plainPath_of_safe safe
    rw [staysOnOrigin_iff (cleanReference_of_slash slashed)]
    have tabbed : TabbedAuthority value ↔
        (withoutTabs (rest.rdropWhile isControlOrSpace)).head? = some '/' := by
      rw [head_cleaned_iff letters, TabbedAuthority, slashed]
      simp only [List.cons.injEq, true_and]
    rw [tabbed]
    constructor
    · intro plain first
      have slash := plain '/' first
      revert slash
      decide
    · intro apart letter first
      have inside : letter ∈ rest := by
        have member := List.mem_of_mem_head? first
        exact (List.rdropWhile_prefix isControlOrSpace rest).subset (List.mem_filter.mp member).1
      rw [← Bool.not_eq_true, isUrlSlash_iff (letters letter inside).1]
      rintro rfl
      exact apart first
  · intro rest plain noTabs
    apply safe_of_plainPath plain
    intro first
    have kept : withoutTabs rest = rest := by
      apply List.filter_eq_self.mpr
      intro letter member
      obtain ⟨_, notLine, notReturn⟩ := plain.letters letter member
      have notTab : letter ≠ '\t' := fun same => noTabs (same ▸ member)
      simp [isTabOrNewline, notTab, notLine, notReturn]
    rw [kept] at first
    exact plain.single first

/-- A login returns to an accepted path, as long as the configured landing path is one. -/
theorem safe_of_safeReturnTo {checks : NetlocChecks} {candidate landing target : String}
    (configured : isSafeRelativePath checks landing = some true)
    (returned : safeReturnTo checks candidate landing = some target) :
    isSafeRelativePath checks target = some true := by
  unfold safeReturnTo at returned
  split at returned
  · cases returned
    exact configured
  · obtain ⟨safe, tested, same⟩ := Option.map_eq_some_iff.mp returned
    cases safe with
    | false =>
        cases same
        exact configured
    | true =>
        cases same
        exact tested

/-- A host is taken as it is written, and no network location is refused. -/
def plainHost (chars : List Char) : Option String :=
  some (String.ofList chars)

def lenientChecks : NetlocChecks where
  bracketed := fun _ => true
  normal := fun _ => true

/-- An accepted path that leads to another host. -/
theorem tabbedPath_leaves :
    isSafeRelativePath lenientChecks "/\t//evil.example/" = some true ∧
      cleanReference "/\t//evil.example/" = '/' :: "//evil.example/".toList ∧
      relativeSlash plainHost ⟨.https, "app.example", none⟩ "//evil.example/".toList =
        some (⟨.https, "evil.example", none⟩, ['/']) ∧
      ¬StaysOnOrigin plainHost "/\t//evil.example/" := by
  have cleaned : cleanReference "/\t//evil.example/" = '/' :: "//evil.example/".toList := by decide
  refine ⟨by decide, cleaned, by decide, fun stays => ?_⟩
  have slash := (staysOnOrigin_iff cleaned).mp stays '/' rfl
  revert slash
  decide

theorem adminPath_stays :
    StaysOnOrigin plainHost "/admin/?tab=policy" ∧
      isSafeRelativePath lenientChecks "/admin/?tab=policy" = some true := by
  have law := isSafeRelativePath_stays_iff lenientChecks plainHost "/admin/?tab=policy"
  have accepted : isSafeRelativePath lenientChecks "/admin/?tab=policy" = some true := by
    have letters : ("admin/?tab=policy".toList.all fun letter =>
        letter ≠ '\\' ∧ letter ≠ '\n' ∧ letter ≠ '\r') = true := by decide
    rw [List.all_eq_true] at letters
    exact law.2 "admin/?tab=policy".toList ⟨by decide, by decide,
      fun letter member => of_decide_eq_true (letters letter member)⟩ (by decide)
  refine ⟨(law.1 accepted).mpr ?_, accepted⟩
  rintro ⟨tabs, rest, chars, blank⟩
  have second : "/admin/?tab=policy".toList[1]? = some 'a' := by decide
  rw [chars] at second
  cases tabs with
  | nil =>
      revert second
      simp
  | cons letter more =>
      have tab := blank letter (List.mem_cons_self ..)
      revert second
      simp [tab]

end ReturnTarget

end QueryGate
