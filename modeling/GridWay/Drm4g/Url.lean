import GridWay.Lib.Dict
import GridWay.Lib.Text
import Mathlib.Data.List.SplitOn

/-!
# The components of a URL

`urlparse` of `drm4g/utils/url.py`. The components are globals of the module: a call assigns those
whose separator is in the URL, and returns all of them. The authority is always assigned.

* `Url.urlparse`: one call, on the globals that the calls before it left. The parameter `lower` is that
  of the language.
* `Url.Component`, `Url.sets`: the components that a call may leave as they are.
* `Url.Parts`: the components that a URL is built from.
* `Url.same_iff`: when the calls before do not matter.
* `Url.url_faithful_iff`: when a call returns what the URL was built from, whatever came before.
-/

namespace GridWay.Drm4g.Url

/-- A text. -/
abbrev Text := List Char

/-- The globals of the module, which are also what a call returns. -/
structure Globals where
  scheme : Option Text := none
  netloc : Option Text := none
  path : Option Text := none
  params : Dict Text Text := []
  query : Option Text := none
  fragment : Option Text := none
deriving DecidableEq, Repr

/-- The separator after the scheme. -/
def separator : Text := [':', '/', '/']

/-- The scheme `file`. -/
def file : Text := ['f', 'i', 'l', 'e']

/-- The name and the value of an element of a query. -/
def param (elem : Text) : Option (Text × Text) :=
  match elem.splitOn '=' with
  | name :: value :: _ => some (name, value)
  | _ => none

/-- The parameters of a query. -/
def paramsOf (query : Text) : Dict Text Text :=
  Dict.store ((query.splitOn ';').filterMap param) []

section Calls

variable (lower : Text → Text)

/-- The rest of a URL, and the globals so far. -/
abbrev State := Text × Globals

def takeScheme (s : State) : State :=
  match Cut.atSub separator s.1 with
  | some (_scheme, url) => (url, { s.2 with scheme := some (lower _scheme) })
  | none => s

def takeFragment (s : State) : State :=
  match Cut.atFirst '#' s.1 with
  | some (url, fragment) => (url, { s.2 with fragment := some fragment })
  | none => s

def takeQuery (s : State) : State :=
  match Cut.atFirst '?' s.1 with
  | some (url, query) => (url, { s.2 with query := some query, params := paramsOf query })
  | none => s

/-- The path of a file is all that is left. -/
def takePath (s : State) : State :=
  match Cut.atFirst '/' s.1 with
  | some (url, path) =>
    if s.2.scheme = some file then (s.1, { s.2 with path := some s.1 })
    else (url, { s.2 with path := some path })
  | none => s

def takeNetloc (s : State) : Globals := { s.2 with netloc := some s.1 }

/-- `urlparse`: the globals after a call, which are returned. -/
def urlparse (url : Text) (g : Globals) : Globals :=
  takeNetloc (takePath (takeQuery (takeFragment (takeScheme lower (url, g)))))

/-- The globals after calls, one after the other. -/
def after (calls : List Text) : Globals := calls.foldl (fun g url => urlparse lower url g) {}

end Calls

/-- The authority without a user. -/
def afterUser (netloc : Text) : Text :=
  match Cut.atFirst '@' netloc with
  | some (_, netloc) => netloc
  | none => netloc

/-- The authority without a port. -/
def beforePort (netloc : Text) : Text :=
  match Cut.atFirst ':' netloc with
  | some (netloc, _) => netloc
  | none => netloc

/-- `gethost`. -/
def gethost (netloc : Text) : Option Text :=
  let netloc := beforePort (afterUser netloc)
  if netloc = [] then none else some netloc

/-- The components that a call may leave as they are. -/
inductive Component where
  | scheme | path | query | fragment
deriving DecidableEq, Repr

/-- The URL after the scheme, before the fragment and before the query. -/
def afterScheme (url : Text) : Text :=
  match Cut.atSub separator url with
  | some (_, url) => url
  | none => url

def beforeFragment (url : Text) : Text :=
  match Cut.atFirst '#' (afterScheme url) with
  | some (url, _) => url
  | none => afterScheme url

def beforeQuery (url : Text) : Text :=
  match Cut.atFirst '?' (beforeFragment url) with
  | some (url, _) => url
  | none => beforeFragment url

/-- The separator of a component is in the URL. -/
def sets (url : Text) : Component → Bool
  | .scheme => (Cut.atSub separator url).isSome
  | .fragment => decide ('#' ∈ afterScheme url)
  | .query => decide ('?' ∈ beforeFragment url)
  | .path => decide ('/' ∈ beforeQuery url)

/-- A component that may be left as it is. -/
def Globals.get (g : Globals) : Component → Option Text
  | .scheme => g.scheme
  | .path => g.path
  | .query => g.query
  | .fragment => g.fragment

/-- The components that a URL is built from; only the authority is always there, and may be empty. -/
structure Parts where
  scheme : Option Text := none
  authority : Text := []
  path : Option Text := none
  query : Option Text := none
  fragment : Option Text := none
deriving DecidableEq, Repr

namespace Parts

variable (p : Parts)

/-- No component has a character that ends it. -/
structure WellFormed : Prop where
  scheme : ∀ s, p.scheme = some s → ':' ∉ s
  authority : ∀ c ∈ ['/', '?', '#'], c ∉ p.authority
  path : ∀ s, p.path = some s → ∀ c ∈ ['?', '#'], c ∉ s
  query : ∀ s, p.query = some s → '#' ∉ s

/-- The authority and the path. -/
def place : Text :=
  match p.path with
  | some path => p.authority ++ '/' :: path
  | none => p.authority

/-- All but the scheme and the fragment. -/
def request : Text :=
  match p.query with
  | some query => p.place ++ '?' :: query
  | none => p.place

/-- All but the scheme. -/
def reference : Text :=
  match p.fragment with
  | some fragment => p.request ++ '#' :: fragment
  | none => p.request

/-- The URL. -/
def build : Text :=
  match p.scheme with
  | some scheme => scheme ++ separator ++ p.reference
  | none => p.reference

/-- What a call should return. -/
def result (lower : Text → Text) : Globals where
  scheme := p.scheme.map lower
  netloc := some p.authority
  path := p.path
  params := (p.query.map paramsOf).getD []
  query := p.query
  fragment := p.fragment

/-- A URL without a scheme has no separator of one, and a file has no path. -/
def Plain (lower : Text → Text) : Prop :=
  (p.scheme = none → Cut.atSub separator p.reference = none) ∧
    (p.scheme.map lower = some file → p.path = none)

end Parts

variable {lower : Text → Text} {url : Text} {g : Globals} {calls : List Text} {c : Component}

/-- The path that a call assigns; it depends on the scheme. -/
def ownPath (scheme : Option Text) (url : Text) : Option Text :=
  (Cut.atFirst '/' (beforeQuery url)).map fun cut =>
    if scheme = some file then beforeQuery url else cut.2

/-- The authority that a call assigns. -/
def ownNetloc (scheme : Option Text) (url : Text) : Text :=
  ((Cut.atFirst '/' (beforeQuery url)).map fun cut =>
    if scheme = some file then beforeQuery url else cut.1).getD (beforeQuery url)

/-- The scheme after a call. -/
def ownScheme (lower : Text → Text) (url : Text) (g : Globals) : Option Text :=
  ((Cut.atSub separator url).map fun cut => lower cut.1).or g.scheme

lemma takeScheme_eq : takeScheme lower (url, g) =
    (afterScheme url, { g with scheme := ownScheme lower url g }) := by
  rw [takeScheme, afterScheme, ownScheme]
  cases Cut.atSub separator url with
  | none => rfl
  | some cut => rfl

lemma takeFragment_eq : takeFragment (afterScheme url, g) =
    (beforeFragment url, { g with
      fragment := ((Cut.atFirst '#' (afterScheme url)).map Prod.snd).or g.fragment }) := by
  rw [takeFragment, beforeFragment]
  cases Cut.atFirst '#' (afterScheme url) with
  | none => rfl
  | some cut => rfl

lemma takeQuery_eq : takeQuery (beforeFragment url, g) =
    (beforeQuery url, { g with
      query := ((Cut.atFirst '?' (beforeFragment url)).map Prod.snd).or g.query
      params := (((Cut.atFirst '?' (beforeFragment url)).map fun cut => paramsOf cut.2)).getD
        g.params }) := by
  rw [takeQuery, beforeQuery]
  cases Cut.atFirst '?' (beforeFragment url) with
  | none => rfl
  | some cut => rfl

lemma takePath_eq : takeNetloc (takePath (beforeQuery url, g)) =
    { g with
      path := (ownPath g.scheme url).or g.path
      netloc := some (ownNetloc g.scheme url) } := by
  rw [takePath, ownPath, ownNetloc]
  cases Cut.atFirst '/' (beforeQuery url) with
  | none => rfl
  | some cut =>
    by_cases isFile : g.scheme = some file
    · simp only [takeNetloc, if_pos isFile, Option.map_some, Option.or, Option.getD_some]
    · simp only [takeNetloc, if_neg isFile, Option.map_some, Option.or, Option.getD_some]

/-- What a call returns. -/
lemma urlparse_eq : urlparse lower url g =
    { scheme := ownScheme lower url g
      netloc := some (ownNetloc (ownScheme lower url g) url)
      path := (ownPath (ownScheme lower url g) url).or g.path
      params := (((Cut.atFirst '?' (beforeFragment url)).map fun cut => paramsOf cut.2)).getD g.params
      query := ((Cut.atFirst '?' (beforeFragment url)).map Prod.snd).or g.query
      fragment := ((Cut.atFirst '#' (afterScheme url)).map Prod.snd).or g.fragment } := by
  rw [urlparse, takeScheme_eq, takeFragment_eq, takeQuery_eq, takePath_eq]

/-- What is cut off at a separator, or was there before. -/
lemma cut_or {x : Char} {xs : Text} {f : Text × Text → Text} {o : Option Text} :
    (decide (x ∈ xs) = true ∧ ((Cut.atFirst x xs).map f).or o ≠ none) ∨
      (decide (x ∈ xs) = false ∧ ((Cut.atFirst x xs).map f).or o = o) := by
  cases cut : Cut.atFirst x xs with
  | none => exact .inr ⟨decide_eq_false (Cut.atFirst_eq_none_iff.1 cut), rfl⟩
  | some parts =>
    obtain ⟨before, rest⟩ := parts
    have mem : x ∈ xs := by
      rw [(Cut.atFirst_eq_some_iff.1 cut).1]
      exact List.mem_append_right _ List.mem_cons_self
    exact .inl ⟨decide_eq_true mem, fun none => (by cases none)⟩

/-- A component is set, or left as it is. -/
lemma get_urlparse (lower : Text → Text) (url : Text) (g : Globals) (c : Component) :
    (sets url c = true ∧ (urlparse lower url g).get c ≠ none) ∨
      (sets url c = false ∧ (urlparse lower url g).get c = g.get c) := by
  rw [urlparse_eq]
  cases c with
  | scheme =>
    show ((Cut.atSub separator url).isSome = true ∧ ownScheme lower url g ≠ none) ∨
      ((Cut.atSub separator url).isSome = false ∧ ownScheme lower url g = g.scheme)
    rw [ownScheme]
    cases Cut.atSub separator url with
    | none => exact .inr ⟨rfl, rfl⟩
    | some cut => exact .inl ⟨rfl, fun none => (by cases none)⟩
  | path => exact cut_or
  | query => exact cut_or
  | fragment => exact cut_or

/-- A component that was never set. -/
lemma foldl_none : (calls.foldl (fun g url => urlparse lower url g) g).get c = none ↔
    g.get c = none ∧ ∀ v ∈ calls, sets v c = false := by
  induction calls generalizing g with
  | nil => exact ⟨fun none => ⟨none, fun v mem => (by cases mem)⟩, fun h => h.1⟩
  | cons url calls ih =>
    rw [List.foldl_cons, ih, List.forall_mem_cons]
    obtain ⟨set, given⟩ | ⟨left, same⟩ := get_urlparse lower url g c
    · constructor
      · intro h
        exact absurd h.1 given
      · intro h
        rw [set] at h
        cases h.2.1
    · rw [same]
      exact ⟨fun h => ⟨h.1, left, h.2⟩, fun h => ⟨h.1, h.2.2⟩⟩

lemma after_none : (after lower calls).get c = none ↔ ∀ v ∈ calls, sets v c = false := by
  refine foldl_none.trans ⟨fun h => h.2, fun h => ⟨?_, h⟩⟩
  cases c
  all_goals rfl

/-- Without a query there are no parameters. -/
lemma foldl_params (start : g.query = none → g.params = [])
    (none : (calls.foldl (fun g url => urlparse lower url g) g).query = none) :
    (calls.foldl (fun g url => urlparse lower url g) g).params = [] := by
  induction calls generalizing g with
  | nil => exact start none
  | cons url calls ih =>
    refine ih ?_ none
    dsimp only
    rw [urlparse_eq]
    dsimp only
    cases Cut.atFirst '?' (beforeFragment url) with
    | none => exact start
    | some cut =>
      intro h
      cases h

lemma after_params (none : (after lower calls).query = none) : (after lower calls).params = [] :=
  foldl_params (fun _ => rfl) none

/-- A call does not see the components that it sets. -/
lemma urlparse_congr {g' : Globals} (same : ∀ c, sets url c = true ∨ g.get c = g'.get c)
    (params : g.query = g'.query → g.params = g'.params) :
    urlparse lower url g = urlparse lower url g' := by
  have scheme : ownScheme lower url g = ownScheme lower url g' := by
    have h : (Cut.atSub separator url).isSome = true ∨ g.scheme = g'.scheme := same .scheme
    rw [ownScheme, ownScheme]
    cases cut : Cut.atSub separator url with
    | none =>
      rw [cut] at h
      rw [h.resolve_left Bool.false_ne_true]
    | some parts => rfl
  have cuts {x : Char} {xs : Text} {f : Text × Text → Text} {o o' : Option Text}
      (h : decide (x ∈ xs) = true ∨ o = o') :
      ((Cut.atFirst x xs).map f).or o = ((Cut.atFirst x xs).map f).or o' := by
    cases cut : Cut.atFirst x xs with
    | none =>
      rw [decide_eq_true_eq] at h
      rw [h.resolve_left (Cut.atFirst_eq_none_iff.1 cut)]
    | some parts => rfl
  have query := same .query
  have parameters : (((Cut.atFirst '?' (beforeFragment url)).map fun cut => paramsOf cut.2)).getD
      g.params = (((Cut.atFirst '?' (beforeFragment url)).map fun cut => paramsOf cut.2)).getD
      g'.params := by
    cases cut : Cut.atFirst '?' (beforeFragment url) with
    | none =>
      have h : '?' ∈ beforeFragment url ∨ g.query = g'.query :=
        query.imp_left of_decide_eq_true
      exact params (h.resolve_left (Cut.atFirst_eq_none_iff.1 cut))
    | some parts => rfl
  have path : decide ('/' ∈ beforeQuery url) = true ∨ g.path = g'.path := same .path
  have fragment : decide ('#' ∈ afterScheme url) = true ∨ g.fragment = g'.fragment := same .fragment
  have query' : decide ('?' ∈ beforeFragment url) = true ∨ g.query = g'.query := query
  rw [urlparse_eq, urlparse_eq, scheme, ownPath, parameters, cuts path, cuts query', cuts fragment]

/-- The calls before do not matter when the URL sets what they set. -/
theorem same_iff : urlparse lower url (after lower calls) = urlparse lower url {} ↔
    ∀ c, sets url c = true ∨ ∀ v ∈ calls, sets v c = false := by
  have empty (c : Component) : Globals.get {} c = none := by
    cases c
    all_goals rfl
  constructor
  · intro same c
    obtain ⟨set, -⟩ | ⟨-, left⟩ := get_urlparse lower url (after lower calls) c
    · exact .inl set
    · obtain ⟨set, -⟩ | ⟨-, left'⟩ := get_urlparse lower url {} c
      · exact .inl set
      · rw [same, left', empty] at left
        exact .inr (after_none.1 left.symm)
  · intro clean
    apply urlparse_congr
    · intro c
      rw [empty]
      exact (clean c).imp_right after_none.2
    · intro none
      exact after_params none

namespace Parts

variable {p : Parts}

/-- A part that a separator ends. -/
lemma not_mem_join {x y : Char} {before : Text} {rest : Option Text} (other : x ≠ y)
    (fresh : x ∉ before) (fresh' : ∀ s, rest = some s → x ∉ s) :
    x ∉ (match rest with
      | some s => before ++ y :: s
      | none => before) := by
  cases rest with
  | none => exact fresh
  | some s =>
    intro mem
    obtain first | later := List.mem_append.1 mem
    · exact fresh first
    · obtain same | last := List.mem_cons.1 later
      · exact other same
      · exact fresh' s rfl last

lemma WellFormed.place_fresh (wf : p.WellFormed) {x : Char} (mem : x ∈ ['?', '#']) :
    x ∉ p.place := by
  refine not_mem_join ?_ (wf.authority x (List.mem_cons_of_mem _ mem)) fun s found =>
    wf.path s found x mem
  rintro rfl
  exact absurd mem (by decide)

lemma WellFormed.request_fresh (wf : p.WellFormed) : '#' ∉ p.request :=
  not_mem_join (by decide) (wf.place_fresh (by decide)) wf.query

/-- A text with an optional part is cut where the part begins. -/
lemma cut_join {x : Char} {before : Text} {rest : Option Text} (fresh : x ∉ before) :
    Cut.atFirst x (match rest with
      | some s => before ++ x :: s
      | none => before) = rest.map fun s => (before, s) := by
  cases rest with
  | none => exact Cut.atFirst_eq_none_iff.2 fresh
  | some s => exact Cut.atFirst_append fresh s

/-- The cuts of a URL that was built. -/
lemma WellFormed.cuts (wf : p.WellFormed)
    (bare : p.scheme = none → Cut.atSub separator p.reference = none) :
    Cut.atSub separator p.build = p.scheme.map (fun s => (s, p.reference)) ∧
      afterScheme p.build = p.reference ∧
      Cut.atFirst '#' p.reference = p.fragment.map (fun s => (p.request, s)) ∧
      beforeFragment p.build = p.request ∧
      Cut.atFirst '?' p.request = p.query.map (fun s => (p.place, s)) ∧
      beforeQuery p.build = p.place ∧
      Cut.atFirst '/' p.place = p.path.map (fun s => (p.authority, s)) := by
  have scheme : Cut.atSub separator p.build = p.scheme.map (fun s => (s, p.reference)) := by
    rw [build]
    cases found : p.scheme with
    | none => exact bare found
    | some s => exact Cut.atSub_append (wf.scheme s found) _
  have reference : afterScheme p.build = p.reference := by
    rw [afterScheme, scheme, build]
    cases p.scheme with
    | none => rfl
    | some s => rfl
  have fragment : Cut.atFirst '#' p.reference = p.fragment.map (fun s => (p.request, s)) :=
    cut_join wf.request_fresh
  have request : beforeFragment p.build = p.request := by
    rw [beforeFragment, reference, fragment, Parts.reference]
    cases p.fragment with
    | none => rfl
    | some s => rfl
  have query : Cut.atFirst '?' p.request = p.query.map (fun s => (p.place, s)) :=
    cut_join (wf.place_fresh (by decide))
  have place : beforeQuery p.build = p.place := by
    rw [beforeQuery, request, query, Parts.request]
    cases p.query with
    | none => rfl
    | some s => rfl
  exact ⟨scheme, reference, fragment, request, query, place,
    cut_join (wf.authority '/' List.mem_cons_self)⟩

/-- A URL is parsed by a new process as it was built, exactly when it is plain. -/
lemma WellFormed.parse_iff (wf : p.WellFormed) :
    urlparse lower p.build {} = p.result lower ↔ p.Plain lower := by
  constructor
  · intro same
    have bare : p.scheme = none → Cut.atSub separator p.reference = none := by
      intro none
      have scheme : ownScheme lower p.build {} = p.scheme.map lower := by
        have h := congrArg Globals.scheme same
        rw [urlparse_eq] at h
        exact h
      rw [ownScheme, none, build, none] at scheme
      dsimp only at scheme
      cases cut : Cut.atSub separator p.reference with
      | none => rfl
      | some parts =>
        rw [cut] at scheme
        cases scheme
    refine ⟨bare, fun isFile => ?_⟩
    obtain ⟨scheme, -, -, -, -, place, path⟩ := wf.cuts bare
    have netloc := congrArg Globals.netloc same
    rw [urlparse_eq] at netloc
    dsimp only at netloc
    have own : ownScheme lower p.build {} = some file := by
      rw [ownScheme, scheme, ← isFile]
      cases p.scheme with
      | none => rfl
      | some s => rfl
    rw [own, ownNetloc, place, path] at netloc
    cases found : p.path with
    | none => rfl
    | some s =>
      rw [found] at netloc
      have same' : p.place = p.authority := Option.some.inj netloc
      rw [Parts.place, found] at same'
      have lengths := congrArg List.length same'
      rw [List.length_append, List.length_cons] at lengths
      omega
  · intro ⟨bare, noPath⟩
    obtain ⟨scheme, reference, fragment, request, query, place, path⟩ := wf.cuts bare
    have own : ownScheme lower p.build {} = p.scheme.map lower := by
      rw [ownScheme, scheme]
      cases p.scheme with
      | none => rfl
      | some s => rfl
    have other {s : Text} (found : p.path = some s) : p.scheme.map lower ≠ some file := by
      intro isFile
      rw [noPath isFile] at found
      cases found
    rw [urlparse_eq, own, ownNetloc, ownPath, place, path, request, query, reference, fragment, result,
      Globals.mk.injEq]
    refine ⟨rfl, ?_, ?_, ?_, ?_, ?_⟩
    · cases found : p.path with
      | none =>
        rw [Parts.place, found]
        rfl
      | some s =>
        show some (if _ then _ else _) = _
        rw [if_neg (other found)]
    · cases found : p.path with
      | none => rfl
      | some s =>
        show some (if _ then _ else _) = _
        rw [if_neg (other found)]
    · cases p.query with
      | none => rfl
      | some s => rfl
    · cases p.query with
      | none => rfl
      | some s => rfl
    · cases p.fragment with
      | none => rfl
      | some s => rfl

end Parts

/-- What is asked of a call that comes after others: it returns what it would return first, and the
components that its URL was built from. -/
structure Faithful (lower : Text → Text) (calls : List Text) (url : Text) : Prop where
  same : urlparse lower url (after lower calls) = urlparse lower url {}
  parts : ∀ p : Parts, p.WellFormed → p.build = url →
    urlparse lower url (after lower calls) = p.result lower

/-- The URL sets every component that an earlier one set, and is plain. -/
structure Clean (lower : Text → Text) (calls : List Text) (url : Text) : Prop where
  fresh : ∀ c, sets url c = true ∨ ∀ v ∈ calls, sets v c = false
  plain : ∀ p : Parts, p.WellFormed → p.build = url → p.Plain lower

/-- After any calls, in whatever order they came, a call is faithful exactly when it is clean. -/
theorem url_faithful_iff (lower : Text → Text) (calls : List Text) (url : Text) :
    Faithful lower calls url ↔ Clean lower calls url := by
  constructor
  · intro ⟨same, parts⟩
    refine ⟨same_iff.1 same, ?_⟩
    rintro p wf rfl
    apply wf.parse_iff.1
    rw [← same]
    exact parts p wf rfl
  · intro ⟨fresh, plain⟩
    have same : urlparse lower url (after lower calls) = urlparse lower url {} := same_iff.2 fresh
    refine ⟨same, ?_⟩
    rintro p wf rfl
    rw [same]
    exact wf.parse_iff.2 (plain p wf rfl)

/-- The transfer URLs that the core builds, when no character of the path ends it. -/
def Transfer (url : Text) : Prop :=
  ∃ p : Parts, p.WellFormed ∧ p.scheme.isSome ∧ p.path.isSome ∧ p.query = none ∧
    p.fragment = none ∧ p.build = url

/-- Transfers do not disturb each other. -/
theorem transfer_same (calls : List Text) (transfers : ∀ v ∈ calls, Transfer v) (url : Text)
    (transfer : Transfer url) :
    urlparse lower url (after lower calls) = urlparse lower url {} := by
  have spec {v : Text} (h : Transfer v) : sets v .scheme = true ∧ sets v .path = true ∧
      sets v .query = false ∧ sets v .fragment = false := by
    obtain ⟨p, wf, scheme, path, query, fragment, rfl⟩ := h
    obtain ⟨s, scheme⟩ := Option.isSome_iff_exists.1 scheme
    obtain ⟨t, path⟩ := Option.isSome_iff_exists.1 path
    have bare : p.scheme = none → Cut.atSub separator p.reference = none := by
      intro none
      rw [none] at scheme
      cases scheme
    obtain ⟨schemes, reference, -, request, -, place, -⟩ := wf.cuts bare
    refine ⟨?_, ?_, ?_, ?_⟩
    · rw [sets, schemes, scheme]
      rfl
    · rw [sets, place, Parts.place, path]
      exact decide_eq_true (List.mem_append_right _ List.mem_cons_self)
    · rw [sets, request, Parts.request, query]
      exact decide_eq_false (wf.place_fresh (by decide))
    · rw [sets, reference, Parts.reference, fragment]
      exact decide_eq_false wf.request_fresh
  apply same_iff.2
  intro c
  cases c with
  | scheme => exact .inl (spec transfer).1
  | path => exact .inl (spec transfer).2.1
  | query => exact .inr fun v mem => (spec (transfers v mem)).2.2.1
  | fragment => exact .inr fun v mem => (spec (transfers v mem)).2.2.2

/-- The URL `file:///tmp`. -/
def tmp : Parts := { scheme := some file, path := some ['t', 'm', 'p'] }

lemma tmp_wellFormed : tmp.WellFormed where
  scheme s found := by
    cases found
    decide
  authority c _ := List.not_mem_nil
  path s found := by
    cases found
    simp
  query s found := by cases found

/-- A fragment is returned again for the next URL, and the authority of a file is its path. -/
theorem not_faithful :
    ¬Faithful (List.map Char.toLower) ["gsiftp://meteo/a#b".toList] "gsiftp://meteo/c".toList ∧
      ¬Faithful (List.map Char.toLower) [] "file:///tmp".toList := by
  constructor
  · intro faithful
    exact absurd faithful.same (by decide)
  · intro faithful
    exact absurd (faithful.parts tmp tmp_wellFormed (by decide)) (by decide)

end GridWay.Drm4g.Url
