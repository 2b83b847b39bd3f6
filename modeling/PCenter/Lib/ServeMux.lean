import PCenter.Lib.Url

/-!
# Request multiplexing

The `ServeMux` of Go's `net/http` package, for patterns without a host and without
`{$}` and `{name...}`: a pattern is an optional method, literal and wildcard segments,
and a trailing slash when it stands for a whole subtree. `matchPath` walks the segments
of the request as the routing tree does, a literal before a wildcard before a subtree;
a request is answered by a redirection when its path is not clean or lacks the slash of
a registered subtree.

A path is the list of its escaped segments: `/a/b` is `["a", "b"]`, `/a/` is `["a", ""]`.
-/

namespace ServeMux

open GoUrl

inductive Segment where
  | lit (text : String)
  | wild (name : String)
  deriving DecidableEq, Repr

instance : Coe String Segment := ⟨.lit⟩

structure Pattern where
  method : Option String
  segments : List Segment
  subtree : Bool
  deriving DecidableEq, Repr

structure Entry (H : Type*) where
  pattern : Pattern
  handler : H

section Path

/-- The segments the routing tree sees: unescaped, the final slash as a segment `"/"`. -/
def muxSegments : List String → List String
  | [] => []
  | [""] => ["/"]
  | segment :: rest => pathUnescape segment :: muxSegments rest

/-- The path is what `cleanPath` makes of it: no empty segment but the last, no dots. -/
def isClean : List String → Bool
  | [] => false
  | [last] => last ≠ "." && last ≠ ".."
  | segment :: rest => segment ≠ "" && segment ≠ "." && segment ≠ ".." && isClean rest

/-- `URL.Path`: the unescaped path as one text. -/
def urlPath (path : List String) : String :=
  String.join (path.map fun segment => "/" ++ pathUnescape segment)

/-- Texts that a clean path without a final slash spells. -/
def Plain (texts : List String) : Prop :=
  texts ≠ [] ∧ ∀ text ∈ texts, text ≠ "" ∧ text ≠ "." ∧ text ≠ ".." ∧ text ≠ "/"

instance (texts : List String) : Decidable (Plain texts) :=
  inferInstanceAs (Decidable (_ ∧ ∀ text ∈ texts, _))

theorem muxSegments_eq_map {path : List String} (noSlash : "/" ∉ muxSegments path) :
    muxSegments path = path.map pathUnescape := by
  fun_induction muxSegments path with
  | case1 => rfl
  | case2 => simp at noSlash
  | case3 segment rest notLast ih =>
      have inner : "/" ∉ muxSegments rest := fun member => noSlash (by simp [member])
      simp [ih inner]

theorem urlPath_of_plain {path : List String} (plain : Plain (muxSegments path)) :
    urlPath path = String.join ((muxSegments path).map ("/" ++ ·)) := by
  have noSlash : "/" ∉ muxSegments path := fun member => (plain.2 _ member).2.2.2 rfl
  rw [muxSegments_eq_map noSlash, List.map_map]
  rfl

theorem segment_of_plain {path : List String} (plain : Plain (muxSegments path))
    {segment : String} (member : segment ∈ path) :
    segment ≠ "" ∧ segment ≠ "." ∧ segment ≠ ".." := by
  have noSlash : "/" ∉ muxSegments path := fun h => (plain.2 _ h).2.2.2 rfl
  have unescaped : pathUnescape segment ∈ muxSegments path := by
    rw [muxSegments_eq_map noSlash]
    exact List.mem_map_of_mem member
  obtain ⟨notEmpty, notDot, notDots, -⟩ := plain.2 _ unescaped
  refine ⟨?_, ?_, ?_⟩
  · rintro rfl
    exact notEmpty (by decide)
  · rintro rfl
    exact notDot (by decide)
  · rintro rfl
    exact notDots (by decide)

theorem isClean_of_forall {path : List String} (nonempty : path ≠ [])
    (clean : ∀ segment ∈ path, segment ≠ "" ∧ segment ≠ "." ∧ segment ≠ "..") :
    isClean path = true := by
  fun_induction isClean path with
  | case1 => exact absurd rfl nonempty
  | case2 last => simpa using (clean last (by simp)).2
  | case3 segment rest notLast ih =>
      have rest_ne : rest ≠ [] := by
        rintro rfl
        exact notLast rfl
      have inner := ih rest_ne fun s member => clean s (by simp [member])
      simpa [inner, and_assoc] using clean segment (by simp)

theorem isClean_of_plain {path : List String} (plain : Plain (muxSegments path)) :
    isClean path = true := by
  refine isClean_of_forall ?_ fun segment member => segment_of_plain plain member
  rintro rfl
  exact plain.1 rfl

end Path

section Tree

variable {H : Type*}

/-- What is left of a registered pattern below a node of the routing tree. -/
structure Branch (H : Type*) where
  segments : List Segment
  subtree : Bool
  captured : List (String × String)
  handler : H

/-- The handler found, the wildcards' values, and what a subtree pattern left over. -/
structure Hit (H : Type*) where
  handler : H
  captured : List (String × String)
  rest : List String

namespace Branch

def afterLit (segment : String) (b : Branch H) : Option (Branch H) :=
  match b.segments with
  | .lit text :: rest => if text = segment then some { b with segments := rest } else none
  | _ => none

def afterWild (segment : String) (b : Branch H) : Option (Branch H) :=
  match b.segments with
  | .wild name :: rest =>
      some { b with segments := rest, captured := b.captured ++ [(name, segment)] }
  | _ => none

def hit (b : Branch H) (rest : List String) : Hit H := ⟨b.handler, b.captured, rest⟩

def endsHere (b : Branch H) : Bool := b.segments.isEmpty && !b.subtree

def opensHere (b : Branch H) : Bool := b.segments.isEmpty && b.subtree

end Branch

/-- `routingNode.matchPath`, the node being the branches that lead on from it. -/
def matchPath : List (Branch H) → List String → Option (Hit H)
  | branches, [] => (branches.find? Branch.endsHere).map (·.hit [])
  | branches, segment :: rest =>
      (matchPath (branches.filterMap (Branch.afterLit segment)) rest)
        <|> (if segment = "/" then none
             else matchPath (branches.filterMap (Branch.afterWild segment)) rest)
        <|> (branches.find? Branch.opensHere).map (·.hit (segment :: rest))

/-- A pattern covers a path, its wildcards taking these values. -/
inductive Covers : List Segment → Bool → List String → List (String × String) → Prop where
  | exact : Covers [] false [] []
  | subtree (segment : String) (rest : List String) : Covers [] true (segment :: rest) []
  | lit (text : String) {segments subtree path values} :
      Covers segments subtree path values →
      Covers (.lit text :: segments) subtree (text :: path) values
  | wild (name segment : String) {segments subtree path values} :
      segment ≠ "/" → Covers segments subtree path values →
      Covers (.wild name :: segments) subtree (segment :: path) ((name, segment) :: values)

/-- A branch on which the walk along the path succeeds with this hit. -/
def Branch.Yields (b : Branch H) (path : List String) (found : Hit H) : Prop :=
  ∃ values, Covers b.segments b.subtree path values ∧
    found.handler = b.handler ∧ found.captured = b.captured ++ values

theorem Branch.yields_of_afterLit {b after : Branch H} {segment : String}
    {rest : List String} {found : Hit H} (step : b.afterLit segment = some after)
    (yields : after.Yields rest found) : b.Yields (segment :: rest) found := by
  obtain ⟨segments, subtree, captured, handler⟩ := b
  cases segments with
  | nil => simp [afterLit] at step
  | cons s segments =>
      cases s with
      | wild name => simp [afterLit] at step
      | lit text =>
          by_cases same : text = segment
          · subst same
            obtain rfl : _ = after := by simpa [afterLit] using step
            obtain ⟨values, covers, handlerEq, capturedEq⟩ := yields
            exact ⟨values, .lit text covers, handlerEq, capturedEq⟩
          · simp [afterLit, same] at step

theorem Branch.yields_of_afterWild {b after : Branch H} {segment : String}
    {rest : List String} {found : Hit H} (step : b.afterWild segment = some after)
    (inner : segment ≠ "/") (yields : after.Yields rest found) :
    b.Yields (segment :: rest) found := by
  obtain ⟨segments, subtree, captured, handler⟩ := b
  cases segments with
  | nil => simp [afterWild] at step
  | cons s segments =>
      cases s with
      | lit text => simp [afterWild] at step
      | wild name =>
          obtain rfl : _ = after := by simpa [afterWild] using step
          obtain ⟨values, covers, handlerEq, capturedEq⟩ := yields
          exact ⟨(name, segment) :: values, .wild name segment inner covers, handlerEq,
            by simpa using capturedEq⟩

/-- What the walk finds is one of the branches, along the segments of the path. -/
theorem matchPath_sound {branches : List (Branch H)} {path : List String} {found : Hit H}
    (matched : matchPath branches path = some found) :
    ∃ b ∈ branches, b.Yields path found := by
  induction path generalizing branches with
  | nil =>
      obtain ⟨b, first, rfl⟩ := Option.map_eq_some_iff.mp matched
      have ends := List.find?_some first
      refine ⟨b, List.mem_of_find?_eq_some first, [], ?_, rfl, by simp [Branch.hit]⟩
      obtain ⟨noSegments, exactEnd⟩ : b.segments = [] ∧ b.subtree = false := by
        simpa [Branch.endsHere] using ends
      rw [noSegments, exactEnd]
      exact .exact
  | cons segment rest ih =>
      simp only [matchPath, Option.orElse_eq_orElse, Option.orElse_eq_or,
        Option.or_eq_some_iff] at matched
      rcases matched with viaLit | ⟨-, viaWild | ⟨-, viaSubtree⟩⟩
      · obtain ⟨after, member, yields⟩ := ih viaLit
        obtain ⟨b, registered, step⟩ := List.mem_filterMap.mp member
        exact ⟨b, registered, Branch.yields_of_afterLit step yields⟩
      · by_cases slash : segment = "/"
        · simp [slash] at viaWild
        · obtain ⟨after, member, yields⟩ := ih (by simpa [slash] using viaWild)
          obtain ⟨b, registered, step⟩ := List.mem_filterMap.mp member
          exact ⟨b, registered, Branch.yields_of_afterWild step slash yields⟩
      · obtain ⟨b, first, rfl⟩ := Option.map_eq_some_iff.mp viaSubtree
        have opens := List.find?_some first
        refine ⟨b, List.mem_of_find?_eq_some first, [], ?_, rfl, by simp [Branch.hit]⟩
        obtain ⟨noSegments, open'⟩ : b.segments = [] ∧ b.subtree = true := by
          simpa [Branch.opensHere] using opens
        rw [noSegments, open']
        exact .subtree segment rest

end Tree

section Dispatch

variable {H : Type*}

/-- The patterns registered for a method, or for every method. -/
def branchesFor (entries : List (Entry H)) (method : Option String) : List (Branch H) :=
  (entries.filter fun e => e.pattern.method = method).map fun e =>
    ⟨e.pattern.segments, e.pattern.subtree, [], e.handler⟩

/-- `matchMethodAndPath`: GET patterns also serve HEAD, and patterns without a method
come last. -/
def find (entries : List (Entry H)) (method : String) (path : List String) :
    Option (Hit H) :=
  (matchPath (branchesFor entries (some method)) path)
    <|> (if method = "HEAD" then matchPath (branchesFor entries (some "GET")) path
         else none)
    <|> matchPath (branchesFor entries none) path

/-- `exactMatch`: the pattern has no trailing slash, or matched nothing beyond it. -/
def Hit.isExact (hit : Hit H) : Bool := hit.rest = [] || hit.rest = ["/"]

inductive Answer (H : Type*) where
  | handler (hit : Hit H)
  | redirect
  | notFound

/-- A path without its final slash is redirected to the subtree registered with it. -/
def wantsSlash (entries : List (Entry H)) (method : String) (path : List String) : Bool :=
  path.getLast? ≠ some "" &&
    !((find entries method (muxSegments path)).any Hit.isExact) &&
    (find entries method (muxSegments (path ++ [""]))).any Hit.isExact

/-- `ServeMux.findHandler`. Only CONNECT requests may carry a path that is not clean. -/
def dispatch (entries : List (Entry H)) (method : String) (path : List String) : Answer H :=
  if wantsSlash entries method path then .redirect
  else if method ≠ "CONNECT" ∧ isClean path = false then .redirect
  else match find entries method (muxSegments path) with
    | some hit => .handler hit
    | none => .notFound

/-- The method of a request is one that the pattern is registered for. -/
def Pattern.Allows (p : Pattern) (method : String) : Prop :=
  p.method = none ∨ p.method = some method ∨ (method = "HEAD" ∧ p.method = some "GET")

instance (p : Pattern) (method : String) : Decidable (p.Allows method) :=
  inferInstanceAs (Decidable (_ ∨ _ ∨ _))

theorem exists_entry_of_branch {entries : List (Entry H)} {method : Option String}
    {path : List String} {found : Hit H}
    (matched : matchPath (branchesFor entries method) path = some found) :
    ∃ e ∈ entries, e.pattern.method = method ∧ found.handler = e.handler ∧
      Covers e.pattern.segments e.pattern.subtree path found.captured := by
  obtain ⟨b, member, values, covers, handlerEq, capturedEq⟩ := matchPath_sound matched
  obtain ⟨e, kept, rfl⟩ := List.mem_map.mp member
  obtain ⟨registered, sameMethod⟩ := List.mem_filter.mp kept
  refine ⟨e, registered, by simpa using sameMethod, handlerEq, ?_⟩
  rw [capturedEq]
  exact covers

/-- A handler is found only through an entry for the method that covers the path. -/
theorem find_sound {entries : List (Entry H)} {method : String} {path : List String}
    {found : Hit H} (matched : find entries method path = some found) :
    ∃ e ∈ entries, e.pattern.Allows method ∧ found.handler = e.handler ∧
      Covers e.pattern.segments e.pattern.subtree path found.captured := by
  simp only [find, Option.orElse_eq_orElse, Option.orElse_eq_or,
    Option.or_eq_some_iff] at matched
  rcases matched with exactly | ⟨-, viaGet | ⟨-, anyMethod⟩⟩
  · obtain ⟨e, registered, methodEq, rest⟩ := exists_entry_of_branch exactly
    exact ⟨e, registered, Or.inr (Or.inl methodEq), rest⟩
  · by_cases head : method = "HEAD"
    · rw [if_pos head] at viaGet
      obtain ⟨e, registered, methodEq, rest⟩ := exists_entry_of_branch viaGet
      exact ⟨e, registered, Or.inr (Or.inr ⟨head, methodEq⟩), rest⟩
    · simp [head] at viaGet
  · obtain ⟨e, registered, methodEq, rest⟩ := exists_entry_of_branch anyMethod
    exact ⟨e, registered, Or.inl methodEq, rest⟩

theorem dispatch_sound {entries : List (Entry H)} {method : String} {path : List String}
    {found : Hit H} (answer : dispatch entries method path = .handler found) :
    ∃ e ∈ entries, e.pattern.Allows method ∧ found.handler = e.handler ∧
      Covers e.pattern.segments e.pattern.subtree (muxSegments path) found.captured := by
  simp only [dispatch] at answer
  split at answer
  · exact nomatch answer
  · split at answer
    · exact nomatch answer
    · split at answer
      · rename_i hit matched
        obtain rfl : hit = found := by simpa using answer
        exact find_sound matched
      · exact nomatch answer

/-- A plain path is answered by what `find` finds for it without a remainder. -/
theorem dispatch_of_find {entries : List (Entry H)} {method : String} {path : List String}
    {found : Hit H} (plain : Plain (muxSegments path))
    (matched : find entries method (muxSegments path) = some found)
    (whole : found.isExact = true) : dispatch entries method path = .handler found := by
  have complete : wantsSlash entries method path = false := by
    simp [wantsSlash, matched, whole]
  simp [dispatch, complete, isClean_of_plain plain, matched]

/-- A pattern of literals only covers the path it spells. -/
theorem Covers.path_eq {segments : List Segment} {path : List String}
    {values : List (String × String)} (covers : Covers segments false path values)
    (texts : List String) (literal : segments = texts.map .lit) :
    path = texts ∧ values = [] := by
  induction texts generalizing segments path values with
  | nil =>
      subst literal
      cases covers
      exact ⟨rfl, rfl⟩
  | cons text texts ih =>
      subst literal
      cases covers with
      | lit _ inner =>
          obtain ⟨rfl, rfl⟩ := ih inner rfl
          exact ⟨rfl, rfl⟩

end Dispatch

end ServeMux
