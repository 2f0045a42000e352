import CollabEditor.Library.Utf8

/-!
Owns paths as `node:path` treats them on POSIX: `normalize`, `join` and
`extname` on strings of UTF-16 code units, and what a normalized absolute path
looks like.
-/

set_option autoImplicit false

namespace CollabEditor.Library.PosixPath

def slash : UInt16 := 0x2F

def dot : UInt16 := 0x2E

/-- What stands between the slashes of a path. -/
def segments (path : JsString) : List JsString := path.splitOn slash

/-- One segment of a path whose segments so far are on a stack: a `..` drops the
last one, or stays where the path may lead above its start. -/
def push (aboveRoot : Bool) (stack : List JsString) (segment : JsString) : List JsString :=
  if segment = [] ∨ segment = [dot] then stack
  else if segment = [dot, dot] then
    match stack with
    | [] => if aboveRoot then [segment] else []
    | top :: below =>
        if top = [dot, dot] then if aboveRoot then segment :: stack else stack else below
  else segment :: stack

def walk (aboveRoot : Bool) (stack : List JsString) (path : List JsString) : List JsString :=
  path.foldl (push aboveRoot) stack

def isAbsolute (path : JsString) : Bool := path.head? = some slash

def endsInSlash (path : JsString) : Bool := path.getLast? = some slash

/-- The segments of a path that are left when it is normalized. -/
def steps (path : JsString) : List JsString := (walk (!isAbsolute path) [] (segments path)).reverse

/-- `normalize`. -/
def normalize (path : JsString) : JsString :=
  if path = [] then [dot]
  else
    let body := [slash].intercalate (steps path)
    if body = [] then
      if isAbsolute path then [slash] else if endsInSlash path then [dot, slash] else [dot]
    else
      let closed := if endsInSlash path then body ++ [slash] else body
      if isAbsolute path then slash :: closed else closed

/-- `join`. -/
def join (parts : List JsString) : JsString :=
  normalize ([slash].intercalate (parts.filter (· ≠ [])))

/-- `extname`: the last segment from its last dot on, which is not its first
character. -/
def extname (path : JsString) : JsString :=
  let base := ((segments path).filter (· ≠ [])).getLast?.getD []
  let stem := base.length - 1 - (base.reverse.takeWhile (· ≠ dot)).length
  if stem = 0 ∨ base = [dot, dot] then [] else base.drop stem

/-! ### Absolute paths -/

/-- A segment that normalizing leaves as it is. -/
structure Proper (segment : JsString) : Prop where
  nonempty : segment ≠ []
  notDot : segment ≠ [dot]
  notDots : segment ≠ [dot, dot]
  noSlash : slash ∉ segment

instance (segment : JsString) : Decidable (Proper segment) :=
  decidable_of_iff
    (segment ≠ [] ∧ segment ≠ [dot] ∧ segment ≠ [dot, dot] ∧ slash ∉ segment)
    ⟨fun all => ⟨all.1, all.2.1, all.2.2.1, all.2.2.2⟩,
      fun proper => ⟨proper.nonempty, proper.notDot, proper.notDots, proper.noSlash⟩⟩

/-- The absolute path with some segments. -/
def absolute (path : List JsString) : JsString := slash :: [slash].intercalate path

private theorem walk_append (aboveRoot : Bool) (stack front back : List JsString) :
    walk aboveRoot stack (front ++ back) = walk aboveRoot (walk aboveRoot stack front) back :=
  List.foldl_append

private theorem push_proper {segment : JsString} (proper : Proper segment) (aboveRoot : Bool)
    (stack : List JsString) : push aboveRoot stack segment = segment :: stack := by
  unfold push
  rw [if_neg (not_or.mpr ⟨proper.nonempty, proper.notDot⟩), if_neg proper.notDots]

/-- Proper segments are all kept. -/
theorem walk_proper {path : List JsString} (proper : ∀ segment ∈ path, Proper segment)
    (aboveRoot : Bool) (stack : List JsString) :
    walk aboveRoot stack path = path.reverse ++ stack := by
  induction path generalizing stack with
  | nil => rfl
  | cons segment rest inductionHypothesis =>
      show walk aboveRoot (push aboveRoot stack segment) rest = _
      rw [push_proper (proper segment List.mem_cons_self),
        inductionHypothesis (fun later member => proper later (List.mem_cons_of_mem _ member)),
        List.reverse_cons, List.append_assoc, List.singleton_append]

/-- A path that may not lead above its start has only proper segments left. -/
theorem proper_walk {path stack : List JsString} (kept : ∀ segment ∈ stack, Proper segment)
    (noSlash : ∀ segment ∈ path, slash ∉ segment) :
    ∀ segment ∈ walk false stack path, Proper segment := by
  induction path generalizing stack with
  | nil => exact kept
  | cons segment rest inductionHypothesis =>
      refine inductionHypothesis ?_ fun later member =>
        noSlash later (List.mem_cons_of_mem _ member)
      unfold push
      split
      · exact kept
      · next notTrivial =>
          split
          · split
            · exact fun _ member => by cases member
            · split
              · exact kept
              · exact fun later member => kept later (List.mem_cons_of_mem _ member)
          · next notDots =>
              obtain ⟨nonempty, notDot⟩ := not_or.mp notTrivial
              intro later member
              rcases List.mem_cons.mp member with rfl | older
              · exact ⟨nonempty, notDot, notDots, noSlash later List.mem_cons_self⟩
              · exact kept later older

private theorem noSlash_segments (path : JsString) :
    ∀ segment ∈ segments path, slash ∉ segment := by
  induction path with
  | nil =>
      intro segment member
      rw [List.mem_singleton.mp member]
      exact List.not_mem_nil
  | cons unit rest inductionHypothesis =>
      unfold segments at inductionHypothesis ⊢
      rw [List.splitOn_cons_eq_if_modifyHead]
      split
      · intro segment member
        rcases List.mem_cons.mp member with rfl | later
        · exact List.not_mem_nil
        · exact inductionHypothesis segment later
      · next notSlash =>
          have different : slash ≠ unit := fun same => notSlash (by rw [same, beq_self_eq_true])
          cases parts : rest.splitOn slash with
          | nil => exact absurd parts (List.splitOn_ne_nil _ _)
          | cons first others =>
              rw [parts] at inductionHypothesis
              intro segment member
              rcases List.mem_cons.mp member with rfl | later
              · exact List.not_mem_cons_of_ne_of_not_mem different
                  (inductionHypothesis first List.mem_cons_self)
              · exact inductionHypothesis segment (List.mem_cons_of_mem _ later)

/-- A slash between two paths only adds the segments of one to those of the other. -/
theorem segments_append (front back : JsString) :
    segments (front ++ slash :: back) = segments front ++ segments back :=
  List.splitOn_append_cons_self front back

private theorem segments_slash (path : JsString) : segments (slash :: path) = [] :: segments path :=
  segments_append [] path

private theorem intercalate_segments (path : JsString) :
    [slash].intercalate (segments path) = path :=
  List.intercalate_splitOn slash

theorem segments_absolute {path : List JsString} (nonempty : path ≠ [])
    (noSlash : ∀ segment ∈ path, slash ∉ segment) : segments (absolute path) = [] :: path := by
  rw [absolute, segments_slash, segments, List.splitOn_intercalate slash noSlash nonempty]

theorem isAbsolute_iff (path : JsString) :
    isAbsolute path = true ↔ ∃ rest, path = slash :: rest := by
  rw [isAbsolute, decide_eq_true_eq, List.head?_eq_some_iff]

/-- The empty segment before the first slash does not count. -/
theorem steps_slash (path : JsString) :
    steps (slash :: path) = (walk false [] (segments path)).reverse := by
  rw [steps, (isAbsolute_iff _).mpr ⟨path, rfl⟩, segments_slash]
  rfl

theorem proper_steps {path : JsString} (rooted : isAbsolute path = true) :
    ∀ segment ∈ steps path, Proper segment := by
  obtain ⟨rest, rfl⟩ := (isAbsolute_iff path).mp rooted
  intro segment member
  rw [steps_slash, List.mem_reverse] at member
  exact proper_walk (fun _ member => by cases member) (noSlash_segments rest) segment member

theorem steps_absolute {path : List JsString} (nonempty : path ≠ [])
    (proper : ∀ segment ∈ path, Proper segment) : steps (absolute path) = path := by
  rw [absolute, steps_slash, segments,
    List.splitOn_intercalate slash (fun segment member => (proper segment member).noSlash) nonempty,
    walk_proper proper, List.append_nil, List.reverse_reverse]

/-- What is appended to an absolute path is walked from its segments on. -/
theorem steps_append {front : JsString} (rooted : isAbsolute front = true) (back : JsString) :
    steps (front ++ slash :: back) =
      (walk false (steps front).reverse (segments back)).reverse := by
  obtain ⟨rest, rfl⟩ := (isAbsolute_iff front).mp rooted
  rw [List.cons_append, steps_slash, segments_append, walk_append, steps_slash,
    List.reverse_reverse]

/-! ### Normalized absolute paths -/

private theorem intercalate_ne_nil {path : List JsString} (nonempty : path ≠ [])
    (proper : ∀ segment ∈ path, Proper segment) : [slash].intercalate path ≠ [] := by
  intro empty
  have parts := List.splitOn_intercalate slash
    (fun segment member => (proper segment member).noSlash) nonempty
  rw [empty, List.splitOn_nil] at parts
  exact (proper [] (parts ▸ List.mem_singleton_self _)).nonempty rfl

theorem normalize_ne_nil (path : JsString) : normalize path ≠ [] := by
  unfold normalize
  split
  · exact List.cons_ne_nil _ _
  · dsimp only
    split
    · split
      · exact List.cons_ne_nil _ _
      · split
        · exact List.cons_ne_nil _ _
        · exact List.cons_ne_nil _ _
    · next nonempty =>
        split
        · exact List.cons_ne_nil _ _
        · split
          · exact fun empty => nonempty (List.append_eq_nil_iff.mp empty).1
          · exact nonempty

/-- An absolute path is normalized to its proper segments, and to a slash at the
end if it had one. -/
theorem normalize_of_isAbsolute {path : JsString} (rooted : isAbsolute path = true) :
    normalize path =
      if steps path = [] then [slash]
      else if endsInSlash path then absolute (steps path) ++ [slash]
      else absolute (steps path) := by
  obtain ⟨rest, rfl⟩ := (isAbsolute_iff path).mp rooted
  unfold normalize
  rw [if_neg (List.cons_ne_nil _ _), rooted]
  dsimp only
  by_cases empty : steps (slash :: rest) = []
  · rw [empty, List.intercalate_nil, if_pos rfl, if_pos rfl, if_pos rfl]
  · rw [if_neg empty, if_neg (intercalate_ne_nil empty (proper_steps rooted)), if_pos rfl]
    split
    · rfl
    · rfl

private theorem segments_of_endsInSlash {path : JsString} (closed : endsInSlash path = true) :
    [] ∈ (segments path).getLast? := by
  rw [endsInSlash, decide_eq_true_eq] at closed
  obtain ⟨front, rfl⟩ := List.getLast?_eq_some_iff.mp closed
  rw [segments_append, Option.mem_def, List.getLast?_append]
  rfl

private theorem endsInSlash_absolute {path : List JsString} (nonempty : path ≠ [])
    (proper : ∀ segment ∈ path, Proper segment) : endsInSlash (absolute path) = false := by
  refine Bool.eq_false_iff.mpr fun closed => ?_
  have last := segments_of_endsInSlash closed
  rw [segments_absolute nonempty fun segment member => (proper segment member).noSlash,
    List.getLast?_cons, Option.mem_def, Option.some.injEq,
    List.getLast?_eq_some_getLast nonempty] at last
  exact (proper [] (last ▸ List.getLast_mem nonempty)).nonempty rfl

theorem isAbsolute_absolute (path : List JsString) : isAbsolute (absolute path) = true :=
  (isAbsolute_iff _).mpr ⟨_, rfl⟩

theorem normalize_absolute {path : List JsString} (nonempty : path ≠ [])
    (proper : ∀ segment ∈ path, Proper segment) : normalize (absolute path) = absolute path := by
  rw [normalize_of_isAbsolute (isAbsolute_absolute path), steps_absolute nonempty proper,
    if_neg nonempty, endsInSlash_absolute nonempty proper, if_neg Bool.false_ne_true]

/-- A path that is spelled as `normalize` spells it, without a slash at the end. -/
def Tidy (path : JsString) : Prop := normalize path = path ∧ endsInSlash path = false

instance (path : JsString) : Decidable (Tidy path) := inferInstanceAs (Decidable (_ ∧ _))

private theorem tidy_iff {path : JsString} (rooted : isAbsolute path = true) :
    Tidy path ↔ steps path ≠ [] ∧ path = absolute (steps path) := by
  constructor
  · rintro ⟨normal, unclosed⟩
    rw [normalize_of_isAbsolute rooted, unclosed, if_neg Bool.false_ne_true] at normal
    by_cases empty : steps path = []
    · rw [if_pos empty] at normal
      rw [← normal] at unclosed
      exact absurd unclosed (by decide)
    · rw [if_neg empty] at normal
      exact ⟨empty, normal.symm⟩
  · rintro ⟨nonempty, same⟩
    have proper := proper_steps rooted
    rw [same]
    exact ⟨normalize_absolute nonempty proper, endsInSlash_absolute nonempty proper⟩

private theorem intercalate_append {front back : List JsString} (some : front ≠ [])
    (others : back ≠ []) :
    [slash].intercalate (front ++ back) =
      [slash].intercalate front ++ slash :: [slash].intercalate back := by
  induction front with
  | nil => exact absurd rfl some
  | cons first rest inductionHypothesis =>
      cases rest with
      | nil =>
          rw [List.singleton_append, List.intercalate_cons_of_ne_nil others,
            List.intercalate_singleton, List.append_assoc, List.singleton_append]
      | cons second rest =>
          have later := inductionHypothesis (List.cons_ne_nil second rest)
          rw [List.cons_append] at later
          rw [List.cons_append, List.cons_append, List.intercalate_cons_cons, later,
            List.intercalate_cons_cons, List.append_assoc (first ++ [slash])]

/-- A path and a slash begin a normalized path exactly when the path is tidy and
the other lies strictly below it. -/
theorem prefix_absolute_iff {root : JsString} (rooted : isAbsolute root = true)
    {path : List JsString} (nonempty : path ≠ []) (proper : ∀ segment ∈ path, Proper segment) :
    root ++ [slash] <+: absolute path ↔
      Tidy root ∧ ∃ below, below ≠ [] ∧ path = steps root ++ below := by
  rw [tidy_iff rooted]
  constructor
  · rintro ⟨rest, whole⟩
    obtain ⟨tail, rfl⟩ := (isAbsolute_iff root).mp rooted
    have parts := segments_absolute nonempty fun segment member => (proper segment member).noSlash
    rw [← whole, List.append_assoc, List.singleton_append, segments_append, segments_slash,
      List.cons_append, List.cons.injEq] at parts
    have inRoot : ∀ segment ∈ segments tail, Proper segment := fun segment member =>
      proper segment (parts.2 ▸ List.mem_append_left _ member)
    have same : steps (slash :: tail) = segments tail := by
      rw [steps_slash, walk_proper inRoot, List.append_nil, List.reverse_reverse]
    rw [same]
    refine ⟨⟨List.splitOn_ne_nil _ _, ?_⟩, segments rest, List.splitOn_ne_nil _ _, parts.2.symm⟩
    rw [absolute, intercalate_segments]
  · rintro ⟨⟨some, same⟩, below, others, rfl⟩
    refine ⟨[slash].intercalate below, ?_⟩
    nth_rewrite 1 [same]
    rw [absolute, absolute, intercalate_append some others, List.append_assoc,
      List.singleton_append, List.cons_append]

/-! ### Joining -/

theorem isAbsolute_append {root : JsString} (rooted : isAbsolute root = true) (rest : JsString) :
    isAbsolute (root ++ rest) = true := by
  obtain ⟨tail, rfl⟩ := (isAbsolute_iff root).mp rooted
  exact (isAbsolute_iff _).mpr ⟨tail ++ rest, rfl⟩

theorem join_eq_normalize {root path : JsString} (some : root ≠ []) (others : path ≠ []) :
    join [root, path] = normalize (root ++ slash :: path) := by
  have kept : [root, path].filter (· ≠ []) = [root, path] :=
    List.filter_eq_self.mpr fun part member => by
      rcases List.mem_pair.mp member with rfl | rfl
      · exact decide_eq_true some
      · exact decide_eq_true others
  rw [join, kept, List.intercalate_cons_cons, List.intercalate_singleton, List.append_assoc,
    List.singleton_append]

/-- Proper segments are added to those of an absolute path, however the path with
them begins. -/
theorem normalize_append {root : JsString} (rooted : isAbsolute root = true)
    {path : List JsString} (nonempty : path ≠ []) (proper : ∀ segment ∈ path, Proper segment) :
    normalize (root ++ absolute path) = absolute (steps root ++ path) ∧
      normalize (root ++ slash :: absolute path) = absolute (steps root ++ path) := by
  have noSlash := fun segment member => (proper segment member).noSlash
  have parts : segments ([slash].intercalate path) = path :=
    List.splitOn_intercalate slash noSlash nonempty
  have added : steps (root ++ absolute path) = steps root ++ path := by
    rw [absolute, steps_append rooted, parts, walk_proper proper, List.reverse_append,
      List.reverse_reverse, List.reverse_reverse]
  have addedTwice : steps (root ++ slash :: absolute path) = steps root ++ path := by
    rw [absolute, steps_append rooted, segments_slash, parts]
    show (walk false (steps root).reverse path).reverse = _
    rw [walk_proper proper, List.reverse_append, List.reverse_reverse, List.reverse_reverse]
  have unclosed := endsInSlash_absolute nonempty proper
  have ends : ∀ front : JsString, endsInSlash (front ++ absolute path) = false := by
    intro front
    have last : (front ++ absolute path).getLast? = (absolute path).getLast? :=
      List.getLast?_append_of_ne_nil front (List.cons_ne_nil slash _)
    rw [← unclosed, endsInSlash, endsInSlash, last]
  have longer : steps root ++ path ≠ [] := List.append_ne_nil_of_right_ne_nil _ nonempty
  constructor
  · rw [normalize_of_isAbsolute (isAbsolute_append rooted _), added, ends root, if_neg longer,
      if_neg Bool.false_ne_true]
  · rw [normalize_of_isAbsolute (isAbsolute_append rooted _), addedTwice, List.append_cons,
      ends (root ++ [slash]), if_neg longer, if_neg Bool.false_ne_true]

/-- A relative path and the same path after a slash are joined to the same. -/
theorem join_proper {root : JsString} (rooted : isAbsolute root = true)
    {path : List JsString} (nonempty : path ≠ []) (proper : ∀ segment ∈ path, Proper segment) :
    join [root, [slash].intercalate path] = absolute (steps root ++ path) ∧
      join [root, absolute path] = absolute (steps root ++ path) := by
  have some : root ≠ [] := by
    obtain ⟨tail, rfl⟩ := (isAbsolute_iff root).mp rooted
    exact List.cons_ne_nil _ _
  have other : absolute path ≠ [] := List.cons_ne_nil slash _
  rw [join_eq_normalize some (intercalate_ne_nil nonempty proper), join_eq_normalize some other]
  exact normalize_append rooted nonempty proper

example : join [Utf16.encode "/srv/../web/".toList, Utf16.encode "../a//./b".toList] =
    Utf16.encode "/a/b".toList := by decide

end CollabEditor.Library.PosixPath
