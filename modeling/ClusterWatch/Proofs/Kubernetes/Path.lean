import ClusterWatch.Kubernetes.Api
import ClusterWatch.Proofs.Resource.ServiceName
import Mathlib.Data.List.TakeWhile

/-!
# Where paths lead

A server reads a path segment by segment: a dot stays where it is and two dots lead one level up.
A text that continues a path can so lead out of the place at which it starts.  What it does there
is told by how far it goes up and by the segments that it then goes down through.  The name of a
Secret is such a text: it continues the path of the Secrets of a namespace.
-/

namespace ClusterWatch.Kubernetes

open ClusterWatch.Text (splitAt splitAt_append_cons splitAt_of_not_mem splitBy_ne_nil)
open ServiceName (IsLabel IsLabelChar)

/-! ## Places -/

/-- What stands between two slashes of a path. -/
abbrev Segment : Type :=
  List Char

/-- The segment that stays where it is. -/
def here : Segment :=
  ['.']

/-- The segment that leads one level up. -/
def above : Segment :=
  ['.', '.']

/-- The place to which a segment leads from a place.  There is nothing above the root. -/
def advance (place : List Segment) (segment : Segment) : List Segment :=
  if segment = here then place
  else if segment = above then place.dropLast
  else place ++ [segment]

/-- A way that ends in a dot or two leads to what has no name at that place. -/
def closed (way : List Segment) : List Segment :=
  if way.getLast? = some here ∨ way.getLast? = some above then way ++ [[]] else way

/-- The segments of a text. -/
def segments (text : List Char) : List Segment :=
  splitAt '/' text

/-- The place to which a path leads from the root.  A path begins with a slash. -/
def resolve (path : List Char) : List Segment :=
  (closed (segments path).tail).foldl advance []

/-! ## Courses -/

/-- How a way leads on from where it starts: some levels up, and then down. -/
structure Course where
  up : Nat
  down : List Segment
  deriving DecidableEq

namespace Course

/-- The course of a way with one segment more. -/
def advance (course : Course) (segment : Segment) : Course :=
  if segment = here then course
  else if segment = above then
    if course.down = [] then { course with up := course.up + 1 }
    else { course with down := course.down.dropLast }
  else { course with down := course.down ++ [segment] }

/-- The course of a text that continues a path. -/
def ofText (text : List Char) : Course :=
  (closed (segments text)).foldl advance ⟨0, []⟩

/-- The place to which a course leads from a place. -/
def endFrom (course : Course) (place : List Segment) : List Segment :=
  place.take (place.length - course.up) ++ course.down

theorem endFrom_advance (course : Course) (place : List Segment) (segment : Segment) :
    (course.advance segment).endFrom place =
      Kubernetes.advance (course.endFrom place) segment := by
  unfold advance Kubernetes.advance endFrom
  split_ifs with stays leaves bare
  · rfl
  · rw [bare, List.append_nil, List.append_nil, List.dropLast_eq_take, List.take_take,
      List.length_take]
    congr 1
    show place.length - (course.up + 1) =
      min (min (place.length - course.up) place.length - 1) (place.length - course.up)
    omega
  · rw [List.dropLast_append_of_ne_nil bare]
  · rw [List.append_assoc]

/-- A way leads to the end of its course. -/
theorem endFrom_foldl (way : List Segment) (course : Course) (place : List Segment) :
    (way.foldl advance course).endFrom place =
      way.foldl Kubernetes.advance (course.endFrom place) := by
  induction way generalizing course with
  | nil => rfl
  | cons segment way ih => rw [List.foldl_cons, List.foldl_cons, ih, endFrom_advance]

/-- A course ends one level below the place where it starts exactly if it comes back down the way
that it has gone up. -/
theorem endFrom_eq_append_iff {course : Course} {place : List Segment} {segment : Segment} :
    course.endFrom place = place ++ [segment] ↔
      course.down = place.drop (place.length - course.up) ++ [segment] := by
  have split := List.take_append_drop (place.length - course.up) place
  conv_lhs => rw [endFrom, ← split, List.append_assoc]
  rw [List.take_append_drop, List.append_cancel_left_eq]

end Course

/-! ## Paths that are continued -/

theorem segments_ne_nil (text : List Char) : segments text ≠ [] :=
  splitBy_ne_nil _ _

theorem segments_append_cons (path text : List Char) :
    segments (path ++ '/' :: text) = segments path ++ segments text :=
  splitAt_append_cons '/' path text

theorem closed_append {front way : List Segment} (some : way ≠ []) :
    closed (front ++ way) = front ++ closed way := by
  unfold closed
  rw [List.getLast?_append_of_ne_nil front some]
  split_ifs
  · rw [List.append_assoc]
  · rfl

/-- Without dot segments a way leads down through all of its segments. -/
theorem foldl_advance {way : List Segment} (plain : ∀ s ∈ way, s ≠ here ∧ s ≠ above)
    (place : List Segment) : way.foldl advance place = place ++ way := by
  induction way generalizing place with
  | nil => simp
  | cons s way ih =>
      obtain ⟨⟨stays, leaves⟩, plain⟩ := List.forall_mem_cons.mp plain
      rw [List.foldl_cons, ih plain, advance, if_neg stays, if_neg leaves, List.append_assoc,
        List.singleton_append]

/-- A path without dot segments that a text continues leads to the end of the text's course. -/
theorem resolve_append {path : List Char} {place : List Segment}
    (leads : segments path = [] :: place) (plain : ∀ s ∈ place, s ≠ here ∧ s ≠ above)
    (text : List Char) :
    resolve (path ++ '/' :: text) = (Course.ofText text).endFrom place := by
  have start : (⟨0, []⟩ : Course).endFrom place = place := by simp [Course.endFrom]
  rw [resolve, segments_append_cons, leads, List.cons_append, List.tail_cons,
    closed_append (segments_ne_nil text), List.foldl_append, foldl_advance plain, List.nil_append,
    Course.ofText, Course.endFrom_foldl, start]

example : resolve "/a/b/c/./../../g".toList = ["a".toList, "g".toList] := by decide

/-- A text without a slash is a course of one segment, or of a dot segment that is closed. -/
theorem Course.ofText_of_not_mem {text : List Char} (free : '/' ∉ text) :
    ofText text =
      if text = here then ⟨0, [[]]⟩ else if text = above then ⟨1, [[]]⟩ else ⟨0, [text]⟩ := by
  have one : segments text = [text] := splitAt_of_not_mem free
  rw [ofText, one]
  by_cases stays : text = here
  · rw [if_pos stays, stays]
    rfl
  by_cases leaves : text = above
  · rw [if_neg stays, if_pos leaves, leaves]
    rfl
  · have open_ : closed [text] = [text] := by simp [closed, stays, leaves]
    rw [if_neg stays, if_neg leaves, open_]
    simp [advance, stays, leaves]

/-! ## Requests for Secrets -/

/-- The place of the Secrets of a namespace. -/
def secretsPlace (space : String) : List Segment :=
  ["api".toList, "v1".toList, "namespaces".toList, space.toList, "secrets".toList]

/-- What of a name gets into the path of a request. -/
def asked (name : String) : List Char :=
  (name.toList.takeWhile (· ≠ '#')).takeWhile (· ≠ '?')

/-- A path leads to one Secret of a namespace. -/
def StaysIn (space : String) (path : List Char) : Prop :=
  ∃ segment, segment ≠ [] ∧ resolve path = secretsPlace space ++ [segment]

/-- A course comes back down the way that it has gone up, and ends one level below. -/
def Course.Returns (course : Course) (place : List Segment) : Prop :=
  ∃ segment, segment ≠ [] ∧ course.down = place.drop (place.length - course.up) ++ [segment]

theorem isPathChar_of_isLabelChar {c : Char} (label : IsLabelChar c) : isPathChar c = true := by
  have bounds := label.toNat
  simp only [isPathChar, Bool.or_eq_true, Bool.and_eq_true, decide_eq_true_eq, beq_iff_eq]
  omega

/-- No character of a path begins a query or ends the target. -/
theorem ne_of_isPathChar {c : Char} (char : isPathChar c = true) : c ≠ '#' ∧ c ≠ '?' := by
  constructor
  · rintro rfl
    exact absurd char (by decide)
  · rintro rfl
    exact absurd char (by decide)

theorem toList_secretsPath (space : String) :
    (secretsPath space).toList =
      "/api/v1/namespaces".toList ++ '/' :: (space.toList ++ '/' :: "secrets".toList) := by
  have front : "/api/v1/namespaces/".toList = "/api/v1/namespaces".toList ++ ['/'] := by decide
  have back : "/secrets".toList = '/' :: "secrets".toList := by decide
  unfold secretsPath
  simp only [String.toList_append]
  rw [front, back, List.append_assoc, List.append_assoc, List.singleton_append]

theorem toList_target (space name : String) :
    (secretsPath space ++ "/" ++ name ++ "").toList =
      (secretsPath space).toList ++ '/' :: name.toList := by
  have nothing : "".toList = [] := rfl
  have slash : "/".toList = ['/'] := rfl
  simp only [String.toList_append]
  rw [nothing, slash, List.append_nil, List.append_assoc, List.singleton_append]

/-- The path of a target is what is before a number sign and before a question mark. -/
theorem path_of_splitTarget {target path query : List Char}
    (split : splitTarget? target = some (path, query)) :
    path = (target.takeWhile (· ≠ '#')).takeWhile (· ≠ '?') := by
  unfold splitTarget? at split
  dsimp only at split
  split at split
  · cases split
    rfl
  · cases split

theorem takeWhile_of_isPathChar {text : List Char} (chars : ∀ c ∈ text, isPathChar c = true) :
    text.takeWhile (· ≠ '#') = text ∧ text.takeWhile (· ≠ '?') = text := by
  rw [List.takeWhile_eq_self_iff, List.takeWhile_eq_self_iff]
  exact ⟨fun c mem => by simpa using (ne_of_isPathChar (chars c mem)).1,
    fun c mem => by simpa using (ne_of_isPathChar (chars c mem)).2⟩

theorem splitTarget_of_isPathChar {target : List Char} (chars : ∀ c ∈ target, isPathChar c = true) :
    splitTarget? target = some (target, []) := by
  obtain ⟨hash, question⟩ := takeWhile_of_isPathChar chars
  unfold splitTarget?
  dsimp only
  rw [hash, question, List.drop_length, if_pos]
  · rfl
  · simpa using chars

theorem asked_of_isPathChar {name : String} (chars : ∀ c ∈ name.toList, isPathChar c = true) :
    asked name = name.toList := by
  obtain ⟨hash, question⟩ := takeWhile_of_isPathChar chars
  rw [asked, hash, question]

section Secret

variable {space name : String} {request : Request} (label : IsLabel space)

include label

theorem ne_of_mem_label {c : Char} (mem : c ∈ space.toList) : c ≠ '/' ∧ c ≠ '.' := by
  have char := label.chars c mem
  constructor
  · rintro rfl
    exact absurd char (by decide)
  · rintro rfl
    exact absurd char (by decide)

/-- The path of the Secrets leads to their place. -/
theorem segments_secretsPath :
    segments (secretsPath space).toList = [] :: secretsPlace space := by
  have free : '/' ∉ space.toList := fun mem => (ne_of_mem_label label mem).1 rfl
  have alone : segments space.toList = [space.toList] := splitAt_of_not_mem free
  rw [toList_secretsPath, segments_append_cons, segments_append_cons, alone]
  rfl

theorem plain_secretsPlace : ∀ s ∈ secretsPlace space, s ≠ here ∧ s ≠ above := by
  have plain : ∀ s ∈ [here, above], space.toList ≠ s := by
    intro s mem same
    have dot : '.' ∈ s := (show ∀ s ∈ [here, above], '.' ∈ s by decide) s mem
    exact (ne_of_mem_label label (same ▸ dot)).2 rfl
  simp only [secretsPlace, List.forall_mem_cons, List.not_mem_nil, false_implies, implies_true,
    and_true]
  exact ⟨by decide, by decide, by decide, ⟨plain _ (by simp), plain _ (by simp)⟩, by decide⟩

theorem isPathChar_of_mem_secretsPath :
    ∀ c ∈ (secretsPath space).toList ++ ['/'], isPathChar c = true := by
  have front : "/api/v1/namespaces".toList.all isPathChar = true := by decide
  have back : "secrets".toList.all isPathChar = true := by decide
  intro c mem
  rw [toList_secretsPath] at mem
  simp only [List.mem_append, List.mem_cons, List.not_mem_nil, or_false] at mem
  rcases mem with (api | rfl | named | rfl | secrets) | rfl
  · exact List.all_eq_true.mp front c api
  · decide
  · exact isPathChar_of_isLabelChar (label.chars c named)
  · decide
  · exact List.all_eq_true.mp back c secrets
  · decide

/-- Of the target of a request for a Secret, only the end of the name can be cut off. -/
theorem takeWhile_target (p : Char → Bool) (keeps : ∀ c, isPathChar c = true → p c = true)
    (rest : List Char) :
    ((secretsPath space).toList ++ '/' :: rest).takeWhile p =
      (secretsPath space).toList ++ '/' :: rest.takeWhile p := by
  have kept : ∀ c ∈ (secretsPath space).toList ++ ['/'], p c = true :=
    fun c mem => keeps c (isPathChar_of_mem_secretsPath label c mem)
  rw [← List.singleton_append, ← List.append_assoc, List.takeWhile_append_of_pos kept,
    List.append_assoc, List.singleton_append]

/-- The path of a request for a Secret is that of the Secrets, continued by what of the name gets
into it. -/
theorem path_of_secret (built : Request.secret space name = .ok request) :
    request.path.toList = (secretsPath space).toList ++ '/' :: asked name := by
  unfold Request.secret Request.ofName at built
  split at built
  · cases built
  split at built
  · cases built
  · next path query split =>
      cases built
      have path := path_of_splitTarget split
      rw [toList_target, takeWhile_target label _ fun c char => by
          simpa using (ne_of_isPathChar char).1,
        takeWhile_target label _ fun c char => by simpa using (ne_of_isPathChar char).2] at path
      rw [path, String.toList_ofList, asked]

/-- A name of characters of a path can be asked for. -/
theorem exists_secret_of_isPathChar (some : name ≠ "")
    (chars : ∀ c ∈ name.toList, isPathChar c = true) :
    ∃ request, Request.secret space name = .ok request := by
  have all : ∀ c ∈ (secretsPath space).toList ++ '/' :: name.toList, isPathChar c = true := by
    intro c mem
    rw [← List.singleton_append, ← List.append_assoc] at mem
    rcases List.mem_append.mp mem with front | rest
    · exact isPathChar_of_mem_secretsPath label c front
    · exact chars c rest
  unfold Request.secret Request.ofName
  rw [if_neg some, toList_target, splitTarget_of_isPathChar all]
  exact ⟨_, rfl⟩

/-- A request for a Secret stays with the Secrets of its namespace exactly if the course of its
name returns. -/
theorem staysIn_iff_returns (built : Request.secret space name = .ok request) :
    StaysIn space request.path.toList ↔
      (Course.ofText (asked name)).Returns (secretsPlace space) := by
  have ends := resolve_append (segments_secretsPath label) (plain_secretsPlace label) (asked name)
  rw [StaysIn, path_of_secret label built, ends]
  exact exists_congr fun s => and_congr_right fun _ => Course.endFrom_eq_append_iff

end Secret

/-- The course of one segment returns unless that is a dot segment or empty. -/
theorem returns_iff_of_not_mem {space : String} {text : List Char} (free : '/' ∉ text) :
    (Course.ofText text).Returns (secretsPlace space) ↔ text ∉ [[], here, above] := by
  have length : (secretsPlace space).length = 5 := rfl
  rw [Course.ofText_of_not_mem free, Course.Returns, length]
  split_ifs with stays leaves
  · simp [stays, secretsPlace]
  · simp [leaves, secretsPlace]
  · simp [stays, leaves, secretsPlace]

/-- Five levels up from the Secrets of a namespace. -/
def climb : List Char :=
  "../../../../..".toList

/-- From the root, the Secrets of a namespace and five levels up lead nowhere. -/
theorem foldl_advance_climb {space : String} (label : IsLabel space) :
    (secretsPlace space ++ segments climb).foldl advance [] = [] := by
  rw [List.foldl_append, foldl_advance (plain_secretsPlace label), List.nil_append]
  rfl

/-- After five levels up, a name asks for what it says from the root on. -/
theorem resolve_climb {space : String} (label : IsLabel space) (way : List Char) :
    resolve ((secretsPath space).toList ++ '/' :: (climb ++ '/' :: way)) =
      resolve ('/' :: way) := by
  have root : segments ('/' :: way) = [[]] ++ segments way := segments_append_cons [] way
  rw [resolve, resolve, segments_append_cons, segments_append_cons, segments_secretsPath label,
    root, List.cons_append, List.tail_cons, List.singleton_append, List.tail_cons,
    ← List.append_assoc, closed_append (segments_ne_nil way), List.foldl_append,
    foldl_advance_climb label]

end ClusterWatch.Kubernetes
