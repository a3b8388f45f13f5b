/-!
# Parts of texts

Texts between separators, and texts without what stands at their end.
-/

namespace ClusterWatch.Text

/-- The parts of a text between the characters that separate. -/
def splitBy (separates : Char → Bool) : List Char → List (List Char)
  | [] => [[]]
  | c :: rest =>
      if separates c then [] :: splitBy separates rest
      else (splitBy separates rest).modifyHead (c :: ·)

/-- The parts of a text between the occurrences of one character. -/
def splitAt (separator : Char) (text : List Char) : List (List Char) :=
  splitBy (· == separator) text

/-- The texts before and after the first occurrence of a separator. -/
def cutAt? (separator : List Char) : List Char → Option (List Char × List Char)
  | [] => if separator = [] then some ([], []) else none
  | c :: rest =>
      if separator.isPrefixOf (c :: rest) then some ([], (c :: rest).drop separator.length)
      else (cutAt? separator rest).map fun (before, after) => (c :: before, after)

/-- Cuts a text after a number of bytes of its UTF-8 form.  There is no cut inside a
character. -/
def cutBytes? : Nat → List Char → Option (List Char × List Char)
  | 0, text => some ([], text)
  | _ + 1, [] => none
  | n + 1, c :: rest =>
      if c.utf8Size ≤ n + 1 then
        (cutBytes? (n + 1 - c.utf8Size) rest).map fun (before, after) => (c :: before, after)
      else none

/-- The bytes that a text takes in UTF-8. -/
def byteCount : List Char → Nat
  | [] => 0
  | c :: rest => c.utf8Size + byteCount rest

/-- The part of a text between two distances in bytes from its beginning. -/
def slice? (start stop : Nat) (text : List Char) : Option (List Char) := do
  let (_, rest) ← cutBytes? start text
  let (part, _) ← cutBytes? (stop - start) rest
  return part

/-- The text without the characters at its end that have a property. -/
def dropTrailing (property : Char → Bool) (text : List Char) : List Char :=
  (text.reverse.dropWhile property).reverse

/-- The characters at the end of a text that have a property. -/
def takeTrailing (property : Char → Bool) (text : List Char) : List Char :=
  (text.reverse.takeWhile property).reverse

/-- There is always a first part. -/
theorem splitBy_ne_nil (separates : Char → Bool) (text : List Char) :
    splitBy separates text ≠ [] := by
  induction text with
  | nil => simp [splitBy]
  | cons c rest inductionHypothesis =>
      simp only [splitBy]
      split
      · simp
      · simpa using inductionHypothesis

/-- A cut loses nothing. -/
theorem append_eq_of_cutBytes? {n : Nat} {text before after : List Char}
    (cut : cutBytes? n text = some (before, after)) : before ++ after = text := by
  fun_induction cutBytes? n text generalizing before after with
  | case1 text => simp_all
  | case2 n => simp at cut
  | case3 n c rest small inductionHypothesis =>
      obtain ⟨parts, found, equal⟩ := Option.map_eq_some_iff.1 cut
      simp only [Prod.mk.injEq] at equal
      rw [← equal.1, ← equal.2, List.cons_append, inductionHypothesis found]
  | case4 n c rest large => simp at cut

@[simp]
theorem dropTrailing_nil (property : Char → Bool) : dropTrailing property [] = [] :=
  rfl

/-- A text is what is left of it and what is dropped at its end. -/
@[simp]
theorem dropTrailing_append_takeTrailing (property : Char → Bool) (text : List Char) :
    dropTrailing property text ++ takeTrailing property text = text := by
  simp [dropTrailing, takeTrailing, ← List.reverse_append]

/-- What is dropped has the property. -/
theorem of_mem_takeTrailing {property : Char → Bool} {text : List Char} :
    ∀ c ∈ takeTrailing property text, property c = true := by
  intro c mem
  exact List.all_eq_true.mp List.all_takeWhile c (List.mem_reverse.mp mem)

/-- What is left does not end in a character with the property. -/
theorem not_of_mem_getLast?_dropTrailing {property : Char → Bool} {text : List Char} :
    ∀ c ∈ (dropTrailing property text).getLast?, property c = false := by
  intro c last
  rw [dropTrailing, List.getLast?_reverse] at last
  have stops := List.head?_dropWhile_not property text.reverse
  rwa [Option.mem_def.mp last] at stops

/-- What is left is the one beginning of the text that does not end in the property, and after
which all characters have it. -/
theorem dropTrailing_eq_iff {property : Char → Bool} {text base : List Char} :
    dropTrailing property text = base ↔
      (∃ rest, text = base ++ rest ∧ ∀ c ∈ rest, property c = true) ∧
        ∀ c ∈ base.getLast?, property c = false := by
  constructor
  · rintro rfl
    exact ⟨⟨takeTrailing property text, (dropTrailing_append_takeTrailing property text).symm,
      of_mem_takeTrailing⟩, not_of_mem_getLast?_dropTrailing⟩
  · rintro ⟨⟨rest, rfl, all⟩, ends⟩
    rw [dropTrailing, List.reverse_append,
      List.dropWhile_append_of_pos fun c mem => all c (List.mem_reverse.mp mem)]
    cases front : base.reverse with
    | nil => exact (List.reverse_eq_nil_iff.mp front).symm
    | cons c before =>
        have last : c ∈ base.getLast? := by
          rw [← List.head?_reverse, front]
          rfl
        rw [List.dropWhile_cons_of_neg (Bool.eq_false_iff.mp (ends c last)), ← front,
          List.reverse_reverse]

end ClusterWatch.Text
