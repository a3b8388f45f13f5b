import ClusterWatch.Proofs.Resource.ServiceName

/-!
# How much of an owner is kept

The room that the suffixes leave is counted in bytes, and the owner is cut to as many characters.
So of characters and bytes taken together a name never has more than 63, and it is within 63 bytes
exactly if nothing had to be cut or every character that is kept is a single byte.
-/

namespace ClusterWatch.ServiceName

/-- The longest part of a text, from its beginning up to a boundary between characters, that has a
property. -/
structure IsLongest (Fits : List Char → Prop) (kept whole : List Char) : Prop where
  begins : kept <+: whole
  fits : Fits kept
  longest : ∀ other, other <+: whole → Fits other → other.length ≤ kept.length

/-- With a part of its owner in front of a suffix, a name has no more than 63 bytes. -/
def FitsBytes (suffix : String) (part : List Char) : Prop :=
  (String.ofList part ++ suffix).utf8ByteSize ≤ 63

/-- The characters of a part of an owner and the bytes of a suffix are no more than 63. -/
def FitsCharacters (suffix : String) (part : List Char) : Prop :=
  part.length + suffix.utf8ByteSize ≤ 63

/-! ## Characters and bytes -/

theorem length_le_utf8ByteSize (s : List Char) : s.length ≤ (String.ofList s).utf8ByteSize := by
  rw [String.utf8ByteSize_ofList]
  induction s with
  | nil => exact Nat.le_refl 0
  | cons c s ih =>
      have pos := c.utf8Size_pos
      rw [String.utf8Len_cons, List.length_cons]
      omega

/-- A text has as many bytes as characters if every character is a single byte, and more bytes
otherwise. -/
theorem utf8ByteSize_eq_length_iff {s : List Char} :
    (String.ofList s).utf8ByteSize = s.length ↔ ∀ c ∈ s, c.utf8Size = 1 := by
  rw [String.utf8ByteSize_ofList]
  induction s with
  | nil => simp
  | cons c s ih =>
      have pos := c.utf8Size_pos
      have rest := length_le_utf8ByteSize s
      rw [String.utf8ByteSize_ofList] at rest
      rw [List.forall_mem_cons, ← ih, String.utf8Len_cons, List.length_cons]
      omega

/-! ## The part that is kept -/

section Kept

/-- What is kept of an owner in front of a suffix. -/
def kept (owner suffix : String) : List Char :=
  owner.toList.take (maxLength - suffix.utf8ByteSize)

variable {owner suffix : String} (room : suffix.utf8ByteSize ≤ 63)

include room

/-- In characters for the owner and bytes for the suffix, as much is kept as there is room for. -/
theorem isLongest_kept : IsLongest (FitsCharacters suffix) (kept owner suffix) owner.toList where
  begins := List.take_prefix _ _
  fits := by
    rw [FitsCharacters, kept, List.length_take, maxLength]
    omega
  longest := by
    intro other begins fits
    have shorter := begins.length_le
    rw [FitsCharacters] at fits
    rw [kept, List.length_take, maxLength]
    omega

/-- A name keeps within the limit in bytes if its owner is kept as a whole and fits, or if what is
kept of it has no character of several bytes. -/
theorem fitsBytes_kept_iff :
    FitsBytes suffix (kept owner suffix) ↔
      (owner ++ suffix).utf8ByteSize ≤ 63 ∨ ∀ c ∈ kept owner suffix, c.utf8Size = 1 := by
  rw [FitsBytes, String.utf8ByteSize_append, String.utf8ByteSize_append,
    ← utf8ByteSize_eq_length_iff]
  have least := length_le_utf8ByteSize (kept owner suffix)
  by_cases short : owner.toList.length ≤ maxLength - suffix.utf8ByteSize
  · have whole : kept owner suffix = owner.toList := List.take_of_length_le short
    rw [whole, String.ofList_toList] at least ⊢
    rw [maxLength] at short
    omega
  · -- An owner of more characters than there is room for does not fit in bytes either.
    have size : (kept owner suffix).length = maxLength - suffix.utf8ByteSize :=
      List.length_take_of_le (Nat.le_of_not_le short)
    have bytes := length_le_utf8ByteSize owner.toList
    rw [String.ofList_toList] at bytes
    rw [maxLength] at size short
    omega

/-- If what is kept fits in bytes, no longer part does. -/
theorem fitsBytes_kept_iff_isLongest :
    FitsBytes suffix (kept owner suffix) ↔
      IsLongest (FitsBytes suffix) (kept owner suffix) owner.toList := by
  refine ⟨fun fits => ⟨(isLongest_kept room).begins, fits, fun other begins fits' => ?_⟩,
    IsLongest.fits⟩
  have least := length_le_utf8ByteSize other
  rw [FitsBytes, String.utf8ByteSize_append] at fits'
  exact (isLongest_kept room).longest other begins (by rw [FitsCharacters]; omega)

end Kept

/-- With suffixes that a label has room for, a name is the longest part of its owner that fits in
front of all of the suffixes, with the owner counted in characters and the suffixes in bytes.  The
name has at most 63 bytes exactly if the whole owner fits in them or every character that is kept
is a single byte, and in these cases, and no others, its part of the owner is the longest that fits
in bytes. -/
theorem name_within_limit_iff (namer : Namer) (owner : String) (suffixes : List String)
    (room : (String.ofList (joined (namer.suffixes ++ suffixes))).utf8ByteSize ≤ 63) :
    ∃ part,
      namer.name owner suffixes =
        String.ofList part ++ String.ofList (joined (namer.suffixes ++ suffixes)) ∧
      IsLongest (FitsCharacters (String.ofList (joined (namer.suffixes ++ suffixes)))) part
        owner.toList ∧
      ((namer.name owner suffixes).utf8ByteSize ≤ 63 ↔
        (owner ++ String.ofList (joined (namer.suffixes ++ suffixes))).utf8ByteSize ≤ 63 ∨
          ∀ c ∈ part, c.utf8Size = 1) ∧
      ((namer.name owner suffixes).utf8ByteSize ≤ 63 ↔
        IsLongest (FitsBytes (String.ofList (joined (namer.suffixes ++ suffixes)))) part
          owner.toList) :=
  ⟨_, rfl, isLongest_kept room, fitsBytes_kept_iff room, fitsBytes_kept_iff_isLongest room⟩

/-- A name of sixty letters, each of two bytes. -/
def accentedName : String :=
  String.ofList (List.replicate 60 'é')

/-- Of a name of letters with accents as many are kept as if each were a byte, which is more than
fits. -/
theorem name_within_limit_iff_accented :
    (String.ofList (joined (elasticsearch.suffixes ++ ["http"]))).utf8ByteSize ≤ 63 ∧
    ∃ part, httpService accentedName = String.ofList part ++ "-es-http" ∧
      IsLongest (FitsCharacters "-es-http") part accentedName.toList ∧
      ¬IsLongest (FitsBytes "-es-http") part accentedName.toList := by
  have room : (String.ofList (joined (elasticsearch.suffixes ++ ["http"]))).utf8ByteSize ≤ 63 := by
    decide
  have suffix : String.ofList (joined (elasticsearch.suffixes ++ ["http"])) = "-es-http" := by
    decide
  have long : ¬(httpService accentedName).utf8ByteSize ≤ 63 := by decide +kernel
  obtain ⟨part, named, longest, -, fits⟩ :=
    name_within_limit_iff elasticsearch accentedName ["http"] room
  rw [suffix] at named longest fits
  exact ⟨room, part, named, longest, fun fitting => long (fits.mpr fitting)⟩

/-- The limit in bytes is not kept for every owner. -/
theorem not_name_within_limit :
    ¬∀ (namer : Namer) (owner : String) (suffixes : List String),
      (String.ofList (joined (namer.suffixes ++ suffixes))).utf8ByteSize ≤ 63 →
        (namer.name owner suffixes).utf8ByteSize ≤ 63 ∧
        ∃ part,
          namer.name owner suffixes =
            String.ofList part ++ String.ofList (joined (namer.suffixes ++ suffixes)) ∧
          IsLongest (FitsBytes (String.ofList (joined (namer.suffixes ++ suffixes)))) part
            owner.toList := by
  intro within
  have long : ¬(elasticsearch.name accentedName ["http"]).utf8ByteSize ≤ 63 := by decide +kernel
  exact long (within elasticsearch accentedName ["http"] (by decide)).1

end ClusterWatch.ServiceName
