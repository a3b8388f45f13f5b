import ClusterWatch.Proofs.Text.Digits
import ClusterWatch.Proofs.Text.Parts
import ClusterWatch.Text.Quoted

/-!
# Quoted text can be told apart

No written form of a character begins another one, and none begins with the quote that ends the
text.  So from quoted text with anything after it, the text and what comes after are known.
-/

namespace ClusterWatch.Text

/-! ## Characters -/

/-- The character that a letter after a backslash stands for. -/
def named : Char → Option Char
  | '0' => some '\x00'
  | 't' => some '\t'
  | 'r' => some '\r'
  | 'n' => some '\n'
  | '\"' => some '\"'
  | '\\' => some '\\'
  | _ => none

/-- `Writes c form`: the character is written in this form between quotes. -/
inductive Writes (c : Char) : List Char → Prop where
  | plain : c ≠ '\"' → c ≠ '\\' → Writes c [c]
  | named {letter : Char} : named letter = some c → Writes c ['\\', letter]
  | codePoint : Writes c (codePointEscape c)

theorem writes_escapeChar (c : Char) : Writes c (escapeChar c) := by
  unfold escapeChar
  split_ifs with null tab return_ newline quote backslash plain
  · exact .named (by rw [null]; rfl)
  · exact .named (by rw [tab]; rfl)
  · exact .named (by rw [return_]; rfl)
  · exact .named (by rw [newline]; rfl)
  · exact .named (by rw [quote]; rfl)
  · exact .named (by rw [backslash]; rfl)
  · exact .plain quote backslash
  · exact .codePoint

/-- A brace is not a digit. -/
theorem brace_not_mem_toDigits (n : Nat) : '\x7d' ∉ Nat.toDigits 16 n := by
  induction n using Nat.strongRecOn with
  | ind n ih =>
      have digit : ∀ i : Fin 16, '\x7d' ≠ i.val.digitChar := by decide
      rw [Nat.toDigits_eq_if (by decide)]
      split
      · next small => simp [digit ⟨n, small⟩]
      · next long =>
          rw [List.mem_append, List.mem_singleton, not_or]
          exact ⟨ih (n / 16) (by omega), digit ⟨n % 16, Nat.mod_lt n (by decide)⟩⟩

theorem codePointEscape_append (c : Char) (s : List Char) :
    codePointEscape c ++ s = '\\' :: 'u' :: '\x7b' :: (Nat.toDigits 16 c.toNat ++ '\x7d' :: s) := by
  simp [codePointEscape]

namespace Writes

variable {c d : Char} {form other s t : List Char}

/-- No written form begins another one. -/
theorem append_inj (writes : Writes c form) (writes' : Writes d other)
    (same : form ++ s = other ++ t) : c = d ∧ s = t := by
  cases writes with
  | plain quote backslash =>
      cases writes' with
      | plain => exact List.cons.inj same
      | named => exact absurd (List.cons.inj same).1 backslash
      | codePoint =>
          rw [codePointEscape_append] at same
          exact absurd (List.cons.inj same).1 backslash
  | @named letter stands =>
      cases writes' with
      | plain quote backslash => exact absurd (List.cons.inj same).1.symm backslash
      | @named letter' stands' =>
          obtain ⟨letters, rest⟩ := List.cons.inj (List.cons.inj same).2
          rw [letters, stands'] at stands
          exact ⟨(Option.some.inj stands).symm, rest⟩
      | codePoint =>
          rw [codePointEscape_append] at same
          obtain ⟨rfl, -⟩ := List.cons.inj (List.cons.inj same).2
          cases stands
  | codePoint =>
      rw [codePointEscape_append] at same
      cases writes' with
      | plain quote backslash => exact absurd (List.cons.inj same).1.symm backslash
      | @named letter' stands' =>
          obtain ⟨rfl, -⟩ := List.cons.inj (List.cons.inj same).2
          cases stands'
      | codePoint =>
          rw [codePointEscape_append] at same
          have digits := (List.cons.inj (List.cons.inj (List.cons.inj same).2).2).2
          obtain ⟨numbers, rest⟩ := (append_cons_inj_left (brace_not_mem_toDigits _)
            (brace_not_mem_toDigits _)).mp digits
          exact ⟨Char.toNat_inj.mp (toDigits_inj (by decide) (by decide) numbers), rest⟩

/-- No written form begins with a quote. -/
theorem append_ne_quote (writes : Writes c form) : form ++ s ≠ '\"' :: t := by
  intro same
  cases writes with
  | plain quote backslash => exact quote (List.cons.inj same).1
  | named => cases (List.cons.inj same).1
  | codePoint =>
      rw [codePointEscape_append] at same
      cases (List.cons.inj same).1

end Writes

/-! ## Texts -/

theorem flatMap_escapeChar_append_inj {text other s t : List Char}
    (same : text.flatMap escapeChar ++ '\"' :: s = other.flatMap escapeChar ++ '\"' :: t) :
    text = other ∧ s = t := by
  induction text generalizing other with
  | nil =>
      cases other with
      | nil => exact ⟨rfl, (List.cons.inj same).2⟩
      | cons d other =>
          rw [List.flatMap_cons, List.append_assoc] at same
          exact absurd same.symm (writes_escapeChar d).append_ne_quote
  | cons c text ih =>
      cases other with
      | nil =>
          rw [List.flatMap_cons, List.append_assoc] at same
          exact absurd same (writes_escapeChar c).append_ne_quote
      | cons d other =>
          rw [List.flatMap_cons, List.flatMap_cons, List.append_assoc, List.append_assoc] at same
          obtain ⟨rfl, texts⟩ := (writes_escapeChar c).append_inj (writes_escapeChar d) same
          obtain ⟨rfl, rest⟩ := ih texts
          exact ⟨rfl, rest⟩

/-- What is quoted and what comes after it are known from both together. -/
theorem quoteChars_append_inj {text other s t : List Char} :
    quoteChars text ++ s = quoteChars other ++ t ↔ text = other ∧ s = t := by
  refine ⟨fun same => ?_, fun ⟨texts, rest⟩ => by rw [texts, rest]⟩
  simp only [quoteChars, List.cons_append, List.append_assoc, List.nil_append] at same
  exact flatMap_escapeChar_append_inj (List.cons.inj same).2

end ClusterWatch.Text
