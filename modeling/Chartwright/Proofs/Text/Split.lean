import Mathlib.Data.List.Basic
import Mathlib.Tactic.Lemma
import Chartwright.Text.Split

/-!
# Words and what they are joined to

A word in front of a separator is the first of the words. What is joined by a separator has the
characters of its pieces and, between them, the separator.
-/

namespace Chartwright.Text

variable {separator : Char} {word : List Char}

lemma splitAt_of_not_mem (h : separator ∉ word) : splitAt separator word = [word] := by
  induction word with
  | nil => rfl
  | cons c cs ih =>
    obtain ⟨hc, hcs⟩ := not_or.1 (mt List.mem_cons.2 h)
    rw [splitAt, if_neg (Ne.symm hc), ih hcs]

lemma splitAt_cons (h : separator ∉ word) (rest : List Char) :
    splitAt separator (word ++ separator :: rest) = word :: splitAt separator rest := by
  induction word with
  | nil => rw [List.nil_append, splitAt, if_pos rfl]
  | cons c cs ih =>
    obtain ⟨hc, hcs⟩ := not_or.1 (mt List.mem_cons.2 h)
    rw [List.cons_append, splitAt, if_neg (Ne.symm hc), ih hcs]

lemma words_of_not_mem (h : separator ∉ word) (nonempty : word ≠ []) :
    words separator word = [word] := by
  rw [words, splitAt_of_not_mem h, List.filter_cons_of_pos (by simpa using nonempty),
    List.filter_nil]

lemma words_cons (h : separator ∉ word) (nonempty : word ≠ []) (rest : List Char) :
    words separator (word ++ separator :: rest) = word :: words separator rest := by
  rw [words, splitAt_cons h, List.filter_cons_of_pos (by simpa using nonempty)]
  rfl

variable {c : Char} {pieces : List (List Char)}

lemma mem_intercalate {piece : List Char} (hp : piece ∈ pieces) (hc : c ∈ piece) :
    c ∈ [separator].intercalate pieces := by
  induction pieces with
  | nil => cases hp
  | cons first pieces ih =>
    cases pieces with
    | nil =>
      rw [List.intercalate_singleton, ← List.mem_singleton.1 hp]
      exact hc
    | cons next pieces =>
      rw [List.intercalate_cons_cons]
      cases hp with
      | head => exact List.mem_append_left _ (List.mem_append_left _ hc)
      | tail _ hp => exact List.mem_append_right _ (ih hp)

lemma of_mem_intercalate (h : c ∈ [separator].intercalate pieces) :
    c = separator ∨ ∃ piece ∈ pieces, c ∈ piece := by
  induction pieces with
  | nil => cases h
  | cons first pieces ih =>
    cases pieces with
    | nil =>
      rw [List.intercalate_singleton] at h
      exact .inr ⟨first, List.mem_cons_self, h⟩
    | cons next pieces =>
      rw [List.intercalate_cons_cons, List.append_assoc, List.singleton_append] at h
      rcases List.mem_append.1 h with h | h
      · exact .inr ⟨first, List.mem_cons_self, h⟩
      · cases h with
        | head => exact .inl rfl
        | tail _ h =>
          obtain e | ⟨piece, hp, hc⟩ := ih h
          · exact .inl e
          · exact .inr ⟨piece, List.mem_cons_of_mem _ hp, hc⟩

lemma mem_intercalate_iff (other : c ≠ separator) :
    c ∈ [separator].intercalate pieces ↔ ∃ piece ∈ pieces, c ∈ piece := by
  constructor
  · exact fun h => (of_mem_intercalate h).resolve_left other
  · rintro ⟨piece, hp, hc⟩
    exact mem_intercalate hp hc

end Chartwright.Text
