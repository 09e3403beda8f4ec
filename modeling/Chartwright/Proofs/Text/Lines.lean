import Mathlib.Data.List.DropRight
import Mathlib.Tactic.Lemma
import Chartwright.Text.Blank
import Chartwright.Text.Lines

/-!
# Lines and blanks

A text is trimmed where neither end of it is blank. A line in front of a newline is the first of the
lines, as long as it has no line break itself, and no line has one. Texts with a newline between
them have the lines of both.
-/

namespace Chartwright.Text

/-! ## Blanks -/

/-- Graphic characters of ASCII are not blank. -/
lemma isBlank_of_graphic {c : Char} (hl : 33 ≤ c.toNat) (hu : c.toNat ≤ 126) :
    isBlank c = false := by
  simp only [isBlank, inRanges, blankRanges, List.any_cons, List.any_nil, Bool.or_false,
    Bool.or_eq_false_iff, Bool.and_eq_false_iff, decide_eq_false_iff_not]
  omega

/-- Characters that end a line are blank. -/
lemma isBlank_of_isLineBreak {c : Char} (h : isLineBreak c = true) : isBlank c = true := by
  have breaks : ['\n', '\r', '\x0b', '\x0c', '\x1c', '\x1d', '\x1e', '\u0085', '\u2028',
    '\u2029'].all isBlank = true := by decide
  exact List.all_eq_true.1 breaks c (of_decide_eq_true h)

/-- Dropping from the end is dropping from the right. -/
lemma dropEndWhile_eq_rdropWhile (p : Char → Bool) (cs : List Char) :
    dropEndWhile p cs = cs.rdropWhile p := rfl

/-- What is left of a text was in it. -/
lemma mem_of_mem_strip {cs : List Char} {c : Char} (h : c ∈ strip cs) : c ∈ cs := by
  rw [strip, trimWhile, dropEndWhile_eq_rdropWhile] at h
  exact (List.dropWhile_sublist _).mem ((List.rdropWhile_prefix _ _).mem h)

/-- What is left of a text starts with no blank. -/
lemma isBlank_of_head?_strip {cs : List Char} : ∀ c ∈ (strip cs).head?, isBlank c = false := by
  intro c hc
  obtain ⟨rest, hr⟩ := List.rdropWhile_prefix isBlank (cs.dropWhile isBlank)
  have kept := List.head?_dropWhile_not isBlank cs
  rw [strip, trimWhile, dropEndWhile_eq_rdropWhile] at hc
  rw [← hr, List.head?_append, Option.mem_def.1 hc] at kept
  exact kept

/-- What is left of a text that is trimmed does not end with a character that is dropped. -/
lemma not_of_getLast?_trimWhile {p : Char → Bool} {cs : List Char} :
    ∀ c ∈ (trimWhile p cs).getLast?, p c = false := by
  intro c hc
  obtain ⟨hne, rfl⟩ := List.mem_getLast?_eq_getLast hc
  exact Bool.eq_false_iff.2 (List.rdropWhile_last_not p (cs.dropWhile p) hne)

/-- What is left of a text ends with no blank. -/
lemma isBlank_of_getLast?_strip {cs : List Char} :
    ∀ c ∈ (strip cs).getLast?, isBlank c = false :=
  not_of_getLast?_trimWhile

/-- A text is trimmed where neither end is blank. -/
lemma strip_eq_self_iff {cs : List Char} :
    strip cs = cs ↔ (∀ c ∈ cs.head?, isBlank c = false) ∧ ∀ c ∈ cs.getLast?, isBlank c = false := by
  constructor
  · intro h
    rw [← h]
    exact ⟨isBlank_of_head?_strip, isBlank_of_getLast?_strip⟩
  · rintro ⟨first, last⟩
    have front : cs.dropWhile isBlank = cs := by
      cases cs with
      | nil => rfl
      | cons c cs => exact List.dropWhile_cons_of_neg (by simp [first c rfl])
    rw [strip, trimWhile, dropEndWhile_eq_rdropWhile, front, List.rdropWhile_eq_self_iff]
    intro hne
    simp [last _ (List.getLast?_eq_getLast_of_ne_nil hne)]

/-- What is left of a text is trimmed. -/
lemma strip_strip (cs : List Char) : strip (strip cs) = strip cs :=
  strip_eq_self_iff.2 ⟨isBlank_of_head?_strip, isBlank_of_getLast?_strip⟩

/-- A blank in front does not count. -/
lemma strip_cons_of_isBlank {c : Char} (h : isBlank c = true) (cs : List Char) :
    strip (c :: cs) = strip cs := by
  rw [strip, trimWhile, List.dropWhile_cons_of_pos h]
  rfl

/-! ## Lines -/

/-- A character that ends no line belongs to the first one. -/
lemma splitLines_cons {c : Char} (h : isLineBreak c = false) (cs : List Char) :
    splitLines (c :: cs) = match splitLines cs with
      | [] => [[c]]
      | line :: lines => (c :: line) :: lines := by
  have hc : c ≠ '\r' := by
    rintro rfl
    exact absurd h (by decide)
  rw [splitLines]
  · exact if_neg (Bool.eq_false_iff.1 h)
  · exact fun _ e => absurd e hc

/-- A line and its newline come first. -/
lemma splitLines_line {line : List Char} (h : ∀ c ∈ line, isLineBreak c = false)
    (rest : List Char) : splitLines (line ++ '\n' :: rest) = line :: splitLines rest := by
  induction line with
  | nil => rfl
  | cons c line ih =>
    obtain ⟨hc, hl⟩ := List.forall_mem_cons.1 h
    rw [List.cons_append, splitLines_cons hc, ih hl]

/-- A line break ends an empty line in front of those behind it, unless a newline belongs to it. -/
lemma splitLines_break {c : Char} {cs : List Char} (h : isLineBreak c = true)
    (apart : ∀ rest, c = '\r' → cs = '\n' :: rest → False) :
    splitLines (c :: cs) = [] :: splitLines cs := by
  rw [splitLines, if_pos h]
  exact apart

/-- No line has a line break in it. -/
lemma isLineBreak_of_mem_splitLines {cs line : List Char} (h : line ∈ splitLines cs) :
    ∀ c ∈ line, isLineBreak c = false := by
  induction cs using splitLines.induct generalizing line with
  | case1 => cases h
  | case2 rest ih =>
    rw [splitLines, List.mem_cons] at h
    rcases h with rfl | h
    · exact List.forall_mem_nil _
    · exact ih h
  | case3 c rest hne hb ih =>
    rw [splitLines_break hb hne, List.mem_cons] at h
    rcases h with rfl | h
    · exact List.forall_mem_nil _
    · exact ih h
  | case4 c rest hne hb he ih =>
    rw [splitLines_cons (by simpa using hb), he, List.mem_singleton] at h
    rw [h, List.forall_mem_singleton]
    simpa using hb
  | case5 c rest hne hb l ls he ih =>
    rw [splitLines_cons (by simpa using hb), he, List.mem_cons] at h
    rw [he] at ih
    rcases h with rfl | h
    · exact List.forall_mem_cons.2 ⟨by simpa using hb, ih List.mem_cons_self⟩
    · exact ih (List.mem_cons_of_mem _ h)

lemma eq_nil_of_splitLines {cs : List Char} (h : splitLines cs = []) : cs = [] := by
  fun_cases splitLines cs with
  | case1 => rfl
  | case2 => rw [splitLines] at h; cases h
  | case3 c rest apart hb =>
    rw [splitLines_break hb apart] at h
    cases h
  | case4 c rest apart hb he =>
    rw [splitLines_cons (by simpa using hb), he] at h
    cases h
  | case5 c rest apart hb line lines he =>
    rw [splitLines_cons (by simpa using hb), he] at h
    cases h

/-- The lines of two texts with a newline between them are those of both. There may be an empty line
between them where the first text ends with a line break already. -/
lemma splitLines_append_newline (cs ds : List Char) : ∃ n,
    splitLines (cs ++ '\n' :: ds) = splitLines cs ++ (List.replicate n [] ++ splitLines ds) := by
  induction cs using splitLines.induct with
  | case1 => exact ⟨1, rfl⟩
  | case2 rest ih =>
    obtain ⟨n, h⟩ := ih
    refine ⟨n, ?_⟩
    rw [List.cons_append, List.cons_append, splitLines, splitLines, h]
    rfl
  | case3 c rest apart hb ih =>
    -- a return at the very end makes one break with the newline
    by_cases fused : c = '\r' ∧ rest = []
    · obtain ⟨rfl, rfl⟩ := fused
      exact ⟨0, rfl⟩
    · obtain ⟨n, h⟩ := ih
      have apart' : ∀ rest', c = '\r' → rest ++ '\n' :: ds = '\n' :: rest' → False := by
        intro rest' hc hr
        cases rest with
        | nil => exact fused ⟨hc, rfl⟩
        | cons d rest =>
          cases hr
          exact apart _ hc rfl
      refine ⟨n, ?_⟩
      rw [List.cons_append, splitLines_break hb apart', h, splitLines_break hb apart]
      rfl
  | case4 c rest apart hb he ih =>
    cases eq_nil_of_splitLines he
    have hc : isLineBreak c = false := by simpa using hb
    refine ⟨0, ?_⟩
    rw [splitLines_line (by simpa using hc), splitLines_cons hc]
    rfl
  | case5 c rest apart hb line lines he ih =>
    obtain ⟨n, h⟩ := ih
    have hc : isLineBreak c = false := by simpa using hb
    refine ⟨n, ?_⟩
    rw [List.cons_append, splitLines_cons hc, h, splitLines_cons hc, he]
    rfl

end Chartwright.Text
