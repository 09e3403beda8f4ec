import Mathlib.Data.List.DropRight
import Chartwright.Network.Ingress
import Chartwright.Proofs.Text.Lines
import Chartwright.Proofs.Text.Split

/-!
# Labels of domains

The label of a domain has the groups of letters and digits of its name, without case, joined by
single dashes. `Grouped` says what the groups of a text are without regard to how they are found:
there is one way to see a text as groups with other characters around them. A label is its own
label, and the case of letters in a name does not show in it.
-/

namespace Chartwright

/-- The groups of letters and digits in a text: what is left between the other characters. -/
def labelRuns (cs : List Char) : List (List Char) :=
  (cs.splitOnP (!isLabelChar ·)).filter (· ≠ [])

/-- The groups of letters and digits in a domain name without case. -/
def labelGroups (name : String) : List (List Char) := labelRuns (Text.caseFold name).toList

/-- A text consists of groups of letters and digits, which are as long as can be, with gaps of other
characters around them. -/
inductive Grouped : List Char → List (List Char) → Prop where
  | gap {gap} :
    (∀ c ∈ gap, isLabelChar c = false) →
    Grouped gap []
  | group {gap run rest runs} :
    (∀ c ∈ gap, isLabelChar c = false) →
    run ≠ [] →
    (∀ c ∈ run, isLabelChar c = true) →
    (∀ c ∈ rest.head?, isLabelChar c = false) →
    Grouped rest runs →
    Grouped (gap ++ run ++ rest) (run :: runs)

/-- Two names differ in the case of letters of ASCII at most: no other character has a lower case of
its own under `Char.toLower`. -/
def Recased (name name' : String) : Prop :=
  List.Forall₂ (fun c d => c.toLower = d.toLower) name.toList name'.toList

/-! ## Groups -/

section

variable {c d : Char} {cs : List Char}

lemma ne_dash_of_isLabelChar (h : isLabelChar c = true) : c ≠ '-' := by
  rintro rfl
  exact absurd h (by decide)

/-- Other characters in front make no group. -/
lemma labelRuns_cons_of_not (h : isLabelChar c = false) : labelRuns (c :: cs) = labelRuns cs := by
  simp [labelRuns, List.splitOnP_cons_eq_if_modifyHead, h]

lemma labelRuns_singleton (h : isLabelChar c = true) : labelRuns [c] = [[c]] := by
  simp [labelRuns, List.splitOnP_cons_eq_if_modifyHead, h]

/-- A letter or digit in front of another character is a group. -/
lemma labelRuns_cons_cons_of_not (hc : isLabelChar c = true) (hd : isLabelChar d = false) :
    labelRuns (c :: d :: cs) = [c] :: labelRuns cs := by
  simp [labelRuns, List.splitOnP_cons_eq_if_modifyHead, hc, hd]

/-- A letter or digit in front of another belongs to the same group. -/
lemma labelRuns_cons_cons (hc : isLabelChar c = true) (hd : isLabelChar d = true)
    (cs : List Char) : ∃ run runs,
      labelRuns (d :: cs) = run :: runs ∧ labelRuns (c :: d :: cs) = (c :: run) :: runs := by
  obtain ⟨piece, pieces, h⟩ := List.exists_cons_of_ne_nil (cs.splitOnP_ne_nil (!isLabelChar ·))
  refine ⟨d :: piece, pieces.filter (· ≠ []), ?_, ?_⟩
  · simp [labelRuns, List.splitOnP_cons_eq_if_modifyHead, hd, h]
  · simp [labelRuns, List.splitOnP_cons_eq_if_modifyHead, hc, hd, h]

/-- A group is not empty, and has letters and digits alone. -/
lemma of_mem_labelRuns {run : List Char} (h : run ∈ labelRuns cs) :
    run ≠ [] ∧ ∀ c ∈ run, isLabelChar c = true := by
  obtain ⟨mem, inhabited⟩ := List.mem_filter.1 h
  refine ⟨of_decide_eq_true inhabited, ?_⟩
  clear h inhabited
  induction cs generalizing run with
  | nil => simp_all
  | cons c cs ih =>
    rw [List.splitOnP_cons_eq_if_modifyHead] at mem
    split at mem
    case isTrue =>
      rcases List.mem_cons.1 mem with rfl | mem
      · exact List.forall_mem_nil _
      · exact ih mem
    case isFalse label =>
      obtain ⟨piece, pieces, h⟩ := List.exists_cons_of_ne_nil (cs.splitOnP_ne_nil (!isLabelChar ·))
      rw [h] at ih mem
      rcases List.mem_cons.1 mem with rfl | mem
      · exact List.forall_mem_cons.2 ⟨by simpa using label, ih List.mem_cons_self⟩
      · exact ih (List.mem_cons_of_mem _ mem)

/-- What starts with a group is not empty. -/
lemma intercalate_ne_nil {sep run : List Char} {runs} (h : run ≠ []) :
    sep.intercalate (run :: runs) ≠ [] := by
  cases runs with
  | nil => simpa using h
  | cons => simp [List.intercalate_cons_cons, h]

/-- Groups are read back from what they are joined to. -/
lemma intercalate_inj {runs runs' : List (List Char)} {sep : Char}
    (h : ∀ run ∈ runs, run ≠ [] ∧ sep ∉ run) (h' : ∀ run ∈ runs', run ≠ [] ∧ sep ∉ run)
    (joined : [sep].intercalate runs = [sep].intercalate runs') : runs = runs' := by
  cases runs with
  | nil =>
    cases runs' with
    | nil => rfl
    | cons run' =>
      exact absurd joined.symm (intercalate_ne_nil (h' run' List.mem_cons_self).1)
  | cons run runs =>
    cases runs' with
    | nil => exact absurd joined (intercalate_ne_nil (h run List.mem_cons_self).1)
    | cons run' runs' =>
      rw [← List.splitOn_intercalate sep (fun r hr => (h r hr).2) (List.cons_ne_nil run runs),
        joined,
        List.splitOn_intercalate sep (fun r hr => (h' r hr).2) (List.cons_ne_nil run' runs')]

/-- The groups on both sides of another character are apart. -/
lemma labelRuns_append_cons (h : isLabelChar c = false) (before behind : List Char) :
    labelRuns (before ++ c :: behind) = labelRuns before ++ labelRuns behind := by
  rw [labelRuns, List.splitOnP_append_cons before behind (by simpa using h), List.filter_append]
  rfl

lemma labelRuns_gap {gap : List Char} (h : ∀ c ∈ gap, isLabelChar c = false) :
    labelRuns (gap ++ cs) = labelRuns cs := by
  induction gap with
  | nil => rfl
  | cons c gap ih =>
    obtain ⟨hc, hg⟩ := List.forall_mem_cons.1 h
    rw [List.cons_append, labelRuns_cons_of_not hc, ih hg]

lemma labelRuns_run {run : List Char} (inhabited : run ≠ [])
    (h : ∀ c ∈ run, isLabelChar c = true) : labelRuns run = [run] := by
  rw [labelRuns, List.splitOnP_eq_singleton fun c hc => by simpa using h c hc]
  simp [inhabited]

/-- Groups that are joined by dashes are the groups of what they are joined to. -/
lemma labelRuns_intercalate {runs : List (List Char)}
    (h : ∀ run ∈ runs, run ≠ [] ∧ ∀ c ∈ run, isLabelChar c = true) :
    labelRuns (['-'].intercalate runs) = runs := by
  induction runs with
  | nil => rfl
  | cons run runs ih =>
    obtain ⟨⟨inhabited, label⟩, hr⟩ := List.forall_mem_cons.1 h
    cases runs with
    | nil => rw [List.intercalate_singleton, labelRuns_run inhabited label]
    | cons next runs =>
      rw [List.intercalate_cons_cons, List.append_assoc, List.singleton_append,
        labelRuns_append_cons (by decide), labelRuns_run inhabited label, ih hr]
      rfl

/-! ## Grouped texts -/

lemma Grouped.cons_gap {runs} (hc : isLabelChar c = false) (h : Grouped cs runs) :
    Grouped (c :: cs) runs := by
  cases h with
  | gap plain => exact .gap (List.forall_mem_cons.2 ⟨hc, plain⟩)
  | group plain inhabited label apart h =>
    exact .group (List.forall_mem_cons.2 ⟨hc, plain⟩) inhabited label apart h

/-- A text can be seen as groups. -/
lemma exists_grouped (cs : List Char) : ∃ runs, Grouped cs runs := by
  induction cs with
  | nil => exact ⟨[], .gap (List.forall_mem_nil _)⟩
  | cons c cs ih =>
    obtain ⟨runs, h⟩ := ih
    cases hc : isLabelChar c with
    | false => exact ⟨runs, h.cons_gap hc⟩
    | true =>
      have only : ∀ d ∈ [c], isLabelChar d = true := List.forall_mem_singleton.2 hc
      -- a group of its own in front of a gap, or else the first of the group that follows
      cases h with
      | gap plain =>
        have apart : ∀ d ∈ cs.head?, isLabelChar d = false := fun d hd =>
          plain d (List.mem_of_mem_head? hd)
        exact ⟨_, .group (List.forall_mem_nil _) (List.cons_ne_nil c []) only apart (.gap plain)⟩
      | @group gap run rest runs plain inhabited label apart h =>
        cases gap with
        | nil =>
          have longer : ∀ d ∈ c :: run, isLabelChar d = true := List.forall_mem_cons.2 ⟨hc, label⟩
          exact ⟨_, .group (List.forall_mem_nil _) (List.cons_ne_nil c run) longer apart h⟩
        | cons d gap =>
          have hd : isLabelChar d = false := plain d List.mem_cons_self
          exact ⟨_, .group (List.forall_mem_nil _) (List.cons_ne_nil c []) only (by simpa using hd)
            (.group plain inhabited label apart h)⟩

lemma Grouped.labelRuns_eq {runs} (h : Grouped cs runs) : labelRuns cs = runs := by
  induction h with
  | gap plain =>
    have none := @labelRuns_gap [] _ plain
    rwa [List.append_nil] at none
  | @group gap run rest runs plain inhabited label apart _ ih =>
    rw [List.append_assoc, labelRuns_gap plain, ← ih]
    cases rest with
    | nil => rw [List.append_nil, labelRuns_run inhabited label]; rfl
    | cons d rest =>
      have hd : isLabelChar d = false := apart d rfl
      rw [labelRuns_append_cons hd, labelRuns_run inhabited label, labelRuns_cons_of_not hd]
      rfl

/-- There is one way to see a text as groups. -/
lemma grouped_iff {runs} : Grouped cs runs ↔ runs = labelRuns cs := by
  constructor
  · intro h
    exact h.labelRuns_eq.symm
  · rintro rfl
    obtain ⟨runs, h⟩ := exists_grouped cs
    exact h.labelRuns_eq.symm ▸ h

/-! ## Labels -/

/-- A letter or digit is kept. -/
lemma dashRuns_cons (h : isLabelChar c = true) : dashRuns (c :: cs) = c :: dashRuns cs := by
  rw [dashRuns, if_pos h]

/-- Another character is a dash, together with those behind it. -/
lemma dashRuns_cons_of_not (h : isLabelChar c = false) :
    dashRuns (c :: cs) = '-' :: (dashRuns cs).dropWhile (· = '-') := by
  induction cs generalizing c with
  | nil => simp [dashRuns, h]
  | cons d cs ih =>
    rw [dashRuns, if_neg (by simp [h])]
    cases hd : isLabelChar d with
    | true =>
      rw [dashRuns_cons hd, List.dropWhile_cons_of_neg (by simpa using ne_dash_of_isLabelChar hd)]
      split
      next e => exact absurd (List.cons.inj e).1 (ne_dash_of_isLabelChar hd)
      next => rfl
    | false =>
      rw [ih hd, List.dropWhile_cons_of_pos (by decide), List.dropWhile_idempotent]
      rfl

/-- What is left of a text without its last characters of a class, if another is in front. -/
lemma rdropWhile_cons (p : Char → Bool) : (c :: cs).rdropWhile p =
    if cs.rdropWhile p = [] ∧ p c = true then [] else c :: cs.rdropWhile p := by
  simp only [List.rdropWhile, List.reverse_cons, List.dropWhile_append, List.reverse_eq_nil_iff,
    List.isEmpty_iff]
  split
  case isTrue h => by_cases hc : p c = true <;> simp [h, hc]
  case isFalse h => simp [h]

/-- The dashes of a text, less those at its ends, stand between its groups. -/
lemma trim_dashRuns (cs : List Char) :
    Text.trimWhile (· = '-') (dashRuns cs) = ['-'].intercalate (labelRuns cs) := by
  unfold Text.trimWhile
  rw [Text.dropEndWhile_eq_rdropWhile]
  -- a letter or digit starts a group of its own unless another one follows
  induction cs with
  | nil => rfl
  | cons c cs ih =>
    cases hc : isLabelChar c with
    | false =>
      rw [labelRuns_cons_of_not hc, ← ih, dashRuns_cons_of_not hc,
        List.dropWhile_cons_of_pos (by decide), List.dropWhile_idempotent]
    | true =>
      rw [dashRuns_cons hc, List.dropWhile_cons_of_neg (by simpa using ne_dash_of_isLabelChar hc),
        rdropWhile_cons, if_neg fun h => ne_dash_of_isLabelChar hc (of_decide_eq_true h.2)]
      cases cs with
      | nil => rw [labelRuns_singleton hc]; rfl
      | cons d cs =>
        cases hd : isLabelChar d with
        | true =>
          obtain ⟨run, runs, hr, hr'⟩ := labelRuns_cons_cons hc hd cs
          rw [dashRuns_cons hd,
            List.dropWhile_cons_of_neg (by simpa using ne_dash_of_isLabelChar hd), hr] at ih
          rw [dashRuns_cons hd, ih, hr']
          cases runs with
          | nil => simp
          | cons => simp [List.intercalate_cons_cons]
        | false =>
          rw [dashRuns_cons_of_not hd, List.dropWhile_cons_of_pos (by decide),
            List.dropWhile_idempotent, labelRuns_cons_of_not hd] at ih
          rw [dashRuns_cons_of_not hd, rdropWhile_cons, ih, labelRuns_cons_cons_of_not hc hd]
          cases hr : labelRuns cs with
          | nil => simp
          | cons run runs =>
            have inhabited : ['-'].intercalate (run :: runs) ≠ [] :=
              intercalate_ne_nil fun e => (of_mem_labelRuns (hr ▸ List.mem_cons_self)).1 e
            simp [inhabited, List.intercalate_cons_cons]

/-- The label of a domain has its groups, joined by dashes. -/
lemma domainLabel_eq (name : String) :
    (domainLabel name).toList = ['-'].intercalate (labelGroups name) := by
  rw [domainLabel, String.toList_ofList, trim_dashRuns, labelGroups]

/-- Domains have one label just where they have the same groups. -/
lemma domainLabel_eq_iff {name name' : String} :
    domainLabel name = domainLabel name' ↔ labelGroups name = labelGroups name' := by
  have plain (name) : ∀ run ∈ labelGroups name, run ≠ [] ∧ '-' ∉ run := fun run h =>
    ⟨(of_mem_labelRuns h).1, fun dash => ne_dash_of_isLabelChar ((of_mem_labelRuns h).2 _ dash) rfl⟩
  rw [← String.toList_inj, domainLabel_eq, domainLabel_eq]
  exact ⟨intercalate_inj (plain name) (plain name'), congrArg _⟩

lemma of_mem_domainLabel {name : String} (h : c ∈ (domainLabel name).toList) :
    isLabelChar c = true ∨ c = '-' := by
  rw [domainLabel_eq] at h
  rcases Text.of_mem_intercalate h with rfl | ⟨run, hr, hc⟩
  · exact .inr rfl
  · exact .inl ((of_mem_labelRuns hr).2 c hc)

/-! ## Case -/

namespace Text

/-- Only capital letters of ASCII have a lower case of their own. -/
lemma toLower_of_not_upper (h : ¬ (65 ≤ c.toNat ∧ c.toNat ≤ 90)) : c.toLower = c := by
  unfold Char.toLower
  exact dif_neg h

lemma toLower_lt_iff : c.toLower.toNat < 128 ↔ c.toNat < 128 := by
  by_cases h : 65 ≤ c.toNat ∧ c.toNat ≤ 90
  · have upper : c.val ≥ 'A'.val ∧ c.val ≤ 'Z'.val := h
    have lower : c.toLower.toNat = (c.toNat + 32) % 2 ^ 32 := by
      unfold Char.toLower
      rw [dif_pos upper]
      exact UInt32.toNat_add _ _
    omega
  · rw [toLower_of_not_upper h]

lemma caseFoldChar_congr (h : c.toLower = d.toLower) : caseFoldChar c = caseFoldChar d := by
  have ascii : c.toNat < 128 ↔ d.toNat < 128 := by rw [← toLower_lt_iff, h, toLower_lt_iff]
  unfold caseFoldChar
  by_cases hc : c.toNat < 128
  · rw [if_pos hc, if_pos (ascii.1 hc), h]
  · have hd := mt ascii.2 hc
    rw [toLower_of_not_upper (by omega), toLower_of_not_upper (by omega)] at h
    rw [h]

/-- Names that differ in the case of letters of ASCII at most have one case folding. -/
lemma caseFold_congr {name name' : String} (h : Recased name name') :
    caseFold name = caseFold name' := by
  unfold Recased at h
  unfold caseFold
  generalize name.toList = cs at h
  generalize name'.toList = ds at h
  congr 1
  induction h with
  | nil => rfl
  | cons same _ ih => rw [List.flatMap_cons, List.flatMap_cons, caseFoldChar_congr same, ih]

/-- The characters of labels have no case. -/
lemma caseFoldChar_label (h : isLabelChar c = true ∨ c = '-') : caseFoldChar c = [c] := by
  have bounds : c.toNat < 128 ∧ ¬ (65 ≤ c.toNat ∧ c.toNat ≤ 90) := by
    rcases h with h | rfl
    · simp only [isLabelChar, isLower, isDigit, Bool.or_eq_true, Bool.and_eq_true,
        decide_eq_true_eq] at h
      rcases h with ⟨hl, hu⟩ | ⟨hl, hu⟩
      · have range : 97 ≤ c.toNat ∧ c.toNat ≤ 122 := ⟨hl, hu⟩
        omega
      · have range : 48 ≤ c.toNat ∧ c.toNat ≤ 57 := ⟨hl, hu⟩
        omega
    · decide
  rw [caseFoldChar, if_pos bounds.1, toLower_of_not_upper bounds.2]

end Text

lemma caseFold_domainLabel (name : String) :
    Text.caseFold (domainLabel name) = domainLabel name := by
  have plain : (domainLabel name).toList.flatMap Text.caseFoldChar = (domainLabel name).toList := by
    rw [List.flatMap_congr fun c hc => Text.caseFoldChar_label (of_mem_domainLabel hc)]
    exact List.flatMap_singleton' _
  rw [Text.caseFold, plain, String.ofList_toList]

lemma labelGroups_domainLabel (name : String) :
    labelGroups (domainLabel name) = labelGroups name := by
  rw [labelGroups, caseFold_domainLabel, domainLabel_eq]
  exact labelRuns_intercalate fun run h => of_mem_labelRuns h

end

/-- The label of a domain has the groups of letters and digits of its name, without case, joined by
single dashes. It is its own label, and the case of letters of ASCII in the name does not show in
it. -/
theorem domainLabel_joins (name : String) :
    (∃ groups, (∀ runs, Grouped (Text.caseFold name).toList runs ↔ runs = groups) ∧
      domainLabel name = "-".intercalate (groups.map String.ofList) ∧
      ∀ group ∈ groups, group ≠ [] ∧ ∀ c ∈ group, isLabelChar c = true) ∧
    domainLabel (domainLabel name) = domainLabel name ∧
    ∀ name', Recased name name' → domainLabel name' = domainLabel name := by
  refine ⟨⟨labelGroups name, fun runs => grouped_iff, ?_, fun group h => of_mem_labelRuns h⟩,
    domainLabel_eq_iff.2 (labelGroups_domainLabel name), fun name' recased => ?_⟩
  · rw [← String.toList_inj, domainLabel_eq, String.toList_intercalate, List.map_map]
    simp
  · rw [domainLabel_eq_iff, labelGroups, labelGroups, Text.caseFold_congr recased]

/-- A name of a shop and one in which the case of all letters is changed have one label. -/
theorem shop_label : Recased "Shop..Example.com" "sHOP..eXAMPLE.COM" ∧
    domainLabel "sHOP..eXAMPLE.COM" = domainLabel "Shop..Example.com" ∧
    domainLabel "Shop..Example.com" = "shop-example-com" := by
  have recased : Recased "Shop..Example.com" "sHOP..eXAMPLE.COM" := by
    unfold Recased
    decide +kernel
  exact ⟨recased, (domainLabel_joins _).2.2 _ recased, by decide +kernel⟩

end Chartwright
