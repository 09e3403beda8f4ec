import Mathlib.Computability.Language
import Mathlib.Data.List.TakeWhile
import Chartwright.Proofs.Chart.Inversion
import Chartwright.Proofs.Metadata.Merge
import Chartwright.Proofs.Rollout.Run

/-!
# Form of keys

Which texts are accepted as keys of labels and annotations. `pattern` is the pattern of keys as a
language, put together from classes of characters; `Form` is their grammar, in which the name begins
behind the last slash. A key is accepted where it has this form, and as well where it has it but for
a newline at its end.
-/

namespace Chartwright

namespace MetadataKey

/-! ## The grammar -/

/-- A letter or digit, and at most 63 characters of names. -/
inductive Name : List Char → Prop where
  | mk {c rest} :
    isAlphanumeric c = true →
    rest.length ≤ 63 →
    (∀ d ∈ rest, isNameChar d = true) →
    Name (c :: rest)

/-- A letter, and at most 252 characters on the same line. -/
inductive Group : List Char → Prop where
  | mk {c rest} :
    isLetter c = true →
    rest.length ≤ 252 →
    '\n' ∉ rest →
    Group (c :: rest)

/-- A name, or a group and a name around the last slash. -/
inductive Form : List Char → Prop where
  | name {name} :
    Name name →
    Form name
  | grouped {group name} :
    Group group →
    '/' ∉ name →
    Name name →
    Form (group ++ '/' :: name)

/-- A text has the form of a key, but for a newline that may stand at its end. -/
def Tolerated (text : List Char) : Prop :=
  ∃ form, Form form ∧ (text = form ∨ text = form ++ ['\n'])

/-! ## The pattern -/

/-- One character of a class. -/
def one (test : Char → Bool) : Language Char := {text | ∃ c, test c = true ∧ text = [c]}

/-- A language repeated a number of times at most. -/
def upTo (n : Nat) (l : Language Char) : Language Char := {text | ∃ i ≤ n, text ∈ l ^ i}

/-- A language that may be left out. -/
def optional (l : Language Char) : Language Char := 1 + l

/-- Groups before a slash. -/
def groupPattern : Language Char := one isLetter * upTo 252 (one (· ≠ '\n'))

/-- Names. -/
def namePattern : Language Char := one isAlphanumeric * upTo 63 (one isNameChar)

/-- The pattern of keys. Its end matches in front of a last newline as well. -/
def pattern : Language Char :=
  optional (groupPattern * one (· = '/')) * namePattern * optional (one (· = '\n'))

variable {test : Char → Bool} {cs text group name : List Char} {n : Nat}

lemma mem_one_pow_iff : text ∈ one test ^ n ↔ text.length = n ∧ ∀ c ∈ text, test c = true := by
  induction n generalizing text with
  | zero =>
    rw [pow_zero, Language.mem_one, List.length_eq_zero_iff]
    constructor
    · rintro rfl
      exact ⟨rfl, fun _ h => absurd h List.not_mem_nil⟩
    · exact fun h => h.1
  | succ n ih =>
    rw [pow_succ', Language.mem_mul]
    constructor
    · rintro ⟨_, ⟨c, hc, rfl⟩, rest, hr, rfl⟩
      obtain ⟨hl, ha⟩ := ih.1 hr
      exact ⟨by simp [hl], List.forall_mem_cons.2 ⟨hc, ha⟩⟩
    · rintro ⟨hl, ha⟩
      cases text with
      | nil => cases hl
      | cons c rest =>
        obtain ⟨hc, ha⟩ := List.forall_mem_cons.1 ha
        exact ⟨[c], ⟨c, hc, rfl⟩, rest, ih.2 ⟨Nat.succ.inj hl, ha⟩, rfl⟩

lemma mem_upTo_iff :
    text ∈ upTo n (one test) ↔ text.length ≤ n ∧ ∀ c ∈ text, test c = true := by
  constructor
  · rintro ⟨i, hi, h⟩
    obtain ⟨rfl, ha⟩ := mem_one_pow_iff.1 h
    exact ⟨hi, ha⟩
  · rintro ⟨hl, ha⟩
    exact ⟨_, hl, mem_one_pow_iff.2 ⟨rfl, ha⟩⟩

lemma mem_optional_iff {l : Language Char} : text ∈ optional l ↔ text = [] ∨ text ∈ l := by
  rw [optional, Language.mem_add, Language.mem_one]

lemma mem_one_mul_upTo_iff {first rest : Char → Bool} :
    text ∈ one first * upTo n (one rest) ↔
      ∃ c cs, text = c :: cs ∧ first c = true ∧ cs.length ≤ n ∧ ∀ d ∈ cs, rest d = true := by
  rw [Language.mem_mul]
  constructor
  · rintro ⟨_, ⟨c, hc, rfl⟩, cs, hcs, rfl⟩
    exact ⟨c, cs, rfl, hc, mem_upTo_iff.1 hcs⟩
  · rintro ⟨c, cs, rfl, hc, hcs⟩
    exact ⟨[c], ⟨c, hc, rfl⟩, cs, mem_upTo_iff.2 hcs, rfl⟩

lemma mem_namePattern_iff : text ∈ namePattern ↔ Name text := by
  rw [namePattern, mem_one_mul_upTo_iff]
  constructor
  · rintro ⟨c, cs, rfl, hc, hl, ha⟩
    exact .mk hc hl ha
  · rintro ⟨hc, hl, ha⟩
    exact ⟨_, _, rfl, hc, hl, ha⟩

lemma mem_groupPattern_iff : text ∈ groupPattern ↔ Group text := by
  rw [groupPattern, mem_one_mul_upTo_iff]
  constructor
  · rintro ⟨c, cs, rfl, hc, hl, ha⟩
    exact .mk hc hl fun h => by simpa using ha _ h
  · rintro ⟨hc, hl, hn⟩
    refine ⟨_, _, rfl, hc, hl, fun d hd => ?_⟩
    simp only [ne_eq, decide_eq_true_eq]
    rintro rfl
    exact hn hd

/-! ## Slashes and newlines -/

lemma ne_of_isNameChar {c d : Char} (h : isNameChar c = true) (hd : isNameChar d = false) :
    c ≠ d := by
  rintro rfl
  rw [h] at hd
  cases hd

lemma isNameChar_of_isAlphanumeric {c : Char} (h : isAlphanumeric c = true) :
    isNameChar c = true := by
  simp [isNameChar, h]

/-- Names hold characters of names only. -/
lemma Name.isNameChar (h : Name cs) : ∀ c ∈ cs, isNameChar c = true := by
  obtain ⟨hc, -, ha⟩ := h
  exact List.forall_mem_cons.2 ⟨isNameChar_of_isAlphanumeric hc, ha⟩

lemma Name.slash_not_mem (h : Name cs) : '/' ∉ cs :=
  fun hm => ne_of_isNameChar (h.isNameChar _ hm) (by decide) rfl

lemma Name.ne_nil (h : Name cs) : cs ≠ [] := by
  cases h
  exact List.cons_ne_nil _ _

/-- A key ends with a character of names. -/
lemma Form.getLast?_ne (h : Form cs) : cs.getLast? ≠ some '\n' := by
  have name {cs : List Char} (h : Name cs) : cs.getLast? ≠ some '\n' := by
    intro hl
    exact ne_of_isNameChar (h.isNameChar _ (List.mem_of_getLast? hl)) (by decide) rfl
  cases h with
  | name h => exact name h
  | @grouped group cs _ _ h =>
    rw [List.getLast?_append, List.getLast?_cons_of_ne_nil h.ne_nil,
      List.getLast?_eq_some_getLast h.ne_nil, Option.some_or,
      ← List.getLast?_eq_some_getLast h.ne_nil]
    exact name h

lemma tolerated_iff_form (h : cs.getLast? ≠ some '\n') : Tolerated cs ↔ Form cs := by
  constructor
  · rintro ⟨form, hf, rfl | rfl⟩
    · exact hf
    · exact absurd List.getLast?_concat h
  · exact fun hf => ⟨cs, hf, .inl rfl⟩

/-- Without its last newline a text is a key where it is tolerated as one. -/
lemma form_dropFinalNewline_iff : Form (dropFinalNewline cs) ↔ Tolerated cs := by
  unfold dropFinalNewline
  constructor
  · intro h
    split at h
    case isTrue hl =>
      refine ⟨_, h, .inr ?_⟩
      exact (List.dropLast_append_getLast? _ hl).symm
    case isFalse => exact ⟨_, h, .inl rfl⟩
  · rintro ⟨form, h, rfl | rfl⟩
    · rwa [if_neg h.getLast?_ne]
    · simpa using h

lemma splitLastSlash_of_not_mem (h : '/' ∉ cs) : splitLastSlash cs = (none, cs) := by
  have hw : cs.reverse.takeWhile (· ≠ '/') = cs.reverse := by
    rw [List.takeWhile_eq_self_iff]
    intro c hc
    simp only [ne_eq, decide_eq_true_eq]
    rintro rfl
    exact h (List.mem_reverse.1 hc)
  unfold splitLastSlash
  simp only [hw, List.reverse_reverse, if_true]

lemma splitLastSlash_append (h : '/' ∉ name) :
    splitLastSlash (group ++ '/' :: name) = (some group, name) := by
  have hw : (group ++ '/' :: name).reverse.takeWhile (· ≠ '/') = name.reverse := by
    rw [List.reverse_append, List.reverse_cons, List.append_assoc,
      List.takeWhile_append_of_pos]
    · simp
    · intro c hc
      simp only [ne_eq, decide_eq_true_eq]
      rintro rfl
      exact h (List.mem_reverse.1 hc)
  unfold splitLastSlash
  simp only [hw, List.reverse_reverse]
  have hl : (group ++ '/' :: name).length - name.length - 1 = group.length := by
    rw [List.length_append, List.length_cons]
    omega
  rw [if_neg (by simp; omega), hl, List.take_left]

/-- A text is without a slash, or has a last one. -/
lemma exists_last_slash (h : '/' ∈ cs) : ∃ group name, cs = group ++ '/' :: name ∧ '/' ∉ name := by
  obtain ⟨after, before, e, hn⟩ := List.eq_append_cons_of_mem (List.mem_reverse.2 h)
  refine ⟨before.reverse, after.reverse, ?_, fun hm => hn (List.mem_reverse.1 hm)⟩
  rw [List.reverse_eq_iff.1 e]
  simp

/-! ## Acceptance -/

lemma isName_iff : isName cs = true ↔ Name cs := by
  constructor
  · intro h
    cases cs with
    | nil => cases h
    | cons c rest =>
      simp only [isName, Bool.and_eq_true, decide_eq_true_eq, List.all_eq_true] at h
      exact .mk h.1.1 h.1.2 h.2
  · rintro ⟨hc, hl, ha⟩
    simp only [isName, Bool.and_eq_true, decide_eq_true_eq, List.all_eq_true]
    exact ⟨⟨hc, hl⟩, ha⟩

lemma isGroup_iff : isGroup cs = true ↔ Group cs := by
  have lines (rest : List Char) : rest.all (· ≠ '\n') = true ↔ '\n' ∉ rest := by
    simp only [List.all_eq_true, ne_eq, decide_eq_true_eq]
    constructor
    · exact fun h hm => h _ hm rfl
    · rintro h c hc rfl
      exact h hc
  constructor
  · intro h
    cases cs with
    | nil => cases h
    | cons c rest =>
      simp only [isGroup, Bool.and_eq_true, decide_eq_true_eq, lines] at h
      exact .mk h.1.1 h.1.2 h.2
  · rintro ⟨hc, hl, hn⟩
    simp only [isGroup, Bool.and_eq_true, decide_eq_true_eq, lines]
    exact ⟨⟨hc, hl⟩, hn⟩

/-- A text around its last slash is a key where both parts are as they should be. -/
lemma form_append_iff (h : '/' ∉ name) :
    Form (group ++ '/' :: name) ↔ Group group ∧ Name name := by
  constructor
  · intro hf
    generalize e : group ++ '/' :: name = cs at hf
    cases hf with
    | name hn =>
      subst e
      exact absurd (List.mem_append_right _ List.mem_cons_self) hn.slash_not_mem
    | grouped hg hs hn =>
      -- there is one last slash only
      have hsplit : splitLastSlash (group ++ '/' :: name) = (some group, name) :=
        splitLastSlash_append h
      rw [e, splitLastSlash_append hs] at hsplit
      cases hsplit
      exact ⟨hg, hn⟩
  · exact fun ⟨hg, hn⟩ => .grouped hg h hn

/-- A key is accepted where it is tolerated as one. -/
lemma isValid_iff_tolerated (key : String) : isValid key = true ↔ Tolerated key.toList := by
  rw [← form_dropFinalNewline_iff]
  unfold isValid
  generalize dropFinalNewline key.toList = cs
  by_cases hs : '/' ∈ cs
  · obtain ⟨group, name, rfl, hn⟩ := exists_last_slash hs
    rw [splitLastSlash_append hn, form_append_iff hn]
    simp only [Bool.and_eq_true, isGroup_iff, isName_iff]
  · rw [splitLastSlash_of_not_mem hs]
    simp only [isName_iff]
    constructor
    · exact .name
    · intro h
      cases h with
      | name h => exact h
      | grouped => exact absurd (List.mem_append_right _ List.mem_cons_self) hs

/-- The pattern matches what is tolerated as a key. -/
lemma mem_pattern_iff : text ∈ pattern ↔ Tolerated text := by
  have grouped (cs : List Char) :
      cs ∈ optional (groupPattern * one (· = '/')) * namePattern ↔ Form cs := by
    rw [Language.mem_mul]
    constructor
    · rintro ⟨front, hf, name, hn, rfl⟩
      rw [mem_namePattern_iff] at hn
      rcases mem_optional_iff.1 hf with rfl | hf
      · exact .name hn
      · obtain ⟨group, hg, slash, ⟨c, hc, rfl⟩, rfl⟩ := Language.mem_mul.1 hf
        rw [List.append_assoc, of_decide_eq_true hc]
        exact .grouped (mem_groupPattern_iff.1 hg) hn.slash_not_mem hn
    · intro h
      cases h with
      | name hn => exact ⟨[], mem_optional_iff.2 (.inl rfl), cs, mem_namePattern_iff.2 hn, rfl⟩
      | @grouped group name hg _ hn =>
        refine ⟨group ++ ['/'], mem_optional_iff.2 (.inr ?_), name, mem_namePattern_iff.2 hn, ?_⟩
        · exact Language.mem_mul.2 ⟨group, mem_groupPattern_iff.2 hg, ['/'], ⟨_, rfl, rfl⟩, rfl⟩
        · rw [List.append_assoc, List.singleton_append]
  rw [pattern, Language.mem_mul]
  constructor
  · rintro ⟨form, hf, last, hl, rfl⟩
    refine ⟨form, (grouped form).1 hf, ?_⟩
    rcases mem_optional_iff.1 hl with rfl | ⟨c, hc, rfl⟩
    · exact .inl (List.append_nil form)
    · rw [of_decide_eq_true hc]
      exact .inr rfl
  · rintro ⟨form, hf, rfl | rfl⟩
    · exact ⟨text, (grouped text).2 hf, [], mem_optional_iff.2 (.inl rfl), List.append_nil text⟩
    · exact ⟨form, (grouped form).2 hf, ['\n'], mem_optional_iff.2 (.inr ⟨_, rfl, rfl⟩), rfl⟩

end MetadataKey

/-! ## Charts -/

/-- The labels and the annotations of all processes of a chart. -/
def Chart.buckets (chart : Chart) : List Buckets :=
  chart.deployments.flatMap fun d => d.processes.flatMap fun p => [p.labels, p.annotations]

/-- The buckets of a chart are merged from the labels or from the annotations of the application. -/
lemma exists_rules_of_compile {input : CompileInput} {chart : Chart} {buckets : Buckets}
    (compiled : compile input = .ok chart) (mem : buckets ∈ chart.buckets) :
    ∃ rules version process, (rules = input.app.labels ∨ rules = input.app.annotations) ∧
      buckets = MetadataRule.mergeAll rules version process := by
  obtain ⟨ingress, deployments, -, hd, rfl⟩ := compile_inv compiled
  obtain ⟨c, hc, mem⟩ := List.mem_flatMap.1 mem
  obtain ⟨q, hq, mem⟩ := List.mem_flatMap.1 mem
  obtain ⟨d, -, hd⟩ := Outcome.exists_of_forall₂ hd.flip hc
  obtain ⟨procfile, processes, -, hp, rfl⟩ := DeploymentSpec.compile_inv hd
  obtain ⟨spec, -, hs⟩ := Outcome.exists_of_forall₂ hp.flip hq
  obtain ⟨probes, -, -, rfl⟩ := ProcessSpec.resolve_inv hs
  rcases List.mem_pair.1 mem with rfl | rfl
  · exact ⟨_, d.version, spec.name, .inl rfl, rfl⟩
  · exact ⟨_, d.version, spec.name, .inr rfl, rfl⟩

/-- The keys in the buckets of a chart are accepted. -/
lemma isValid_of_mem_buckets {input : CompileInput} {chart : Chart} {buckets : Buckets}
    {kind : TargetKind} {key : String} (compiled : compile input = .ok chart)
    (mem : buckets ∈ chart.buckets) (hk : key ∈ Dict.keys (buckets.get kind)) :
    MetadataKey.isValid key = true := by
  obtain ⟨rules, version, process, hr, rfl⟩ := exists_rules_of_compile compiled mem
  rw [MetadataRule.get_mergeAll, Dict.mem_keys_ofList, MetadataRule.map_fst_assignments,
    MetadataRule.mem_mentions_iff] at hk
  obtain ⟨rule, hm, -, hk⟩ := hk
  apply (compile_ok compiled).keys key
  refine List.mem_flatMap.2 ⟨rule, ?_, hk⟩
  rw [List.mem_append]
  rcases hr with rfl | rfl
  · exact .inl hm
  · exact .inr hm

namespace MetadataKey

/-- What is accepted as a key is what the pattern of keys matches: all texts that have the form of a
key, but for a newline that may stand at their end. A text that does not end so is accepted exactly
where it has the form. All keys in the buckets of a chart are accepted. -/
theorem accepted_up_to_newline (key : String) (input : CompileInput) (context : LogContext) :
    (isValid key = true ↔ key.toList ∈ pattern) ∧
      (isValid key = true ↔ Tolerated key.toList) ∧
      (key.toList.getLast? ≠ some '\n' → (isValid key = true ↔ Form key.toList)) ∧
      ∀ chart, (compileLogged input context).1 = .ok chart →
        ∀ buckets ∈ chart.buckets, ∀ kind, ∀ k ∈ Dict.keys (buckets.get kind),
          Tolerated k.toList := by
  refine ⟨?_, isValid_iff_tolerated key, fun ends => ?_, ?_⟩
  · rw [mem_pattern_iff, isValid_iff_tolerated]
  · rw [isValid_iff_tolerated, tolerated_iff_form ends]
  · intro chart compiled buckets mem kind k hk
    rw [compileLogged_value] at compiled
    exact (isValid_iff_tolerated k).1 (isValid_of_mem_buckets compiled mem hk)

/-- The shop, with a newline at the end of a key for the labels of its pods. -/
def newlineShop : CompileInput where
  app := { Canary.shop with labels := [⟨.of .pod, [("team\n", "front")], 0, ""⟩] }
  environment := ⟨"shops", "", ⟨"", "", .nginx, ""⟩, none⟩
  templates := []
  overrides := []
  settings := .default

/-- All keys in the buckets of a compiled shop are keys but for a newline at their end. -/
theorem newlineShop_tolerated : ∃ chart, (compileLogged newlineShop []).1 = .ok chart ∧
    ∀ buckets ∈ chart.buckets, ∀ kind, ∀ key ∈ Dict.keys (buckets.get kind),
      Tolerated key.toList := by
  obtain ⟨chart, compiled⟩ := Outcome.exists_ok_of_toBool
    (show (compileLogged newlineShop []).1.toBool = true by decide +kernel)
  exact ⟨chart, compiled, (accepted_up_to_newline "team\n" newlineShop []).2.2.2 chart compiled⟩

/-- A text with a newline at its end has not the form of a key, and is accepted as one: the pods of a
compiled shop are labelled with it. -/
theorem newline_is_accepted :
    isValid "team\n" = true ∧ ¬ Form "team\n".toList ∧
      ∃ chart, (compileLogged newlineShop []).1 = .ok chart ∧
        ∃ buckets ∈ chart.buckets, "team\n" ∈ Dict.keys (buckets.get .pod) := by
  refine ⟨by decide, fun form => form.getLast?_ne (by decide), ?_⟩
  obtain ⟨chart, compiled, labelled⟩ := Outcome.map_ok_iff.1 (show
    (compileLogged newlineShop []).1.map
        (fun chart => chart.buckets.any fun b => "team\n" ∈ Dict.keys (b.get .pod)) =
      .ok true by decide +kernel)
  obtain ⟨buckets, mem, hk⟩ := List.any_eq_true.1 labelled
  exact ⟨chart, compiled, buckets, mem, of_decide_eq_true hk⟩

end MetadataKey

end Chartwright
