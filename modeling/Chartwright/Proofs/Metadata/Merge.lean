import Chartwright.Proofs.Chart.Refusal
import Chartwright.Proofs.Dict

/-!
# Merging of rules

What the buckets of some rules hold: under each key the value of the last rule that governs it, and
the keys in the order in which they are first mentioned. A bucket is the dictionary of all that its
rules set, one after the other.
-/

namespace Chartwright

/-- The kind that a target names is the one that it is the target of. -/
lemma RuleTarget.kind?_eq_some_iff {t : RuleTarget} {kind : TargetKind} :
    t.kind? = some kind ↔ t = .of kind := by
  constructor
  · intro h
    simpa using List.find?_some h
  · rintro rfl
    cases kind <;> rfl

/-- Setting values in the bucket of one kind leaves the others as they are. -/
lemma Buckets.get_merge (b : Buckets) (kind kind' : TargetKind) (values : Dict String String) :
    (b.merge kind values).get kind' =
      if kind = kind' then Dict.merge (b.get kind') values else b.get kind' := by
  cases kind <;> cases kind' <;> rfl

namespace MetadataRule

/-- A rule is about the objects of a kind of a process in the deployment of a version. -/
structure Governs (rule : MetadataRule) (kind : TargetKind) (version : Int) (process : String) :
    Prop where
  target : rule.target = .of kind
  version : rule.version = 0 ∨ rule.version = version
  process : rule.process = "" ∨ rule.process = process

/-- A rule has a key that is none. -/
def Malformed (rules : List MetadataRule) : Prop :=
  ∃ rule ∈ rules, ∃ key ∈ Dict.keys rule.apply, MetadataKey.isValid key = false

/-- A rule that governs a kind sets a key to a value, and no such rule behind it mentions the key. -/
def LastSets (rules : List MetadataRule) (kind : TargetKind) (version : Int) (process : String)
    (key value : String) : Prop :=
  ∃ before rule after, rules = before ++ rule :: after ∧ rule.Governs kind version process ∧
    Dict.get? rule.apply key = some value ∧
    ∀ later ∈ after, later.Governs kind version process → key ∉ Dict.keys later.apply

instance (rule : MetadataRule) (kind : TargetKind) (version : Int) (process : String) :
    Decidable (rule.Governs kind version process) :=
  decidable_of_iff (rule.target = .of kind ∧ (rule.version = 0 ∨ rule.version = version) ∧
      (rule.process = "" ∨ rule.process = process))
    ⟨fun h => ⟨h.1, h.2.1, h.2.2⟩, fun h => ⟨h.target, h.version, h.process⟩⟩

/-- The keys that are set for a kind, as often as they are mentioned. -/
def mentions (rules : List MetadataRule) (kind : TargetKind) (version : Int) (process : String) :
    List String :=
  (rules.filter (·.Governs kind version process)).flatMap fun rule => Dict.keys rule.apply

/-- What the buckets of some rules hold. -/
structure Merged (rules : List MetadataRule) (version : Int) (process : String)
    (buckets : Buckets) : Prop where
  value : ∀ kind key value, Dict.get? (buckets.get kind) key = some value ↔
    LastSets rules kind version process key value
  keys : ∀ kind key, key ∈ Dict.keys (buckets.get kind) ↔
    ∃ rule ∈ rules, rule.Governs kind version process ∧ key ∈ Dict.keys rule.apply
  distinct : ∀ kind, (Dict.keys (buckets.get kind)).Nodup
  order : ∀ kind, (Dict.keys (buckets.get kind)).Pairwise fun key later =>
    (mentions rules kind version process).idxOf key <
      (mentions rules kind version process).idxOf later

/-- Two neighbours among some rules have changed places, and share no key on the same kind. -/
def Swapped (rules rules' : List MetadataRule) : Prop :=
  ∃ before rule next after, rules = before ++ rule :: next :: after ∧
    rules' = before ++ next :: rule :: after ∧
    ∀ kind, rule.target = .of kind → next.target = .of kind →
      ∀ key ∈ Dict.keys rule.apply, key ∉ Dict.keys next.apply

variable {rules rules' : List MetadataRule} {rule : MetadataRule} {kind : TargetKind}
  {version : Int} {process key value : String}

lemma covers_iff : rule.covers version process = true ↔
    (rule.version = 0 ∨ rule.version = version) ∧ (rule.process = "" ∨ rule.process = process) := by
  simp [covers]

lemma get_mergeInto (b : Buckets) : (mergeInto version process b rule).get kind =
    if rule.Governs kind version process then Dict.merge (b.get kind) rule.apply
    else b.get kind := by
  unfold mergeInto
  cases hk : rule.target.kind? with
  | none =>
    have hg : ¬ rule.Governs kind version process := fun g => by
      rw [RuleTarget.kind?_eq_some_iff.2 g.target] at hk
      cases hk
    exact (if_neg hg).symm
  | some kind' =>
    have ht := RuleTarget.kind?_eq_some_iff.1 hk
    have hg : rule.Governs kind version process ↔
        kind' = kind ∧ rule.covers version process = true := by
      rw [covers_iff]
      constructor
      · intro g
        have hs := RuleTarget.kind?_eq_some_iff.2 g.target
        rw [hk] at hs
        exact ⟨Option.some_inj.1 hs, g.version, g.process⟩
      · rintro ⟨rfl, hv, hp⟩
        exact ⟨ht, hv, hp⟩
    by_cases hc : rule.covers version process = true
    · simp only [hc, if_true, Buckets.get_merge, hg, and_true]
    · simp [hc, hg]

/-- A bucket is the dictionary of all that is set by the rules that govern it. -/
lemma get_mergeAll : (mergeAll rules version process).get kind =
    Dict.ofList ((rules.filter (·.Governs kind version process)).flatMap (·.apply)) := by
  induction rules using List.reverseRecOn with
  | nil => cases kind <;> rfl
  | append_singleton rules rule ih =>
    have hm : mergeAll (rules ++ [rule]) version process =
        mergeInto version process (mergeAll rules version process) rule := List.foldl_append
    rw [hm, get_mergeInto, ih, List.filter_append, List.flatMap_append, Dict.ofList_append]
    split
    case isTrue h => simp [h]
    case isFalse h =>
      simp only [List.filter_singleton, h, decide_false]
      rfl

/-! ## Values -/

/-- What a rule sets a key to for a kind, if it governs it and mentions the key. -/
def value? (rule : MetadataRule) (kind : TargetKind) (version : Int) (process key : String) :
    Option String :=
  if rule.Governs kind version process then Dict.get? rule.apply key else none

lemma value?_eq_some_iff : rule.value? kind version process key = some value ↔
    rule.Governs kind version process ∧ Dict.get? rule.apply key = some value := by
  unfold value?
  split
  case isTrue h => simp [h]
  case isFalse h => simp [h]

lemma value?_eq_none_iff : rule.value? kind version process key = none ↔
    (rule.Governs kind version process → key ∉ Dict.keys rule.apply) := by
  unfold value?
  split
  case isTrue h => simp [h, Dict.get?_eq_none_iff]
  case isFalse h => simp [h]

/-- The last of the rules that set a key decides. -/
lemma get?_mergeAll (dicts : ∀ rule ∈ rules, (Dict.keys rule.apply).Nodup) :
    Dict.get? ((mergeAll rules version process).get kind) key =
      rules.reverse.findSome? (·.value? kind version process key) := by
  induction rules using List.reverseRecOn with
  | nil => cases kind <;> rfl
  | append_singleton rules rule ih =>
    obtain ⟨before, last⟩ := List.forall_mem_append.1 dicts
    have dict : (Dict.keys rule.apply).Nodup := last rule (List.mem_singleton_self rule)
    have hm : mergeAll (rules ++ [rule]) version process =
        mergeInto version process (mergeAll rules version process) rule := List.foldl_append
    rw [hm, get_mergeInto, List.reverse_append, List.reverse_singleton, List.singleton_append,
      List.findSome?_cons, ← ih before]
    cases hv : rule.value? kind version process key with
    | some value =>
      obtain ⟨hg, hk⟩ := value?_eq_some_iff.1 hv
      rw [if_pos hg, Dict.get?_merge dict, hk]
      rfl
    | none =>
      split
      case isTrue hg =>
        have hk := Dict.get?_eq_none_iff.2 (value?_eq_none_iff.1 hv hg)
        rw [Dict.get?_merge dict, hk]
        rfl
      case isFalse => rfl

/-- A key is set last by the first rule that sets it, seen from the end. -/
lemma lastSets_iff : LastSets rules kind version process key value ↔
    rules.reverse.findSome? (·.value? kind version process key) = some value := by
  rw [List.findSome?_eq_some_iff]
  constructor
  · rintro ⟨before, rule, after, rfl, hg, hk, hl⟩
    refine ⟨after.reverse, rule, before.reverse, by simp, value?_eq_some_iff.2 ⟨hg, hk⟩, ?_⟩
    intro later hm
    exact value?_eq_none_iff.2 (hl later (List.mem_reverse.1 hm))
  · rintro ⟨after, rule, before, e, hv, hl⟩
    obtain ⟨hg, hk⟩ := value?_eq_some_iff.1 hv
    refine ⟨before.reverse, rule, after.reverse, ?_, hg, hk, fun later hm => ?_⟩
    · rw [List.reverse_eq_iff.1 e]
      simp
    · exact value?_eq_none_iff.1 (hl later (List.mem_reverse.1 hm))

/-- Rules that share no key on the same kind do not both set a key for a kind. -/
lemma value?_apart {next : MetadataRule}
    (apart : ∀ kind, rule.target = .of kind → next.target = .of kind →
      ∀ key ∈ Dict.keys rule.apply, key ∉ Dict.keys next.apply) :
    rule.value? kind version process key = none ∨ next.value? kind version process key = none := by
  by_contra h
  rw [not_or] at h
  simp only [value?_eq_none_iff, not_forall, not_not] at h
  obtain ⟨⟨hr, mr⟩, ⟨hn, mn⟩⟩ := h
  exact apart kind hr.target hn.target key mr mn

/-- Neighbours that change places leave the value of every key as it is. -/
lemma Swapped.get?_mergeAll (dicts : ∀ rule ∈ rules, (Dict.keys rule.apply).Nodup)
    (h : Swapped rules rules') :
    Dict.get? ((mergeAll rules' version process).get kind) key =
      Dict.get? ((mergeAll rules version process).get kind) key := by
  obtain ⟨before, rule, next, after, rfl, rfl, apart⟩ := h
  have dicts' : ∀ r ∈ before ++ next :: rule :: after, (Dict.keys r.apply).Nodup := by
    intro r hr
    apply dicts r
    simpa [or_left_comm] using hr
  rw [MetadataRule.get?_mergeAll dicts, MetadataRule.get?_mergeAll dicts']
  simp only [List.reverse_append, List.reverse_cons, List.append_assoc, List.findSome?_append,
    List.findSome?_singleton]
  -- one of the two does not set the key
  rcases value?_apart apart with hn | hn
  · rw [hn, Option.none_or, Option.none_or]
  · rw [hn, Option.none_or, Option.none_or]

/-! ## Keys -/

lemma map_fst_assignments : ((rules.filter (·.Governs kind version process)).flatMap
    (·.apply)).map (·.1) = mentions rules kind version process :=
  List.map_flatMap ..

lemma mem_mentions_iff : key ∈ mentions rules kind version process ↔
    ∃ rule ∈ rules, rule.Governs kind version process ∧ key ∈ Dict.keys rule.apply := by
  simp [mentions, and_assoc]

/-- What the buckets of some rules hold, where each of the rules sets a key once. -/
lemma mergeAll_merged (dicts : ∀ rule ∈ rules, (Dict.keys rule.apply).Nodup) :
    Merged rules version process (mergeAll rules version process) := by
  constructor
  case value =>
    intro kind key value
    rw [lastSets_iff, get?_mergeAll dicts]
  case keys =>
    intro kind key
    rw [get_mergeAll, Dict.mem_keys_ofList, map_fst_assignments, mem_mentions_iff]
  case distinct =>
    intro kind
    rw [get_mergeAll]
    exact Dict.nodup_keys_ofList _
  case order =>
    intro kind
    rw [get_mergeAll, ← map_fst_assignments]
    exact Dict.keys_ofList_order _

/-! ## Outcomes -/

lemma malformed_iff : Malformed rules ↔ ∃ key ∈ allKeys rules, MetadataKey.isValid key = false := by
  simp only [Malformed, allKeys, List.mem_flatMap]
  constructor
  · rintro ⟨rule, hr, key, hk, hv⟩
    exact ⟨key, ⟨rule, hr, hk⟩, hv⟩
  · rintro ⟨key, ⟨rule, hr, hk⟩, hv⟩
    exact ⟨rule, hr, key, hk, hv⟩

/-- Rules with a malformed key are refused, wherever the key is. -/
lemma resolve_of_malformed (h : Malformed rules) :
    ∃ key, resolve rules version process = .error (.malformedKey key) := by
  cases hc : checkAll rules with
  | error problem =>
    obtain ⟨key, -, rfl⟩ := checkAll_error hc
    exact ⟨key, Outcome.bind_error_iff.2 (.inl hc)⟩
  | ok u =>
    obtain ⟨key, hk, hv⟩ := malformed_iff.1 h
    rw [checkAll_ok_iff.1 hc key hk] at hv
    cases hv

/-- All other rules are merged. -/
lemma resolve_of_not_malformed (h : ¬ Malformed rules) :
    resolve rules version process = .ok (mergeAll rules version process) := by
  have hc : checkAll rules = .ok () := by
    rw [checkAll_ok_iff]
    intro key hk
    by_contra hv
    exact h (malformed_iff.2 ⟨key, hk, Bool.eq_false_iff.2 hv⟩)
  exact Outcome.bind_ok_iff.2 ⟨(), hc, rfl⟩

/-- Changing places makes no rule malformed. -/
lemma Swapped.not_malformed (h : Swapped rules rules') (hm : ¬ Malformed rules) :
    ¬ Malformed rules' := by
  obtain ⟨before, rule, next, after, rfl, rfl, -⟩ := h
  rintro ⟨r, hr, hk⟩
  exact hm ⟨r, by simpa [or_left_comm] using hr, hk⟩

/-- Rules are refused where one of them has a malformed key, be it about something else or about
nothing. All other rules are merged, so that under each key the last one wins; neighbours that share
no key on the same kind can change places. -/
theorem last_writer_wins (dicts : ∀ rule ∈ rules, (Dict.keys rule.apply).Nodup) (version : Int)
    (process : String) :
    ((∃ key, resolve rules version process = .error (.malformedKey key)) ↔ Malformed rules) ∧
      (¬ Malformed rules → ∃ buckets, resolve rules version process = .ok buckets ∧
        Merged rules version process buckets ∧
        ∀ rules', Swapped rules rules' → ∃ buckets', resolve rules' version process = .ok buckets' ∧
          ∀ kind key, Dict.get? (buckets'.get kind) key = Dict.get? (buckets.get kind) key) := by
  refine ⟨⟨?_, resolve_of_malformed⟩, fun hm => ?_⟩
  · rintro ⟨key, he⟩
    by_contra hm
    rw [resolve_of_not_malformed hm] at he
    cases he
  · refine ⟨_, resolve_of_not_malformed hm, mergeAll_merged dicts, fun rules' swapped => ?_⟩
    exact ⟨_, resolve_of_not_malformed (swapped.not_malformed hm), fun kind key =>
      swapped.get?_mergeAll dicts⟩

/-- Rules about the pods of a shop that overlap: the second one is about its workers only, and the
third about a kind that there is not. -/
def shopRules : List MetadataRule :=
  [⟨.of .pod, [("owner", "alice"), ("tier", "one")], 0, ""⟩,
    ⟨.of .pod, [("team", "back"), ("owner", "bob")], 2, "worker"⟩,
    ⟨⟨"batch/v1", "Job"⟩, [("owner", "carol")], 0, ""⟩,
    ⟨.of .service, [("owner", "dave")], 0, ""⟩]

/-- The rules of the shop are merged for the workers of its second version. -/
theorem shopRules_merged :
    (∀ rule ∈ shopRules, (Dict.keys rule.apply).Nodup) ∧ ¬ Malformed shopRules ∧
      ∃ buckets, resolve shopRules 2 "worker" = .ok buckets ∧
        Merged shopRules 2 "worker" buckets ∧
        buckets.pod = [("owner", "bob"), ("tier", "one"), ("team", "back")] := by
  have dicts : ∀ rule ∈ shopRules, (Dict.keys rule.apply).Nodup := by decide
  have formed : ¬ Malformed shopRules := by
    unfold Malformed
    decide +kernel
  obtain ⟨buckets, resolved, merged, -⟩ := (last_writer_wins dicts 2 "worker").2 formed
  have pods : (resolve shopRules 2 "worker").map (·.pod) =
      .ok [("owner", "bob"), ("tier", "one"), ("team", "back")] := by decide +kernel
  rw [resolved] at pods
  exact ⟨dicts, formed, buckets, resolved, merged, Except.ok.inj pods⟩

end MetadataRule

end Chartwright
