import Mathlib.Data.List.Induction
import Mathlib.Data.List.Nodup
import Mathlib.Tactic.Lemma
import Chartwright.Dict

/-!
# Lookup

What is found in a dictionary after keys were set or removed.
-/

namespace Chartwright.Dict

variable {κ υ : Type} [DecidableEq κ]

/-- A key is there where it has a value. -/
lemma mem_keys_iff {d : Dict κ υ} {key : κ} : key ∈ keys d ↔ (get? d key).isSome := by
  induction d with
  | nil => simp [keys, get?]
  | cons e d ih =>
    obtain ⟨k, v⟩ := e
    unfold get?
    rw [show keys ((k, v) :: d) = k :: keys d from rfl, List.mem_cons, ih]
    split
    case isTrue h => simp [h]
    case isFalse h => simp [Ne.symm h]

/-- What is found is an entry. -/
lemma mem_of_get? {d : Dict κ υ} {key : κ} {value : υ} (h : get? d key = some value) :
    (key, value) ∈ d := by
  induction d with
  | nil => cases h
  | cons e d ih =>
    obtain ⟨k, v⟩ := e
    unfold get? at h
    split at h
    case isTrue hk =>
      cases h
      rw [hk]
      exact List.mem_cons_self
    case isFalse => exact List.mem_cons_of_mem _ (ih h)

/-- What is found in entries behind others is not found before. -/
lemma get?_append {d e : Dict κ υ} {key : κ} :
    get? (d ++ e) key = (get? d key).or (get? e key) := by
  induction d with
  | nil => rfl
  | cons p d ih =>
    obtain ⟨k, v⟩ := p
    simp only [List.cons_append, get?, ih]
    split <;> rfl

/-- Setting the value of a key changes that value only. -/
lemma get?_put {d : Dict κ υ} {key k : κ} {value : υ} :
    get? (put d key value) k = if key = k then some value else get? d k := by
  induction d with
  | nil => rfl
  | cons e d ih =>
    obtain ⟨k', v⟩ := e
    unfold put
    split
    case isTrue h =>
      subst h
      simp only [get?]
      split <;> rfl
    case isFalse h =>
      simp only [get?, ih]
      split
      case isTrue hk =>
        subst hk
        rw [if_neg (Ne.symm h)]
      case isFalse hk => rfl

/-- What is found is the first entry that passes a test, if only the entries of the key do. -/
lemma map_get?_eq_find? {d : Dict κ υ} {key : κ} {p : κ × υ → Bool}
    (h : ∀ e ∈ d, p e = true ↔ e.1 = key) : (get? d key).map (key, ·) = d.find? p := by
  induction d with
  | nil => rfl
  | cons e d ih =>
    obtain ⟨he, hd⟩ := List.forall_mem_cons.1 h
    obtain ⟨k, v⟩ := e
    by_cases hk : k = key
    · subst hk
      simp only [get?, if_pos, List.find?_cons_of_pos (he.2 rfl), Option.map_some]
    · simp only [get?, if_neg hk, List.find?_cons_of_neg (mt he.1 hk), ih hd]

/-- A key that is not there has no value. -/
lemma get?_eq_none_iff {d : Dict κ υ} {key : κ} : get? d key = none ↔ key ∉ keys d := by
  rw [mem_keys_iff, Option.not_isSome_iff_eq_none]

/-- The values of a second dictionary replace those of the first. -/
lemma get?_merge {d e : Dict κ υ} (h : (keys e).Nodup) {k : κ} :
    get? (merge d e) k = (get? e k).or (get? d k) := by
  induction e generalizing d with
  | nil => rfl
  | cons p e ih =>
    obtain ⟨hp, he⟩ := List.nodup_cons.1 h
    have hm : merge d (p :: e) = merge (put d p.1 p.2) e := rfl
    rw [hm, ih he, get?_put, get?]
    split
    case isTrue hk =>
      subst hk
      rw [get?_eq_none_iff.2 hp]
      rfl
    case isFalse => rfl

/-- The keys after one was set. -/
lemma mem_keys_put {d : Dict κ υ} {key k : κ} {value : υ} :
    k ∈ keys (put d key value) ↔ key = k ∨ k ∈ keys d := by
  rw [mem_keys_iff, mem_keys_iff, get?_put]
  split
  case isTrue h => simp [h]
  case isFalse h => simp [h]

/-- The keys after those of a second dictionary were set. -/
lemma mem_keys_merge {d e : Dict κ υ} {k : κ} :
    k ∈ keys (merge d e) ↔ k ∈ keys d ∨ k ∈ keys e := by
  induction e generalizing d with
  | nil => simp [merge, keys]
  | cons p e ih =>
    have hm : merge d (p :: e) = merge (put d p.1 p.2) e := rfl
    rw [hm, ih, mem_keys_put]
    simp only [keys, List.map_cons, List.mem_cons]
    constructor
    · rintro ((rfl | h) | h)
      · exact .inr (.inl rfl)
      · exact .inl h
      · exact .inr (.inr h)
    · rintro (h | rfl | h)
      · exact .inl (.inr h)
      · exact .inl (.inl rfl)
      · exact .inr h

/-- The keys of the dictionary of some entries. -/
lemma mem_keys_ofList {entries : List (κ × υ)} {k : κ} :
    k ∈ keys (ofList entries) ↔ k ∈ entries.map (·.1) := by
  rw [ofList, mem_keys_merge]
  simp [keys]

/-- Setting the value of a key repeats no key. -/
lemma nodup_keys_put {d : Dict κ υ} (h : (keys d).Nodup) (key : κ) (value : υ) :
    (keys (put d key value)).Nodup := by
  induction d with
  | nil => exact List.nodup_singleton key
  | cons e d ih =>
    obtain ⟨k, v⟩ := e
    obtain ⟨hk, hd⟩ := List.nodup_cons.1 h
    unfold put
    split
    case isTrue => exact List.nodup_cons.2 ⟨hk, hd⟩
    case isFalse hne =>
      refine List.nodup_cons.2 ⟨fun hm => ?_, ih hd⟩
      rcases mem_keys_put.1 hm with rfl | hm
      · exact hne rfl
      · exact hk hm

/-- Setting the values of a second dictionary repeats no key. -/
lemma nodup_keys_merge {d : Dict κ υ} (h : (keys d).Nodup) (e : Dict κ υ) :
    (keys (merge d e)).Nodup := by
  induction e generalizing d with
  | nil => exact h
  | cons p e ih => exact ih (nodup_keys_put h p.1 p.2)

/-- Of the values that are set for a key, the last counts. -/
lemma get?_merge_reverse {d e : Dict κ υ} {k : κ} :
    get? (merge d e) k = (get? e.reverse k).or (get? d k) := by
  induction e generalizing d with
  | nil => rfl
  | cons p e ih =>
    have hm : merge d (p :: e) = merge (put d p.1 p.2) e := rfl
    rw [hm, ih, List.reverse_cons, get?_append, Option.or_assoc, get?_put]
    congr 1
    simp only [get?]
    split <;> rfl

/-- Values that are set for other keys leave a key as it is. -/
lemma get?_merge_of_not_mem {d e : Dict κ υ} {k : κ} (h : k ∉ keys e) :
    get? (merge d e) k = get? d k := by
  have absent : get? e.reverse k = none := by
    rw [get?_eq_none_iff, keys, List.map_reverse, List.mem_reverse]
    exact h
  rw [get?_merge_reverse, absent]
  rfl

/-- What the dictionary of some entries has for a key is its last value among them. -/
lemma get?_ofList {entries : List (κ × υ)} {k : κ} :
    get? (ofList entries) k = get? entries.reverse k := by
  rw [ofList, get?_merge_reverse]
  exact Option.or_none

/-- An entry of a dictionary is found where no key is repeated. -/
lemma get?_of_mem {d : Dict κ υ} (h : (keys d).Nodup) {p : κ × υ} (hp : p ∈ d) :
    get? d p.1 = some p.2 := by
  induction d with
  | nil => cases hp
  | cons q d ih =>
    obtain ⟨hq, hd⟩ := List.nodup_cons.1 h
    cases hp with
    | head => exact if_pos rfl
    | tail _ hp =>
      have differ : q.1 ≠ p.1 := fun e => hq (List.mem_map.2 ⟨p, hp, e.symm⟩)
      exact (if_neg differ).trans (ih hd hp)

/-- Values that are computed from others are found where those are. -/
lemma get?_map_snd {υ' : Type} (f : υ → υ') {d : Dict κ υ} {k : κ} :
    get? (d.map fun (k, v) => (k, f v)) k = (get? d k).map f := by
  induction d with
  | nil => rfl
  | cons q d ih =>
    obtain ⟨k', v⟩ := q
    simp only [List.map_cons, get?, ih]
    split <;> rfl

omit [DecidableEq κ] in
/-- Dictionaries with the same keys in the same order, and the same value for each, are the same. -/
lemma eq_of_keys {d e : Dict κ υ} (h : keys d = keys e)
    (values : ∀ k v w, (k, v) ∈ d → (k, w) ∈ e → v = w) : d = e := by
  induction d generalizing e with
  | nil => exact (List.map_eq_nil_iff.1 h.symm).symm
  | cons p d ih =>
    cases e with
    | nil => cases h
    | cons q e =>
      obtain ⟨hk, hd⟩ := List.cons.inj h
      obtain ⟨k, v⟩ := p
      obtain ⟨k', w⟩ := q
      cases hk
      cases values k v w List.mem_cons_self List.mem_cons_self
      have later k v w (hv : (k, v) ∈ d) (hw : (k, w) ∈ e) : v = w :=
        values k v w (List.mem_cons_of_mem _ hv) (List.mem_cons_of_mem _ hw)
      rw [ih hd later]

/-- Dictionaries in which no key is repeated are the same where they have the same keys in the same
order, and for each key the same value. -/
lemma eq_of_get? {d e : Dict κ υ} (distinct : (keys d).Nodup) (h : keys d = keys e)
    (values : ∀ k, get? d k = get? e k) : d = e := by
  apply eq_of_keys h
  intro k v w hv hw
  have found := get?_of_mem distinct hv
  have found' := get?_of_mem (h ▸ distinct) hw
  rw [values, found'] at found
  exact (Option.some.inj found).symm

/-- A key that is set stands in its place if it is there, and else behind the others. -/
lemma keys_put (d : Dict κ υ) (key : κ) (value : υ) :
    keys (put d key value) = if key ∈ keys d then keys d else keys d ++ [key] := by
  induction d with
  | nil => rfl
  | cons p d ih =>
    have hc : keys (p :: d) = p.1 :: keys d := rfl
    unfold put
    split
    case isTrue h =>
      rw [hc, if_pos (List.mem_cons.2 (.inl h.symm))]
      rfl
    case isFalse h =>
      rw [hc, show keys ((p.1, p.2) :: put d key value) = p.1 :: keys (put d key value) from rfl, ih]
      simp only [List.mem_cons, Ne.symm h, false_or]
      split <;> rfl

/-- The dictionary of some entries and others behind them. -/
lemma ofList_append (entries later : List (κ × υ)) :
    ofList (entries ++ later) = merge (ofList entries) later :=
  List.foldl_append

/-- The keys stand in the order in which they come first among the entries. -/
lemma keys_ofList_order (entries : List (κ × υ)) :
    (keys (ofList entries)).Pairwise fun key later =>
      (entries.map (·.1)).idxOf key < (entries.map (·.1)).idxOf later := by
  induction entries using List.reverseRecOn with
  | nil => exact .nil
  | append_singleton entries p ih =>
    have kept {key : κ} (h : key ∈ keys (ofList entries)) :
        ((entries ++ [p]).map (·.1)).idxOf key = (entries.map (·.1)).idxOf key := by
      rw [List.map_append]
      exact List.idxOf_append_of_mem (mem_keys_ofList.1 h)
    have before := ih.imp_of_mem fun {key later} hk hl h => by
      rwa [← kept hk, ← kept hl] at h
    rw [ofList_append, show merge (ofList entries) [p] = put (ofList entries) p.1 p.2 from rfl,
      keys_put]
    split
    case isTrue => exact before
    case isFalse hp =>
      refine List.pairwise_append.2 ⟨before, List.pairwise_singleton _ _, fun key hk later hl => ?_⟩
      -- the new key comes behind all entries that were there
      have hlast : ((entries ++ [p]).map (·.1)).idxOf later = entries.length := by
        rw [List.mem_singleton.1 hl, List.map_append, List.idxOf_append_of_notMem]
        · simp
        · exact mt mem_keys_ofList.2 hp
      rw [kept hk, hlast, ← List.length_map (f := (·.1))]
      exact List.idxOf_lt_length_of_mem (mem_keys_ofList.1 hk)

/-- Among some sources of entries, one of a key comes before any of another. -/
inductive Sooner {σ : Type} (gives : σ → κ → Prop) (key later : κ) : List σ → Prop where
  | here {source sources} :
    gives source key →
    key ≠ later →
    Sooner gives key later (source :: sources)
  | there {source sources} :
    ¬ gives source later →
    Sooner gives key later sources →
    Sooner gives key later (source :: sources)

section

variable {σ : Type} {gives : σ → κ → Prop} {key later : κ} {sources : List σ}

omit [DecidableEq κ] in
/-- Of two keys, one at most comes sooner where no source gives both. -/
lemma Sooner.asymm (unique : ∀ source k k', gives source k → gives source k' → k = k')
    (h : Sooner gives key later sources) : ¬ Sooner gives later key sources := by
  induction h with
  | here first differ =>
    intro h'
    cases h' with
    | here first' => exact differ (unique _ _ _ first first')
    | there none => exact none first
  | there none _ ih =>
    intro h'
    cases h' with
    | here first' => exact none first'
    | there _ h' => exact ih h'

/-- A key that comes first among the entries comes sooner among their sources. -/
lemma sooner_of_idxOf {f : σ → Option (κ × υ)}
    (hf : ∀ source k, gives source k ↔ ∃ value, f source = some (k, value))
    (h : ((sources.filterMap f).map (·.1)).idxOf key <
      ((sources.filterMap f).map (·.1)).idxOf later) : Sooner gives key later sources := by
  -- the first source gives nothing, one of both keys, or another one
  induction sources with
  | nil => cases h
  | cons source sources ih =>
    cases he : f source with
    | none =>
      rw [List.filterMap_cons_none he] at h
      refine .there (fun first => ?_) (ih h)
      obtain ⟨value, found⟩ := (hf _ _).1 first
      rw [he] at found
      cases found
    | some e =>
      obtain ⟨k, value⟩ := e
      rw [List.filterMap_cons_some he, List.map_cons] at h
      by_cases hk : k = key
      · subst hk
        refine .here ((hf _ _).2 ⟨value, he⟩) fun same => ?_
        rw [same] at h
        exact absurd h (Nat.lt_irrefl _)
      · by_cases hl : k = later
        · rw [hl, List.idxOf_cons_self] at h
          cases h
        · rw [List.idxOf_cons_ne _ hk, List.idxOf_cons_ne _ hl] at h
          refine .there (fun first => ?_) (ih (Nat.lt_of_succ_lt_succ h))
          obtain ⟨value', found⟩ := (hf _ _).1 first
          rw [he] at found
          cases found
          exact hl rfl

/-- The keys stand in the order in which their sources do. -/
lemma keys_ofList_sooner {f : σ → Option (κ × υ)}
    (hf : ∀ source k, gives source k ↔ ∃ value, f source = some (k, value)) (sources : List σ) :
    (keys (ofList (sources.filterMap f))).Pairwise (Sooner gives · · sources) :=
  (keys_ofList_order _).imp (sooner_of_idxOf hf)

end

/-- The dictionary of some entries repeats no key. -/
lemma nodup_keys_ofList (entries : List (κ × υ)) : (keys (ofList entries)).Nodup :=
  nodup_keys_merge (d := []) List.nodup_nil entries

/-- An entry behind the setting of a key is that of the key, or was there. -/
lemma mem_put {d : Dict κ υ} {key : κ} {value : υ} {p : κ × υ} (h : p ∈ put d key value) :
    p = (key, value) ∨ p ∈ d := by
  induction d with
  | nil => exact .inl (List.mem_singleton.1 h)
  | cons q d ih =>
    obtain ⟨k, v⟩ := q
    unfold put at h
    split at h
    case isTrue hk =>
      subst hk
      rcases List.mem_cons.1 h with rfl | h
      · exact .inl rfl
      · exact .inr (List.mem_cons_of_mem _ h)
    case isFalse =>
      rcases List.mem_cons.1 h with rfl | h
      · exact .inr List.mem_cons_self
      · exact (ih h).imp_right (List.mem_cons_of_mem _)

/-- An entry behind the setting of some values was in one of the two dictionaries. -/
lemma mem_merge {d e : Dict κ υ} {p : κ × υ} (h : p ∈ merge d e) : p ∈ d ∨ p ∈ e := by
  induction e generalizing d with
  | nil => exact .inl h
  | cons q e ih =>
    rcases ih (d := put d q.1 q.2) h with h | h
    · rcases mem_put h with rfl | h
      · exact .inr List.mem_cons_self
      · exact .inl h
    · exact .inr (List.mem_cons_of_mem _ h)

/-- The entries of the dictionary of a list are in the list. -/
lemma mem_of_mem_ofList {entries : List (κ × υ)} {p : κ × υ} (h : p ∈ ofList entries) :
    p ∈ entries :=
  (mem_merge h).resolve_left List.not_mem_nil

/-- A key that is not there is set at the end. -/
lemma put_of_not_mem {d : Dict κ υ} {key : κ} (h : key ∉ keys d) (value : υ) :
    put d key value = d ++ [(key, value)] := by
  induction d with
  | nil => rfl
  | cons p d ih =>
    obtain ⟨hk, hd⟩ := not_or.1 (mt List.mem_cons.2 h)
    rw [put, if_neg (Ne.symm hk), ih hd]
    rfl

/-- Values of other keys are set at the end. -/
lemma merge_of_nodup {d e : Dict κ υ} (h : (keys (d ++ e)).Nodup) : merge d e = d ++ e := by
  induction e generalizing d with
  | nil => exact (List.append_nil d).symm
  | cons p e ih =>
    have fresh : p.1 ∉ keys d := by
      intro hp
      rw [keys, List.map_append, List.nodup_append] at h
      exact h.2.2 p.1 hp p.1 List.mem_cons_self rfl
    rw [List.append_cons] at h ⊢
    rw [← ih h, ← put_of_not_mem fresh p.2]
    rfl

/-- Entries with distinct keys are a dictionary as they are. -/
lemma ofList_of_nodup {entries : List (κ × υ)} (h : (keys entries).Nodup) :
    ofList entries = entries :=
  merge_of_nodup (d := []) h

/-- The keys of a second dictionary stand behind those of the first, less those that are there. -/
lemma keys_merge (d : Dict κ υ) (entries : List (κ × υ)) :
    keys (merge d entries) = keys d ++ (keys (ofList entries)).filter (· ∉ keys d) := by
  induction entries using List.reverseRecOn with
  | nil => exact (List.append_nil _).symm
  | append_singleton entries p ih =>
    have last (f : Dict κ υ) : merge f (entries ++ [p]) = put (merge f entries) p.1 p.2 :=
      List.foldl_append
    have there : p.1 ∈ keys (merge d entries) ↔ p.1 ∈ keys d ∨ p.1 ∈ keys (ofList entries) := by
      rw [mem_keys_merge, mem_keys_ofList]
      rfl
    rw [last, ofList, last, ← ofList, keys_put, keys_put, if_congr there rfl rfl, ih]
    by_cases first : p.1 ∈ keys d
    · rw [if_pos (.inl first)]
      split
      · rfl
      · rw [List.filter_append, List.filter_cons_of_neg (by simpa using first), List.filter_nil,
          List.append_nil]
    · by_cases second : p.1 ∈ keys (ofList entries)
      · rw [if_pos (.inr second), if_pos second]
      · rw [if_neg (not_or.2 ⟨first, second⟩), if_neg second, List.filter_append,
          List.filter_cons_of_pos (by simpa using first), List.filter_nil, List.append_assoc]

/-- Entries are merged as the dictionary of them is. -/
lemma merge_ofList {d : Dict κ υ} (distinct : (keys d).Nodup) (entries : List (κ × υ)) :
    merge d (ofList entries) = merge d entries := by
  apply eq_of_get? (nodup_keys_merge distinct _)
  · rw [keys_merge, keys_merge, ofList_of_nodup (nodup_keys_ofList entries)]
  · intro k
    rw [get?_merge (nodup_keys_ofList entries), get?_merge_reverse, get?_ofList]

/-- Removing a key repeats no key. -/
lemma nodup_keys_erase {d : Dict κ υ} (h : (keys d).Nodup) (key : κ) :
    (keys (erase d key)).Nodup :=
  h.sublist (List.filter_sublist.map _)

/-- Keeping some keys leaves their values. -/
lemma get?_filter {d : Dict κ υ} {p : κ → Bool} {k : κ} :
    get? (d.filter (p ·.1)) k = if p k then get? d k else none := by
  induction d with
  | nil => simp [get?]
  | cons e d ih =>
    obtain ⟨k', v⟩ := e
    by_cases hk : k' = k
    · subst hk
      cases hp : p k' <;> simp [get?, hp, ih]
    · cases hp : p k' <;> simp [get?, hp, hk, ih]

/-- Removing a key leaves the values of the others. -/
lemma get?_erase {d : Dict κ υ} {key k : κ} :
    get? (erase d key) k = if key = k then none else get? d k := by
  rw [erase, get?_filter (p := (· ≠ key))]
  by_cases h : key = k
  · simp [h]
  · simp [h, Ne.symm h]

/-- Of two values that are set for a key, the second counts. -/
lemma put_put (d : Dict κ υ) (key : κ) (value later : υ) :
    put (put d key value) key later = put d key later := by
  induction d with
  | nil => exact if_pos rfl
  | cons p d ih =>
    obtain ⟨k, v⟩ := p
    by_cases h : k = key
    · simp only [put, h, if_true]
    · simp only [put, h, if_false, ih]

/-- Setting the value that a key has changes nothing. -/
lemma put_of_get? {d : Dict κ υ} {key : κ} {value : υ} (h : get? d key = some value) :
    put d key value = d := by
  induction d with
  | nil => cases h
  | cons p d ih =>
    obtain ⟨k, v⟩ := p
    unfold get? at h
    unfold put
    split
    case isTrue hk =>
      rw [if_pos hk] at h
      cases h
      rfl
    case isFalse hk =>
      rw [if_neg hk] at h
      rw [ih h]

/-- A key that is there keeps its place whether another one is set before or after it. -/
lemma put_comm {d : Dict κ υ} {key other : κ} (h : key ∈ keys d) (differ : key ≠ other)
    (value value' : υ) :
    put (put d other value') key value = put (put d key value) other value' := by
  induction d with
  | nil => cases h
  | cons p d ih =>
    obtain ⟨k, v⟩ := p
    by_cases hk : k = key
    · subst hk
      simp only [put, differ, if_false, if_true]
    · have hd : key ∈ keys d := (List.mem_cons.1 h).resolve_left (Ne.symm hk)
      by_cases ho : k = other
      · subst ho
        simp only [put, hk, if_false, if_true]
      · simp only [put, hk, ho, if_false, ih hd]

/-- A key that was not there is removed again. -/
lemma erase_put {d : Dict κ υ} {key : κ} (h : key ∉ keys d) (value : υ) :
    erase (put d key value) key = d := by
  rw [put_of_not_mem h, erase, List.filter_append, List.filter_cons_of_neg (by simp),
    List.filter_nil, List.append_nil, List.filter_eq_self]
  intro p hp
  exact decide_eq_true fun e => h (List.mem_map.2 ⟨p, hp, e⟩)

lemma erase_cons (p : κ × υ) (d : Dict κ υ) (key : κ) :
    erase (p :: d) key = if p.1 = key then erase d key else p :: erase d key := by
  unfold erase
  rw [List.filter_cons]
  by_cases h : p.1 = key <;> simp [h]

/-- A key is removed whether another one is set before or after it. -/
lemma erase_put_of_ne {key other : κ} (differ : key ≠ other) (d : Dict κ υ) (value : υ) :
    erase (put d other value) key = put (erase d key) other value := by
  induction d with
  | nil => exact (erase_cons _ _ _).trans (if_neg (Ne.symm differ))
  | cons p d ih =>
    obtain ⟨k, v⟩ := p
    by_cases ho : k = other
    · subst ho
      simp only [put, erase_cons, Ne.symm differ, if_true, if_false]
    · by_cases hk : k = key
      · subst hk
        simp only [put, erase_cons, differ, if_true, if_false, ih]
      · simp only [put, erase_cons, ho, hk, if_false, ih]

end Chartwright.Dict
