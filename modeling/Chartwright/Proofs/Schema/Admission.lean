import Mathlib.Data.List.Forall2
import Mathlib.Data.List.Nodup
import Mathlib.Tactic.Lemma
import Chartwright.Proofs.Dict
import Chartwright.Proofs.Outcome
import Chartwright.Proofs.Time.Duration
import Chartwright.Schema.Shape

/-!
# Admission

A shape admits a value if some document is read as it. Which values these are is said here kind by
kind and without documents: a record is admitted where its fields are and `make` accepts them, as
long as the defaults of the fields are admitted themselves and no key can be taken for another.
-/

namespace Chartwright.Schema

variable {α β : Type}

/-- Some document is read as a value. -/
def Shape.Admits (shape : Shape α) (a : α) : Prop := ∃ d, shape.decode d = .ok a

/-- A value is concluded where there is one and no issue. -/
lemma conclude_ok_iff {issues : List Issue} {value : Option α} {a} :
    conclude issues value = .ok a ↔ issues = [] ∧ value = some a := by
  cases issues with
  | nil => cases value <;> simp [conclude]
  | cons i is => simp [conclude]

/-- The result for a scalar is lifted as it is. -/
lemma atHere_ok_iff {x : Except Cause α} {a} : atHere x = .ok a ↔ x = .ok a := by
  cases x <;> simp [atHere]

/-! ## Scalars -/

/-- A text matches a pattern if there is one. -/
lemma TextRule.matching_ok_iff {rule : TextRule} {s t : String} :
    check.matching rule s = .ok t ↔ t = s ∧ ∀ p ∈ rule.pattern, p.accepts s.toList = true := by
  unfold check.matching
  cases rule.pattern with
  | none => simp [eq_comm (a := t)]
  | some p =>
    by_cases hp : p.accepts s.toList = true
    · simp [hp, eq_comm (a := t)]
    · simp [hp]

/-- A text passes its check where it has a length within the limits and matches the pattern. -/
lemma TextRule.check_ok_iff {rule : TextRule} {s t : String} :
    rule.check s = .ok t ↔ t = s ∧ rule.least ≤ s.length ∧ (∀ most ∈ rule.most, s.length ≤ most) ∧
      ∀ p ∈ rule.pattern, p.accepts s.toList = true := by
  unfold check
  by_cases hl : s.length < rule.least
  · rw [if_pos hl]
    simp only [reduceCtorEq, false_iff, not_and]
    omega
  · rw [if_neg hl]
    cases rule.most with
    | none => simp [matching_ok_iff, Nat.le_of_not_lt hl]
    | some most =>
      by_cases hu : most < s.length
      · simp [hu]
      · simp [hu, matching_ok_iff, Nat.le_of_not_lt hl, Nat.le_of_not_lt hu]

/-- Texts are admitted by their rule. -/
@[simp]
lemma Shape.admits_text_iff {rule : TextRule} {s : String} :
    (Shape.text rule).Admits s ↔ rule.check s = .ok s := by
  constructor
  · rintro ⟨d, h⟩
    simp only [Shape.decode, atHere_ok_iff] at h
    unfold readText at h
    split at h
    · rwa [← (TextRule.check_ok_iff.1 h).1] at h
    · cases h
  · intro h
    exact ⟨.text s, by simp [Shape.decode, readText, h, atHere]⟩

/-- Any text passes where nothing is asked of it. -/
@[simp]
lemma TextRule.check_any (s : String) : any.check s = .ok s :=
  check_ok_iff.2 ⟨rfl, Nat.zero_le _, nofun, nofun⟩

/-- Where something is asked of it, an empty text does not pass. -/
@[simp]
lemma TextRule.check_nonEmpty_iff {s : String} : nonEmpty.check s = .ok s ↔ s ≠ "" := by
  simp only [check_ok_iff, nonEmpty, true_and, reduceCtorEq, Option.mem_def, false_implies,
    implies_true, and_true]
  rw [Nat.one_le_iff_ne_zero, ne_eq, ne_eq, String.length_eq_zero_iff]

/-- Where a pattern is asked for and nothing else, a text has to match it. -/
@[simp]
lemma TextRule.check_pattern_iff {p : Pattern} {s : String} :
    (TextRule.mk 0 none (some p)).check s = .ok s ↔ p.accepts s.toList = true := by
  simp [check_ok_iff]

/-- An integer within its bounds is read as it is. -/
lemma checkBounds_ok_iff {bounds : List Bound} {n m : Int} :
    checkBounds bounds n = .ok m ↔ m = n ∧ ∀ b ∈ bounds, b.holds n = true := by
  unfold checkBounds
  split
  next b hb =>
    have hn := List.find?_some hb
    simp only [Bool.not_eq_true'] at hn
    simp only [reduceCtorEq, false_iff, not_and, not_forall]
    exact fun _ => ⟨b, List.mem_of_find?_eq_some hb, by simp [hn]⟩
  next hn =>
    simp only [List.find?_eq_none, Bool.not_eq_true', Bool.not_eq_false] at hn
    simp only [Except.ok.injEq, eq_comm (a := n)]
    exact ⟨fun h => ⟨h, hn⟩, fun h => h.1⟩

/-- An integer that is read is within the bounds, whatever it is read from. -/
lemma exists_checkBounds {bounds : List Bound} {d : Document} {n : Int}
    (h : readInteger bounds d = .ok n) : ∃ m, checkBounds bounds m = .ok n := by
  unfold readInteger at h
  simp only at h
  split at h <;> exact (Outcome.bind_ok_iff.1 h).imp fun _ hm => hm.2

/-- Integers are admitted within their bounds. -/
@[simp]
lemma Shape.admits_integer_iff {bounds : List Bound} {n : Int} :
    (Shape.integer bounds).Admits n ↔ ∀ b ∈ bounds, b.holds n = true := by
  constructor
  · rintro ⟨d, h⟩
    simp only [Shape.decode, atHere_ok_iff] at h
    obtain ⟨m, hm⟩ := exists_checkBounds h
    obtain ⟨rfl, hb⟩ := checkBounds_ok_iff.1 hm
    exact hb
  · intro h
    refine ⟨.int n, ?_⟩
    simp only [Shape.decode, atHere_ok_iff, readInteger]
    exact checkBounds_ok_iff.2 ⟨rfl, h⟩

/-- Both truth values are admitted. -/
@[simp]
lemma Shape.admits_flag (b : Bool) : Shape.flag.Admits b := ⟨.bool b, rfl⟩

/-- All moments are admitted. -/
@[simp]
lemma Shape.admits_moment (m : Moment) : Shape.moment.Admits m := ⟨.scalar (.moment m), rfl⟩

/-- Durations are admitted within their range. -/
@[simp]
lemma Shape.admits_duration_iff {d : Duration} :
    Shape.duration.Admits d ↔ Duration.inRange d.microseconds.natAbs = true := by
  have helim : ∀ {x : Option Duration}, x.elim (.error .unreadableDuration) .ok =
      (.ok d : Except Cause Duration) → x = some d := by
    intro x h
    cases x with
    | none => cases h
    | some e =>
      cases h
      rfl
  constructor
  · rintro ⟨doc, h⟩
    simp only [Shape.decode, atHere_ok_iff] at h
    unfold readDuration at h
    split at h
    next => exact Duration.inRange_of_read? (helim h)
    next => exact Duration.inRange_of_ofMagnitude? (helim h)
    next b =>
      cases h
      cases b <;> rfl
    next => exact Duration.inRange_of_ofBinary64? (helim h)
    next => cases h
  · intro h
    refine ⟨.text d.text, ?_⟩
    simp only [Shape.decode, atHere_ok_iff, readDuration, Duration.read?_text h, Option.elim_some]

/-! ## Lists and tables -/

/-- The items of a list are read in order. -/
lemma decodeItems_of_forall₂ {f : Document → Except (List Issue) α} {ds : List Document} {xs}
    (h : List.Forall₂ (fun d x => f d = .ok x) ds xs) (i : Nat) : decodeItems f i ds = ([], xs) := by
  induction h generalizing i with
  | nil => rfl
  | cons hd _ ih => simp only [decodeItems, ih, hd]

/-- What is read from the items of a list is read from one of them. -/
lemma exists_of_mem_decodeItems {f : Document → Except (List Issue) α} {ds : List Document} {i x}
    (h : x ∈ (decodeItems f i ds).2) : ∃ d, f d = .ok x := by
  induction ds generalizing i with
  | nil => cases h
  | cons d ds ih =>
    unfold decodeItems at h
    simp only at h
    split at h
    next a ha =>
      rcases List.mem_cons.1 h with rfl | h
      · exact ⟨d, ha⟩
      · exact ih h
    next => exact ih h

/-- A list is related to another where each item of the other is related to something. -/
lemma exists_forall₂ {R : α → β → Prop} {ys : List β} (h : ∀ y ∈ ys, ∃ x, R x y) :
    ∃ xs, List.Forall₂ R xs ys := by
  induction ys with
  | nil => exact ⟨[], .nil⟩
  | cons y ys ih =>
    obtain ⟨x, hx⟩ := h y List.mem_cons_self
    obtain ⟨xs, hxs⟩ := ih fun z hz => h z (List.mem_cons_of_mem _ hz)
    exact ⟨x :: xs, .cons hx hxs⟩

/-- Lists are admitted item by item. -/
@[simp]
lemma Shape.admits_list_iff {item : Shape α} {xs : List α} :
    (Shape.list item).Admits xs ↔ ∀ x ∈ xs, item.Admits x := by
  constructor
  · rintro ⟨d, h⟩ x hx
    unfold Shape.decode at h
    split at h
    next =>
      obtain ⟨-, e⟩ := conclude_ok_iff.1 h
      cases e
      exact exists_of_mem_decodeItems hx
    next => cases h
  · intro h
    obtain ⟨ds, hds⟩ := exists_forall₂ h
    exact ⟨.list ds, by simp only [Shape.decode, decodeItems_of_forall₂ hds, conclude]⟩

/-- The text keys of an object are its keys. -/
lemma textKeys_object (entries : List (String × Document)) :
    textKeys (entries.map fun (k, v) => (Scalar.text k, v)) = entries := by
  induction entries with
  | nil => rfl
  | cons e es ih => exact congrArg (e :: ·) ih

/-- The keys of an object are texts. -/
lemma keyIssues_object (cause : Cause) (entries : List (String × Document)) :
    keyIssues cause (entries.map fun (k, v) => (Scalar.text k, v)) = [] := by
  simp [keyIssues, List.filterMap_map]

/-- All mappings are admitted where their content is not looked into. -/
@[simp]
lemma Shape.admits_free (entries : Dict String Document) : Shape.free.Admits entries :=
  ⟨.object entries, by
    simp only [Document.object, Shape.decode, keyIssues_object, textKeys_object, conclude]⟩

/-- What is read from the entries of a mapping is read from one of them. -/
lemma exists_of_mem_decodeEntries {f : Document → Except (List Issue) α}
    {entries : List (Scalar × Document)} {e} (h : e ∈ (decodeEntries f entries).2) :
    ∃ d, f d = .ok e.2 := by
  induction entries with
  | nil => cases h
  | cons p entries ih =>
    obtain ⟨k, d⟩ := p
    unfold decodeEntries at h
    simp only at h
    split at h
    next a _ ha =>
      rcases List.mem_cons.1 h with rfl | h
      · exact ⟨d, ha⟩
      · exact ih h
    next => exact ih h
    next => exact ih h

/-- The entries of an object are read in order. -/
lemma decodeEntries_object {f : Document → Except (List Issue) α} {docs : Dict String Document}
    {entries : Dict String α}
    (h : List.Forall₂ (fun p e => p.1 = e.1 ∧ f p.2 = .ok e.2) docs entries) :
    decodeEntries f (docs.map fun (k, v) => (Scalar.text k, v)) = ([], entries) := by
  induction h with
  | nil => rfl
  | @cons p e _ _ hp _ ih =>
    obtain ⟨k, d⟩ := p
    obtain ⟨rfl, hd⟩ := hp
    simp only [List.map_cons, decodeEntries, ih, hd]

/-- Tables are admitted entry by entry. -/
@[simp]
lemma Shape.admits_table_iff {value : Shape α} {entries : Dict String α} :
    (Shape.table value).Admits entries ↔ ∀ e ∈ entries, value.Admits e.2 := by
  constructor
  · rintro ⟨d, h⟩ e he
    unfold Shape.decode at h
    split at h
    next =>
      obtain ⟨-, eq⟩ := conclude_ok_iff.1 h
      cases eq
      exact exists_of_mem_decodeEntries he
    next => cases h
  · intro h
    have hp : ∀ e ∈ entries, ∃ p : String × Document, p.1 = e.1 ∧ value.decode p.2 = .ok e.2 := by
      intro e he
      obtain ⟨d, hd⟩ := h e he
      exact ⟨(e.1, d), rfl, hd⟩
    obtain ⟨docs, hdocs⟩ := exists_forall₂ hp
    exact ⟨.object docs, by
      simp only [Document.object, Shape.decode, decodeEntries_object hdocs, conclude]⟩

/-- Whether null stands for a value of a shape. -/
def Shape.isOptional : Shape α → Bool
  | .optional _ => true
  | _ => false

/-- Null stands for no value but an absent one. -/
lemma Shape.decode_null_ne {shape : Shape α} (h : shape.isOptional = false) (a : α) :
    shape.decode .null ≠ .ok a := by
  cases shape with
  | optional => cases h
  | _ => nofun

/-- A value that may be absent is admitted where it is absent or admitted itself. -/
lemma Shape.admits_optional_iff (inner : Shape α) (hn : inner.isOptional = false) {x : Option α} :
    (Shape.optional inner).Admits x ↔ ∀ a ∈ x, inner.Admits a := by
  constructor
  · rintro ⟨d, h⟩ a ha
    cases ha
    unfold Shape.decode at h
    split at h
    next => cases h
    next =>
      obtain ⟨b, hb, e⟩ := Outcome.map_ok_iff.1 h
      cases e
      exact ⟨_, hb⟩
  · intro h
    cases x with
    | none => exact ⟨.null, rfl⟩
    | some a =>
      obtain ⟨d, hd⟩ := h a rfl
      refine ⟨d, ?_⟩
      unfold Shape.decode
      split
      next => exact absurd hd (Shape.decode_null_ne hn a)
      next => rw [hd]; rfl

/-! ## Records -/

/-- The parts of a record are admitted by its fields. -/
@[simp]
def Fields.Admits : {α : Type} → Fields α → α → Prop
  | _, .done, _ => True
  | _, .field _ _ shape _ rest, (a, tuple) => shape.Admits a ∧ rest.Admits tuple

/-- The values of absent fields are admitted by their shapes. -/
@[simp]
def Fields.Defaulted : {α : Type} → Fields α → Prop
  | _, .done => True
  | _, .field _ _ shape absent rest => (∀ a ∈ absent, shape.Admits a) ∧ rest.Defaulted

/-- The keys under which fields may come. -/
@[simp]
def Fields.keys : {α : Type} → Fields α → List String
  | _, .done => []
  | _, .field name other _ _ rest => name :: other.toList ++ rest.keys

/-- The fields in order under their names; one that has its default may be left out. -/
def Fields.Written : {α : Type} → Fields α → Dict String Document → α → Prop
  | _, .done, entries, _ => entries = []
  | _, .field name _ shape absent rest, entries, (a, tuple) =>
    (∃ d entries', entries = (name, d) :: entries' ∧ shape.decode d = .ok a ∧
      rest.Written entries' tuple) ∨ (absent = some a ∧ rest.Written entries tuple)

/-- Parts that are read are admitted, those of absent fields as well. -/
lemma Fields.admits_of_decode : {α : Type} → {fields : Fields α} → {entries : List (Scalar × Document)} →
    {tuple : α} → fields.Defaulted → (fields.decode entries).2 = some tuple → fields.Admits tuple
  | _, .done, _, _, _, _ => trivial
  | _, .field name other shape absent rest, entries, (a, tuple), hd, h => by
    obtain ⟨ha, hd⟩ := hd
    unfold Fields.decode at h
    simp only at h
    split at h
    next d _ =>
      split at h
      next b hb =>
        obtain ⟨t, ht, e⟩ := Option.map_eq_some_iff.1 h
        cases e
        exact ⟨⟨d, hb⟩, Fields.admits_of_decode hd ht⟩
      next => cases h
    next b _ _ =>
      obtain ⟨t, ht, e⟩ := Option.map_eq_some_iff.1 h
      cases e
      exact ⟨ha a rfl, Fields.admits_of_decode hd ht⟩
    next => cases h

/-- Admitted parts can be written. -/
lemma Fields.exists_written : {α : Type} → {fields : Fields α} → {tuple : α} →
    fields.Admits tuple → ∃ entries, fields.Written entries tuple
  | _, .done, _, _ => ⟨[], rfl⟩
  | _, .field name _ _ _ _, (_, _), h => by
    obtain ⟨⟨d, hd⟩, h⟩ := h
    obtain ⟨entries, he⟩ := Fields.exists_written h
    exact ⟨(name, d) :: entries, .inl ⟨d, entries, rfl, hd, he⟩⟩

/-- Fields that are written have keys of theirs. -/
lemma Fields.Written.key_mem : {α : Type} → {fields : Fields α} → {entries : Dict String Document} →
    {tuple : α} → fields.Written entries tuple → ∀ key ∈ Dict.keys entries, key ∈ fields.keys
  | _, .done, _, _, h => by
    cases h
    exact fun key hk => absurd hk List.not_mem_nil
  | _, .field _ _ _ _ _, _, (_, _), h => by
    intro key hk
    rcases h with ⟨d, entries, rfl, -, h⟩ | ⟨-, h⟩
    · rcases List.mem_cons.1 hk with rfl | hk
      · exact List.mem_cons_self
      · exact List.mem_cons_of_mem _ (List.mem_append_right _ (Fields.Written.key_mem h key hk))
    · exact List.mem_cons_of_mem _ (List.mem_append_right _ (Fields.Written.key_mem h key hk))

/-- A key of an object is found where it is in its entries. -/
lemma get?_object (entries : Dict String Document) (key : String) :
    Dict.get? (entries.map fun (k, v) => (Scalar.text k, v)) (.text key) =
      Dict.get? entries key := by
  induction entries with
  | nil => rfl
  | cons e es ih =>
    obtain ⟨k, v⟩ := e
    simp only [List.map_cons, Dict.get?, Scalar.text.injEq, ih]

lemma findField_eq_none {entries : List (Scalar × Document)} {name : String} {other : Option String}
    (absent : ∀ key ∈ name :: other.toList, Dict.get? entries (.text key) = none) :
    findField entries name other = none := by
  have hn := absent name List.mem_cons_self
  cases other with
  | none => simp only [findField, hn, Option.map_none]
  | some key =>
    have ho := absent key (List.mem_cons_of_mem _ (List.mem_singleton_self key))
    simp only [findField, ho, hn, Option.map_none]

lemma findField_name {entries : List (Scalar × Document)} {name : String} {other : Option String}
    {d : Document} (found : Dict.get? entries (.text name) = some d)
    (absent : ∀ key ∈ other, Dict.get? entries (.text key) = none) :
    findField entries name other = some (name, d) := by
  cases other with
  | none => simp only [findField, found, Option.map_some]
  | some key => simp only [findField, absent key rfl, found, Option.map_some]

/-- Fields are read where a mapping has them as they are written and under no other key. -/
lemma Fields.decode_of_written : {α : Type} → {fields : Fields α} →
    {entries : List (Scalar × Document)} → {written : Dict String Document} → {tuple : α} →
    fields.keys.Nodup → fields.Written written tuple →
    (∀ key ∈ fields.keys, Dict.get? entries (.text key) = Dict.get? written key) →
    fields.decode entries = ([], some tuple) ∧ fields.usedKeys entries = Dict.keys written
  | _, .done, _, _, (), _, h, _ => by
    cases h
    exact ⟨rfl, rfl⟩
  | _, .field name other shape absent rest, entries, _, (a, tuple), hk, h, agree => by
    obtain ⟨hname, hk⟩ := List.nodup_cons.1 hk
    obtain ⟨-, hrest, hother⟩ := List.nodup_append.1 hk
    have agreeRest : ∀ key ∈ rest.keys, key ∈ (Fields.field name other shape absent rest).keys :=
      fun key hkey => List.mem_cons_of_mem _ (List.mem_append_right _ hkey)
    -- what the other fields have written has no key of the first one
    have foreign {laid} (hw : rest.Written laid tuple) :
        ∀ key ∈ name :: other.toList, Dict.get? laid key = none := by
      intro key hkey
      rw [Dict.get?_eq_none_iff]
      intro hm
      rcases List.mem_cons.1 hkey with rfl | hkey
      · exact hname (List.mem_append_right _ (hw.key_mem key hm))
      · exact hother key hkey key (hw.key_mem key hm) rfl
    rcases h with ⟨d, laid, rfl, hd, h⟩ | ⟨ha, h⟩
    · have hfound : findField entries name other = some (name, d) := by
        refine findField_name (by rw [agree name List.mem_cons_self, Dict.get?, if_pos rfl]) ?_
        intro key ho
        have hkey : key ∈ other.toList := Option.mem_toList.2 ho
        rw [agree key (List.mem_cons_of_mem _ (List.mem_append_left _ hkey)), Dict.get?, if_neg]
        · exact foreign h key (List.mem_cons_of_mem _ hkey)
        · rintro rfl
          exact hname (List.mem_append_left _ hkey)
      -- behind the first field, the others are found as before
      obtain ⟨hdec, hused⟩ := Fields.decode_of_written hrest h fun key hkey => by
        rw [agree key (agreeRest key hkey), Dict.get?, if_neg]
        rintro rfl
        exact hname (List.mem_append_right _ hkey)
      constructor
      · simp only [Fields.decode, hdec, hfound, hd, Option.map_some]
      · simp only [Fields.usedKeys, hfound, hused, Option.map_some, Option.toList_some]
        rfl
    · have hnone : findField entries name other = none := by
        refine findField_eq_none fun key hkey => ?_
        rw [agree key (List.mem_append_left _ hkey)]
        exact foreign h key hkey
      obtain ⟨hdec, hused⟩ := Fields.decode_of_written hrest h fun key hkey =>
        agree key (agreeRest key hkey)
      constructor
      · simp only [Fields.decode, hdec, hnone, ha, Option.map_some]
      · simp only [Fields.usedKeys, hnone, hused, Option.map_none, Option.toList_none]
        rfl

/-- Keys that are all used are known. -/
lemma unknownKeys_object (entries : Dict String Document) :
    unknownKeys (entries.map fun (k, v) => (Scalar.text k, v)) (Dict.keys entries) = [] := by
  rw [unknownKeys, List.filterMap_eq_nil_iff]
  intro e he
  obtain ⟨p, hp, rfl⟩ := List.mem_map.1 he
  exact if_pos (List.mem_map.2 ⟨p, hp, rfl⟩)

/-- A record is read off its fields as they are written. -/
lemma Shape.decode_record_of_written {title : String} {closed : Bool} {fields : Fields α}
    {make : α → Except String β} {parts : β → α} {written : Dict String Document} {tuple : α}
    {b : β} (hk : fields.keys.Nodup) (h : fields.Written written tuple) (hb : make tuple = .ok b) :
    (Shape.record title closed fields make parts).decode (.object written) = .ok b := by
  obtain ⟨hdec, hused⟩ := Fields.decode_of_written hk h fun key _ => get?_object written key
  have hu : (if closed then unknownKeys (written.map fun (k, v) => (Scalar.text k, v))
      (Dict.keys written) else []) = [] := by
    rw [unknownKeys_object, ite_self]
  simp only [Document.object, Shape.decode, hdec, hused, hu, List.append_nil, conclude, hb]

/-- A record is read from a mapping whose fields are read, and made of them. -/
lemma Shape.decode_record_ok {title : String} {closed : Bool} {fields : Fields α}
    {make : α → Except String β} {parts : β → α} {d : Document} {b : β}
    (h : (Shape.record title closed fields make parts).decode d = .ok b) :
    ∃ entries tuple, d = .mapping entries ∧ (fields.decode entries).2 = some tuple ∧
      make tuple = .ok b := by
  unfold Shape.decode at h
  split at h
  next entries =>
    simp only at h
    split at h
    next => cases h
    next tuple ht =>
      split at h
      next value hv =>
        cases h
        exact ⟨entries, tuple, rfl, (conclude_ok_iff.1 ht).2, hv⟩
      next => cases h
  next => cases h

/-- Records are admitted field by field, and `make` has the last word. -/
lemma Shape.admits_record_iff {title : String} {closed : Bool} {fields : Fields α}
    {make : α → Except String β} {parts : β → α} {b : β} (hd : fields.Defaulted)
    (hk : fields.keys.Nodup) :
    (Shape.record title closed fields make parts).Admits b ↔
      ∃ tuple, fields.Admits tuple ∧ make tuple = .ok b := by
  constructor
  · rintro ⟨d, h⟩
    obtain ⟨entries, tuple, -, ht, hb⟩ := Shape.decode_record_ok h
    exact ⟨tuple, Fields.admits_of_decode hd ht, hb⟩
  · rintro ⟨tuple, ht, hb⟩
    obtain ⟨written, hw⟩ := Fields.exists_written ht
    exact ⟨.object written, Shape.decode_record_of_written hk hw hb⟩

end Chartwright.Schema
