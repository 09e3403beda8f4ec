import Chartwright.Proofs.Schema.Admission

/-!
# Spelling

A field that has another key may come under either. Where no mapping has both keys of a field, what
is found for it stays the same when entries are given the names of their fields, and a mapping keeps
the keys that it has for no field.
-/

namespace Chartwright.Schema

variable {α β : Type}

/-- Whether a key is one of those of a field. -/
def isKeyOf (name : String) (other : Option String) (key : Scalar) : Bool :=
  key = .text name || other.any fun o => key = .text o

/-- Whether a mapping has one key of a field at most. -/
def isSpelledOnce (name : String) (other : Option String) (entries : List (Scalar × Document)) :
    Bool :=
  other.all fun o =>
    (Dict.get? entries (.text o)).isNone || (Dict.get? entries (.text name)).isNone

mutual

/-- Gives the names of fields for keys to the entries at some places, which are told by the keys and
indexes that lead there. -/
def Shape.respell : {α : Type} → Shape α → (List Step → Bool) → Document → Document
  | _, .text _, _, d | _, .integer _, _, d | _, .flag, _, d | _, .duration, _, d | _, .moment, _, d
  | _, .choice _ _, _, d | _, .free, _, d => d
  | _, .list item, places, d =>
    match d with
    | .list ds => .list (ds.mapIdx fun i => item.respell fun path => places (.index i :: path))
    | d => d
  | _, .table value, places, d =>
    match d with
    | .mapping entries =>
      .mapping (entries.map fun e =>
        (e.1, value.respell (fun path => places (.key e.1 :: path)) e.2))
    | d => d
  | _, .optional inner, places, d => inner.respell places d
  | _, .record _ _ fields _ _, places, d =>
    match d with
    | .mapping entries => .mapping (entries.map (fields.respell places))
    | d => d

/-- Gives the name of its field for a key to an entry, and goes on with what is inside. -/
def Fields.respell : {α : Type} → Fields α → (List Step → Bool) → Scalar × Document →
    Scalar × Document
  | _, .done, _, e => e
  | _, .field name other shape _ rest, places, e =>
    if isKeyOf name other e.1 then
      (if places [.key e.1] then .text name else e.1,
        shape.respell (fun path => places (.key e.1 :: path)) e.2)
    else rest.respell places e

end

/-- Whether a mapping has one key at most of each field. -/
def Fields.areSpelledOnce : {α : Type} → Fields α → List (Scalar × Document) → Bool
  | _, .done, _ => true
  | _, .field name other _ _ rest, entries =>
    isSpelledOnce name other entries && rest.areSpelledOnce entries

mutual

/-- Whether no mapping that is read as a record has both keys of a field. -/
def Shape.isUnmixed : {α : Type} → Shape α → Document → Bool
  | _, .text _, _ | _, .integer _, _ | _, .flag, _ | _, .duration, _ | _, .moment, _
  | _, .choice _ _, _ | _, .free, _ => true
  | _, .list item, d =>
    match d with
    | .list ds => ds.all item.isUnmixed
    | _ => true
  | _, .table value, d =>
    match d with
    | .mapping entries => entries.all fun e => value.isUnmixed e.2
    | _ => true
  | _, .optional inner, d => inner.isUnmixed d
  | _, .record _ _ fields _ _, d =>
    match d with
    | .mapping entries => fields.areSpelledOnce entries && fields.areUnmixed entries
    | _ => true

/-- Whether nothing that is read as a field has a record with both keys of a field inside. -/
def Fields.areUnmixed : {α : Type} → Fields α → List (Scalar × Document) → Bool
  | _, .done, _ => true
  | _, .field name other shape _ rest, entries =>
    (findField entries name other).all (fun found => shape.isUnmixed found.2) &&
      rest.areUnmixed entries

end

mutual

/-- Whether no two fields of a record have a key in common. -/
def Shape.isDistinct : {α : Type} → Shape α → Bool
  | _, .list item => item.isDistinct
  | _, .table value => value.isDistinct
  | _, .optional inner => inner.isDistinct
  | _, .record _ _ fields _ _ => decide fields.keys.Nodup && fields.areDistinct
  | _, .text _ | _, .integer _ | _, .flag | _, .duration | _, .moment | _, .choice _ _
  | _, .free => true

/-- Whether no two fields of a record inside have a key in common. -/
def Fields.areDistinct : {α : Type} → Fields α → Bool
  | _, .done => true
  | _, .field _ _ shape _ rest => shape.isDistinct && rest.areDistinct

end

variable {name : String} {other : Option String} {entries : List (Scalar × Document)} {key : Scalar}
  {g : Scalar × Document → Scalar × Document}

/-! ## Keys of one field -/

lemma isKeyOf_iff : isKeyOf name other key = true ↔ ∃ k ∈ name :: other.toList, key = .text k := by
  cases other with
  | none => simp [isKeyOf]
  | some o => simp [isKeyOf]

lemma isKeyOf_none_iff : isKeyOf name none key = true ↔ key = .text name := by
  simp [isKeyOf]

lemma isKeyOf_some_iff {o : String} :
    isKeyOf name (some o) key = true ↔ key = .text name ∨ key = .text o := by
  simp [isKeyOf]

lemma isSpelledOnce_some_iff {o : String} : isSpelledOnce name (some o) entries = true ↔
    Dict.get? entries (.text o) = none ∨ Dict.get? entries (.text name) = none := by
  simp only [isSpelledOnce, Option.all_some, Bool.or_eq_true, Option.isNone_iff_eq_none]

lemma ne_of_get?_eq_none {k : String} (absent : Dict.get? entries (.text k) = none)
    {e : Scalar × Document} (he : e ∈ entries) : e.1 ≠ .text k := by
  intro same
  refine Dict.get?_eq_none_iff.1 absent ?_
  rw [← same]
  exact List.mem_map_of_mem he

/-- An entry that is found for a field, as it stands in the mapping. -/
def asEntry (found : String × Document) : Scalar × Document := (.text found.1, found.2)

lemma asEntry_injective : Function.Injective asEntry := by
  intro found found' same
  obtain ⟨key, value⟩ := Prod.ext_iff.1 same
  exact Prod.ext (Scalar.text.inj key) value

/-- A field that is spelled once is the first entry with one of its keys. -/
lemma findField_of_isSpelledOnce (once : isSpelledOnce name other entries = true) :
    (findField entries name other).map asEntry =
      entries.find? fun e => isKeyOf name other e.1 := by
  -- one of both keys does not occur, so looking for either is looking for the other one
  cases other with
  | none =>
    rw [← Dict.map_get?_eq_find? fun e _ => isKeyOf_none_iff]
    simp only [findField, Option.map_map, Function.comp_def, asEntry]
  | some o =>
    cases found : Dict.get? entries (.text o) with
    | some d =>
      have absent : Dict.get? entries (.text name) = none :=
        (isSpelledOnce_some_iff.1 once).resolve_left (found ▸ Option.some_ne_none d)
      have only : ∀ e ∈ entries, isKeyOf name (some o) e.1 = true ↔ e.1 = .text o := fun e he =>
        isKeyOf_some_iff.trans (or_iff_right (ne_of_get?_eq_none absent he))
      rw [← Dict.map_get?_eq_find? only]
      simp only [findField, found, Option.map_some, asEntry]
    | none =>
      have only : ∀ e ∈ entries, isKeyOf name (some o) e.1 = true ↔ e.1 = .text name := fun e he =>
        isKeyOf_some_iff.trans (or_iff_left (ne_of_get?_eq_none found he))
      rw [← Dict.map_get?_eq_find? only]
      simp only [findField, found, Option.map_map, Function.comp_def, asEntry]

lemma findField_of_get? {k : String} {d : Document} (once : isSpelledOnce name other entries = true)
    (own : k ∈ name :: other.toList) (found : Dict.get? entries (.text k) = some d) :
    findField entries name other = some (k, d) := by
  rcases List.mem_cons.1 own with rfl | own
  · refine findField_name found fun o ho => ?_
    cases ho
    exact (isSpelledOnce_some_iff.1 once).resolve_right (found ▸ Option.some_ne_none d)
  · cases Option.mem_toList.1 own
    simp only [findField, found]

lemma key_of_findField {k : String} {d : Document} (h : findField entries name other = some (k, d)) :
    k ∈ name :: other.toList := by
  have named (h : (Dict.get? entries (.text name)).map (name, ·) = some (k, d)) : k = name := by
    obtain ⟨_, -, e⟩ := Option.map_eq_some_iff.1 h
    cases e
    rfl
  cases other with
  | none => exact List.mem_singleton.2 (named h)
  | some o =>
    unfold findField at h
    simp only at h
    split at h
    next =>
      cases h
      exact List.mem_cons_of_mem _ (List.mem_singleton_self _)
    next => exact List.mem_cons.2 (.inl (named h))

/-- The key of a field that occurs is the one under which it is found. -/
lemma mem_key_findField {k : String} (once : isSpelledOnce name other entries = true)
    (present : Dict.get? entries (.text k) ≠ none) :
    k ∈ ((findField entries name other).map (·.1)).toList ↔ k ∈ name :: other.toList := by
  rw [Option.mem_toList, Option.map_eq_some_iff]
  constructor
  · rintro ⟨⟨_, d⟩, found, rfl⟩
    exact key_of_findField found
  · intro own
    obtain ⟨d, found⟩ := Option.ne_none_iff_exists'.1 present
    exact ⟨(k, d), findField_of_get? once own found, rfl⟩

/-- A change of entries that gives some of those of one field its name for a key. -/
structure Renames (name : String) (other : Option String) (chosen : Scalar → Bool)
    (g : Scalar × Document → Scalar × Document) : Prop where
  own : ∀ e, isKeyOf name other e.1 = true → (g e).1 = if chosen e.1 then .text name else e.1
  foreign : ∀ e, ¬ isKeyOf name other e.1 = true → ¬ isKeyOf name other (g e).1 = true

variable {chosen : Scalar → Bool}

lemma Renames.isKeyOf_eq (h : Renames name other chosen g) (e : Scalar × Document) :
    isKeyOf name other (g e).1 = isKeyOf name other e.1 := by
  by_cases own : isKeyOf name other e.1 = true
  · rw [h.own e own, own]
    split
    case isTrue => exact isKeyOf_iff.2 ⟨name, List.mem_cons_self, rfl⟩
    case isFalse => exact own
  · rw [Bool.eq_false_of_not_eq_true own, Bool.eq_false_of_not_eq_true (h.foreign e own)]

lemma Renames.get?_eq_none (h : Renames name other chosen g) {k : String}
    (own : isKeyOf name other (.text k) = true)
    (never : ∀ e ∈ entries, isKeyOf name other e.1 = true →
      (if chosen e.1 then .text name else e.1) ≠ .text k) :
    Dict.get? (entries.map g) (.text k) = none := by
  rw [Dict.get?_eq_none_iff]
  intro present
  obtain ⟨e', he', same⟩ := List.mem_map.1 present
  obtain ⟨e, he, rfl⟩ := List.mem_map.1 he'
  have was : isKeyOf name other e.1 = true := by
    rw [← h.isKeyOf_eq e, same]
    exact own
  exact never e he was ((h.own e was).symm.trans same)

/-- A field that is spelled once is still spelled once when some of its entries have its name. -/
lemma Renames.isSpelledOnce (h : Renames name other chosen g) (differ : name ∉ other)
    (once : isSpelledOnce name other entries = true) :
    isSpelledOnce name other (entries.map g) = true := by
  cases other with
  | none => rfl
  | some o =>
    have differ : name ≠ o := fun e => differ (e ▸ rfl)
    rw [isSpelledOnce_some_iff] at once ⊢
    by_cases kept : chosen (.text o) = false ∧ Dict.get? entries (.text o) ≠ none
    · -- the other key stays, and the name does not come up
      obtain ⟨kept, present⟩ := kept
      have absent := once.resolve_left present
      refine .inr (h.get?_eq_none (isKeyOf_some_iff.2 (.inl rfl)) fun e he was => ?_)
      have is := (isKeyOf_some_iff.1 was).resolve_left (ne_of_get?_eq_none absent he)
      rw [is, kept]
      exact fun same => differ (Scalar.text.inj same).symm
    · -- nothing keeps the other key
      refine .inl (h.get?_eq_none (isKeyOf_some_iff.2 (.inr rfl)) fun e he was => ?_)
      split
      case isTrue => exact fun same => differ (Scalar.text.inj same)
      case isFalse hc =>
        intro same
        refine kept ⟨?_, fun absent => ne_of_get?_eq_none absent he same⟩
        rw [← same]
        exact Bool.eq_false_of_not_eq_true hc

/-- What is found of a renamed field is what was found before the change. -/
lemma Renames.findField (h : Renames name other chosen g) (differ : name ∉ other)
    (once : Schema.isSpelledOnce name other entries = true) :
    (findField (entries.map g) name other).map asEntry =
      (entries.find? fun e => isKeyOf name other e.1).map g := by
  rw [findField_of_isSpelledOnce (h.isSpelledOnce differ once), List.find?_map]
  have same : (fun e => isKeyOf name other e.1) ∘ g = fun e => isKeyOf name other e.1 :=
    funext h.isKeyOf_eq
  rw [same]

/-! ## Keys of all fields -/

/-- A key is that of some field. -/
def Fields.Owns (fields : Fields α) (key : Scalar) : Prop := ∃ k ∈ fields.keys, key = .text k

/-- A change of entries does to those of some fields what respelling does, and makes none of the
others theirs. -/
structure Fields.Follows (fields : Fields α) (places : List Step → Bool)
    (g : Scalar × Document → Scalar × Document) : Prop where
  own : ∀ e, fields.Owns e.1 → g e = fields.respell places e
  foreign : ∀ e, ¬ fields.Owns e.1 → ¬ fields.Owns (g e).1

section

variable {shape : Shape α} {absent : Option α} {rest : Fields β} {places : List Step → Bool}
  {e : Scalar × Document}

lemma Fields.owns_field_iff : (Fields.field name other shape absent rest).Owns key ↔
    isKeyOf name other key = true ∨ rest.Owns key := by
  rw [isKeyOf_iff]
  constructor
  · rintro ⟨k, hk, rfl⟩
    rcases List.mem_append.1 hk with hk | hk
    · exact .inl ⟨k, hk, rfl⟩
    · exact .inr ⟨k, hk, rfl⟩
  · rintro (⟨k, hk, rfl⟩ | ⟨k, hk, rfl⟩)
    · exact ⟨k, List.mem_append_left _ hk, rfl⟩
    · exact ⟨k, List.mem_append_right (name :: other.toList) hk, rfl⟩

lemma Fields.not_owns_of_isKeyOf (distinct : (Fields.field name other shape absent rest).keys.Nodup)
    (own : isKeyOf name other key = true) : ¬ rest.Owns key := by
  obtain ⟨k, hk, rfl⟩ := isKeyOf_iff.1 own
  rintro ⟨k', hk', same⟩
  cases same
  exact (List.nodup_append.1 distinct).2.2 k hk k hk' rfl

lemma Fields.not_mem_other (distinct : (Fields.field name other shape absent rest).keys.Nodup) :
    name ∉ other := fun h =>
  (List.nodup_cons.1 distinct).1 (List.mem_append_left _ (Option.mem_toList.2 h))

lemma Fields.nodup_rest (distinct : (Fields.field name other shape absent rest).keys.Nodup) :
    rest.keys.Nodup :=
  (List.nodup_append.1 (List.nodup_cons.1 distinct).2).2.1

lemma Fields.respell_of_isKeyOf (own : isKeyOf name other e.1 = true) :
    (Fields.field name other shape absent rest).respell places e =
      (if places [.key e.1] then .text name else e.1,
        shape.respell (fun path => places (.key e.1 :: path)) e.2) :=
  if_pos own

lemma Fields.respell_of_not_isKeyOf (foreign : ¬ isKeyOf name other e.1 = true) :
    (Fields.field name other shape absent rest).respell places e = rest.respell places e :=
  if_neg foreign

end

/-- Respelling leaves other entries alone. -/
lemma Fields.respell_eq_self : {α : Type} → {fields : Fields α} → {places : List Step → Bool} →
    {e : Scalar × Document} → ¬ fields.Owns e.1 → fields.respell places e = e
  | _, .done, _, _, _ => rfl
  | _, .field _ _ _ _ _, _, _, foreign => by
    rw [Fields.owns_field_iff, not_or] at foreign
    rw [Fields.respell_of_not_isKeyOf foreign.1]
    exact Fields.respell_eq_self foreign.2

/-- A respelled entry is still one of the fields. -/
lemma Fields.owns_respell : {α : Type} → {fields : Fields α} → {places : List Step → Bool} →
    {e : Scalar × Document} → fields.Owns e.1 → fields.Owns (fields.respell places e).1
  | _, .done, _, _, owned => owned
  | _, .field name other shape absent rest, places, e, owned => by
    rw [Fields.owns_field_iff]
    by_cases own : isKeyOf name other e.1 = true
    · rw [Fields.respell_of_isKeyOf own]
      simp only
      split
      case isTrue => exact .inl (isKeyOf_iff.2 ⟨name, List.mem_cons_self, rfl⟩)
      case isFalse => exact .inl own
    · rw [Fields.respell_of_not_isKeyOf own]
      exact .inr (Fields.owns_respell ((Fields.owns_field_iff.1 owned).resolve_left own))

section

variable {fields : Fields α} {shape : Shape α} {absent : Option α} {rest : Fields β}
  {places : List Step → Bool}

lemma Fields.follows_respell : fields.Follows places (fields.respell places) where
  own _ _ := rfl
  foreign e foreign := by
    rw [Fields.respell_eq_self foreign]
    exact foreign

/-- The first field is renamed. -/
lemma Fields.Follows.renames (h : (Fields.field name other shape absent rest).Follows places g)
    (distinct : (Fields.field name other shape absent rest).keys.Nodup) :
    Renames name other (fun k => places [.key k]) g where
  own e own := by
    rw [h.own e (Fields.owns_field_iff.2 (.inl own)), Fields.respell_of_isKeyOf own]
  foreign e foreign := by
    intro own
    by_cases owned : rest.Owns e.1
    · rw [h.own e (Fields.owns_field_iff.2 (.inr owned)),
        Fields.respell_of_not_isKeyOf foreign] at own
      exact Fields.not_owns_of_isKeyOf distinct own (Fields.owns_respell owned)
    · refine h.foreign e (mt Fields.owns_field_iff.1 (not_or.2 ⟨foreign, owned⟩)) ?_
      exact Fields.owns_field_iff.2 (.inl own)

/-- The other fields are respelled. -/
lemma Fields.Follows.behind (h : (Fields.field name other shape absent rest).Follows places g)
    (distinct : (Fields.field name other shape absent rest).keys.Nodup) :
    rest.Follows places g where
  own e owned := by
    have foreign : ¬ isKeyOf name other e.1 = true := fun own =>
      Fields.not_owns_of_isKeyOf distinct own owned
    rw [h.own e (Fields.owns_field_iff.2 (.inr owned)), Fields.respell_of_not_isKeyOf foreign]
  foreign e unowned := by
    by_cases own : isKeyOf name other e.1 = true
    · refine Fields.not_owns_of_isKeyOf distinct ?_
      rw [(h.renames distinct).isKeyOf_eq]
      exact own
    · intro owned
      refine h.foreign e (mt Fields.owns_field_iff.1 (not_or.2 ⟨own, unowned⟩)) ?_
      exact Fields.owns_field_iff.2 (.inr owned)

/-- Where nothing is found for the first field, nothing is found behind the change. -/
lemma Fields.Follows.findField_eq_none
    (h : (Fields.field name other shape absent rest).Follows places g)
    (distinct : (Fields.field name other shape absent rest).keys.Nodup)
    (once : isSpelledOnce name other entries = true) (found : findField entries name other = none) :
    findField (entries.map g) name other = none := by
  have first := findField_of_isSpelledOnce once
  have after := (h.renames distinct).findField (Fields.not_mem_other distinct) once
  rw [← first, found] at after
  exact Option.map_eq_none_iff.1 after

/-- What is found for the first field is found under the key that it is given. -/
lemma Fields.Follows.findField_eq_some {given : String} {d : Document}
    (h : (Fields.field name other shape absent rest).Follows places g)
    (distinct : (Fields.field name other shape absent rest).keys.Nodup)
    (once : isSpelledOnce name other entries = true)
    (found : findField entries name other = some (given, d)) :
    findField (entries.map g) name other =
      some (if places [.key (.text given)] then name else given,
        shape.respell (fun path => places (.key (.text given) :: path)) d) := by
  have own : isKeyOf name other (.text given) = true :=
    isKeyOf_iff.2 ⟨given, key_of_findField found, rfl⟩
  have first := findField_of_isSpelledOnce once
  have after := (h.renames distinct).findField (Fields.not_mem_other distinct) once
  rw [← first, found] at after
  refine Option.map_injective asEntry_injective (after.trans (congrArg some ?_))
  have changed := h.own (.text given, d) (Fields.owns_field_iff.2 (.inl own))
  rw [Fields.respell_of_isKeyOf own] at changed
  exact changed.trans (Prod.ext (apply_ite Scalar.text _ _ _).symm rfl)

end

lemma Fields.areSpelledOnce_map : {α : Type} → {fields : Fields α} → {places : List Step → Bool} →
    {entries : List (Scalar × Document)} → {g : Scalar × Document → Scalar × Document} →
    fields.keys.Nodup → fields.Follows places g → fields.areSpelledOnce entries = true →
    fields.areSpelledOnce (entries.map g) = true
  | _, .done, _, _, _, _, _, _ => rfl
  | _, .field name other shape absent rest, _, entries, g, distinct, follows, once => by
    obtain ⟨once, onceRest⟩ := Bool.and_eq_true_iff.1 once
    have differ := Fields.not_mem_other distinct
    refine Bool.and_eq_true_iff.2 ⟨(follows.renames distinct).isSpelledOnce differ once, ?_⟩
    exact Fields.areSpelledOnce_map (Fields.nodup_rest distinct) (follows.behind distinct) onceRest

/-- All keys of fields that occur are used where none occurs with its other key. -/
lemma Fields.mem_usedKeys_iff : {α : Type} → {fields : Fields α} →
    {entries : List (Scalar × Document)} → {k : String} → fields.areSpelledOnce entries = true →
    Dict.get? entries (.text k) ≠ none → (k ∈ fields.usedKeys entries ↔ k ∈ fields.keys)
  | _, .done, _, _, _, _ => Iff.rfl
  | _, .field name other shape absent rest, entries, k, once, present => by
    obtain ⟨once, onceRest⟩ := Bool.and_eq_true_iff.1 once
    simp only [Fields.usedKeys, Fields.keys, List.mem_append, mem_key_findField once present,
      Fields.mem_usedKeys_iff onceRest present, List.cons_append, List.mem_cons, or_assoc]

/-- The keys that no field uses are those that are none of a field. -/
lemma Fields.unknownKeys_usedKeys {fields : Fields α}
    (once : fields.areSpelledOnce entries = true) :
    unknownKeys entries (fields.usedKeys entries) = unknownKeys entries fields.keys := by
  refine List.filterMap_congr fun e he => ?_
  obtain ⟨k, d⟩ := e
  cases k with
  | text k =>
    have present : Dict.get? entries (.text k) ≠ none := fun absent =>
      ne_of_get?_eq_none absent he rfl
    simp only [Fields.mem_usedKeys_iff once present]
  | _ => rfl

/-- A respelled mapping has the same unknown keys. -/
lemma Fields.unknownKeys_respell {fields : Fields α} {places : List Step → Bool} :
    unknownKeys (entries.map (fields.respell places)) fields.keys =
      unknownKeys entries fields.keys := by
  rw [unknownKeys, List.filterMap_map]
  refine List.filterMap_congr fun e _ => ?_
  by_cases owned : fields.Owns e.1
  · -- both keys are known
    obtain ⟨k, hk, was⟩ := owned
    obtain ⟨k', hk', is⟩ := @Fields.owns_respell _ fields places e ⟨k, hk, was⟩
    simp only [Function.comp_apply, was, is, if_pos hk, if_pos hk']
  · simp only [Function.comp_apply, Fields.respell_eq_self owned]

end Chartwright.Schema
