import Chartwright.Proofs.Schema.Spelling

/-!
# Respelling

Where no mapping has both keys of a field, it makes no difference which of them is used, at any
depth: neither to the value that is read nor to what is wrong. Only the places of issues tell, as
they show the keys that were given.
-/

namespace Chartwright.Schema

variable {α β : Type} {name : String} {other : Option String}
  {entries : List (Scalar × Document)}

mutual

/-- The place in a respelled document of what was at a place. -/
def Shape.respellPath : {α : Type} → Shape α → (List Step → Bool) → List Step → List Step
  | _, .text _, _, path | _, .integer _, _, path | _, .flag, _, path | _, .duration, _, path
  | _, .moment, _, path | _, .choice _ _, _, path | _, .free, _, path => path
  | _, .list item, places, path =>
    match path with
    | .index i :: path => .index i :: item.respellPath (fun path => places (.index i :: path)) path
    | path => path
  | _, .table value, places, path =>
    match path with
    | .key k :: path => .key k :: value.respellPath (fun path => places (.key k :: path)) path
    | path => path
  | _, .optional inner, places, path => inner.respellPath places path
  | _, .record _ _ fields _ _, places, path =>
    match path with
    | .field given usual :: path => fields.respellPath places given usual path
    | path => path

/-- The place in a respelled record of what was below a field. -/
def Fields.respellPath : {α : Type} → Fields α → (List Step → Bool) → (given usual : String) →
    List Step → List Step
  | _, .done, _, given, usual, path => .field given usual :: path
  | _, .field name other shape _ rest, places, given, usual, path =>
    if isKeyOf name other (.text given) then
      .field (if places [.key (.text given)] then name else given) usual ::
        shape.respellPath (fun path => places (.key (.text given) :: path)) path
    else rest.respellPath places given usual path

end

/-- An issue at another place. -/
def Issue.relocate (f : List Step → List Step) (issue : Issue) : Issue :=
  { issue with path := f issue.path }

/-- A rejection with its issues at other places. -/
def Rejection.relocate (f : List Step → List Step) (r : Rejection) : Rejection :=
  { r with issues := r.issues.map (·.relocate f) }

/-! ## Places of issues -/

/-- What is read, with the issues at other places. -/
def relocated (f : List Step → List Step) (read : Except (List Issue) α) : Except (List Issue) α :=
  read.mapError (List.map (·.relocate f))

/-- The other places of issues below a field are those that respelling gives them, and a key that is
no field stays. -/
structure Fields.Traces (fields : Fields α) (places : List Step → Bool)
    (f : List Step → List Step) : Prop where
  own : ∀ given usual path, fields.Owns (.text given) →
    f (.field given usual :: path) = fields.respellPath places given usual path
  key : ∀ k, f [.key k] = [.key k]

variable {f f' : List Step → List Step}

@[simp]
lemma relocated_ok {a : α} : relocated f (.ok a) = .ok a := rfl

@[simp]
lemma relocated_error {issues : List Issue} :
    relocated f (.error issues : Except (List Issue) α) = .error (issues.map (·.relocate f)) := rfl

lemma relocated_self (read : Except (List Issue) α) : relocated (fun path => path) read = read := by
  cases read with
  | ok a => rfl
  | error issues =>
    have same : Issue.relocate (fun path => path) = id := rfl
    simp only [relocated_error, same, List.map_id]

lemma relocated_map {read : Except (List Issue) α} {k : α → β} :
    relocated f (read.map k) = (relocated f read).map k := by
  cases read <;> rfl

lemma conclude_relocate {issues : List Issue} {value : Option α} :
    conclude (issues.map (·.relocate f)) value = relocated f (conclude issues value) := by
  cases issues with
  | nil => cases value <;> rfl
  | cons issue issues => rfl

/-- Issues that move inside move with the step that leads there. -/
lemma map_under_relocate {step step' : Step} (h : ∀ path, f (step :: path) = step' :: f' path)
    (found : List Issue) : (found.map (·.relocate f')).map (·.under step') =
      (found.map (·.under step)).map (·.relocate f) := by
  rw [List.map_map, List.map_map]
  refine List.map_congr_left fun issue _ => ?_
  simp only [Function.comp_apply, Issue.relocate, Issue.under, h]

lemma decodeItems_relocate {read : Document → Except (List Issue) α} {g : Nat → Document → Document}
    {f' : Nat → List Step → List Step} {ds : List Document}
    (inside : ∀ i path, f (.index i :: path) = .index i :: f' i path)
    (alike : ∀ i, ∀ d ∈ ds, read (g i d) = relocated (f' i) (read d)) (j : Nat) :
    decodeItems read j (ds.mapIdx fun i => g (j + i)) =
      ((decodeItems read j ds).1.map (·.relocate f), (decodeItems read j ds).2) := by
  induction ds generalizing j with
  | nil => rfl
  | cons d ds ih =>
    have head := alike j d List.mem_cons_self
    have tail := ih (fun i d hd => alike i d (List.mem_cons_of_mem _ hd)) (j + 1)
    have shift : (fun i => g (j + (i + 1))) = fun i => g (j + 1 + i) :=
      funext fun i => congrArg g (by omega)
    simp only [List.mapIdx_cons, shift, decodeItems, Nat.add_zero, head, tail]
    cases read d with
    | ok a => rfl
    | error found => simp only [relocated_error, map_under_relocate (inside j), List.map_append]

lemma decodeEntries_relocate {read : Document → Except (List Issue) α}
    {g : Scalar × Document → Document} {f' : Scalar → List Step → List Step}
    {entries : List (Scalar × Document)}
    (inside : ∀ k path, f (.key k :: path) = .key k :: f' k path)
    (keyPlace : ∀ k, f' k [.key (.text "[key]")] = [.key (.text "[key]")])
    (alike : ∀ e ∈ entries, read (g e) = relocated (f' e.1) (read e.2)) :
    decodeEntries read (entries.map fun e => (e.1, g e)) =
      ((decodeEntries read entries).1.map (·.relocate f), (decodeEntries read entries).2) := by
  induction entries with
  | nil => rfl
  | cons e entries ih =>
    obtain ⟨head, tail⟩ := List.forall_mem_cons.1 alike
    obtain ⟨k, d⟩ := e
    have key : keyIssues .notText [(k, g (k, d))] =
        (keyIssues .notText [(k, d)]).map (·.relocate f) := by
      cases k <;> simp [keyIssues, Issue.relocate, inside, keyPlace]
    simp only [List.map_cons, decodeEntries, ih tail, head, key]
    cases read d with
    | ok a => cases k <;> simp
    | error found => simp only [relocated_error, map_under_relocate (inside k), List.map_append]

/-! ## Values -/

lemma Shape.respell_eq_null_iff : {α : Type} → {shape : Shape α} → {places : List Step → Bool} →
    {d : Document} → (shape.respell places d = .null ↔ d = .null)
  | _, .text _, _, _ | _, .integer _, _, _ | _, .flag, _, _ | _, .duration, _, _ | _, .moment, _, _
  | _, .choice _ _, _, _ | _, .free, _, _ => Iff.rfl
  | _, .list _, _, .scalar _ | _, .list _, _, .mapping _ => Iff.rfl
  | _, .list _, _, .list _ => ⟨nofun, nofun⟩
  | _, .table _, _, .scalar _ | _, .table _, _, .list _ => Iff.rfl
  | _, .table _, _, .mapping _ => ⟨nofun, nofun⟩
  | _, .optional inner, _, _ => @Shape.respell_eq_null_iff _ inner _ _
  | _, .record .., _, .scalar _ | _, .record .., _, .list _ => Iff.rfl
  | _, .record .., _, .mapping _ => ⟨nofun, nofun⟩

lemma Shape.decode_optional_of_ne {inner : Shape α} {d : Document} (h : d ≠ .null) :
    (Shape.optional inner).decode d = (inner.decode d).map some := by
  cases d with
  | scalar s =>
    cases s with
    | null => exact absurd rfl h
    | _ => rfl
  | _ => rfl

@[simp]
lemma Shape.respellPath_nil : {α : Type} → {shape : Shape α} → {places : List Step → Bool} →
    shape.respellPath places [] = []
  | _, .text _, _ | _, .integer _, _ | _, .flag, _ | _, .duration, _ | _, .moment, _
  | _, .choice _ _, _ | _, .free, _ | _, .list _, _ | _, .table _, _ | _, .record .., _ => rfl
  | _, .optional inner, _ => @Shape.respellPath_nil _ inner _

/-- The mark of a key leads into no field. -/
lemma Shape.respellPath_key : {α : Type} → {shape : Shape α} → {places : List Step → Bool} →
    {k : Scalar} → shape.respellPath places [.key k] = [.key k]
  | _, .text _, _, _ | _, .integer _, _, _ | _, .flag, _, _ | _, .duration, _, _ | _, .moment, _, _
  | _, .choice _ _, _, _ | _, .free, _, _ | _, .list _, _, _ | _, .record .., _, _ => rfl
  | _, .table _, _, k => congrArg (Step.key k :: ·) Shape.respellPath_nil
  | _, .optional inner, _, _ => @Shape.respellPath_key _ inner _ _

section

variable {shape : Shape α} {absent : Option α} {rest : Fields β} {places : List Step → Bool}

/-- An issue below the first field moves with the key of the field. -/
lemma Fields.Traces.head {given usual : String} {path : List Step}
    (h : (Fields.field name other shape absent rest).Traces places f)
    (own : isKeyOf name other (.text given) = true) :
    f (.field given usual :: path) =
      .field (if places [.key (.text given)] then name else given) usual ::
        shape.respellPath (fun path => places (.key (.text given) :: path)) path := by
  rw [h.own given usual path (Fields.owns_field_iff.2 (.inl own))]
  exact if_pos own

/-- Behind the first field, issues are below the fields that are left. -/
lemma Fields.Traces.behind (h : (Fields.field name other shape absent rest).Traces places f)
    (distinct : (Fields.field name other shape absent rest).keys.Nodup) :
    rest.Traces places f where
  own given usual path owned := by
    have foreign : ¬ isKeyOf name other (.text given) = true := fun own =>
      Fields.not_owns_of_isKeyOf distinct own owned
    rw [h.own given usual path (Fields.owns_field_iff.2 (.inr owned))]
    exact if_neg foreign
  key := h.key

end

/-- Unknown keys stay where they are. -/
lemma map_relocate_unknownKeys {used : List String} (h : ∀ k, f [.key k] = [.key k]) :
    (unknownKeys entries used).map (·.relocate f) = unknownKeys entries used := by
  have stays : ∀ issue ∈ unknownKeys entries used, issue.relocate f = issue := by
    intro issue found
    obtain ⟨⟨k, d⟩, -, made⟩ := List.mem_filterMap.1 found
    have place : issue.path = [.key k] := by
      cases k <;> grind
    rw [Issue.relocate, place, h, ← place]
  exact (List.map_congr_left stays).trans (List.map_id _)

mutual

/-- What is read is the same with either key of a field where no record has both, and so is what is
wrong but for the keys that its place shows. -/
theorem Shape.decode_respell : {α : Type} → {shape : Shape α} → {places : List Step → Bool} →
    {d : Document} → shape.isDistinct = true → shape.isUnmixed d = true →
    shape.decode (shape.respell places d) =
      relocated (shape.respellPath places) (shape.decode d)
  | _, .text _, _, _, _, _ | _, .integer _, _, _, _, _ | _, .flag, _, _, _, _
  | _, .duration, _, _, _, _ | _, .moment, _, _, _, _ | _, .choice _ _, _, _, _, _
  | _, .free, _, _, _, _ => (relocated_self _).symm
  | _, .list item, places, .list ds, distinct, unmixed => by
    have inside : ∀ i path, (Shape.list item).respellPath places (.index i :: path) =
        .index i :: item.respellPath (fun path => places (.index i :: path)) path := fun _ _ => rfl
    have items := decodeItems_relocate inside
      (fun i d hd => Shape.decode_respell distinct (List.all_eq_true.1 unmixed d hd)) 0
    simp only [Nat.zero_add] at items
    simp only [Shape.respell, Shape.decode, items, conclude_relocate]
  | _, .list _, _, .scalar _, _, _ | _, .list _, _, .mapping _, _, _ => rfl
  | _, .table value, places, .mapping entries, distinct, unmixed => by
    have inside : ∀ k path, (Shape.table value).respellPath places (.key k :: path) =
        .key k :: value.respellPath (fun path => places (.key k :: path)) path := fun _ _ => rfl
    have values := decodeEntries_relocate inside (fun _ => Shape.respellPath_key) fun e he =>
      Shape.decode_respell distinct (List.all_eq_true.1 unmixed e he)
    simp only [Shape.respell, Shape.decode, values, conclude_relocate]
  | _, .table _, _, .scalar _, _, _ | _, .table _, _, .list _, _, _ => rfl
  | _, .optional inner, places, d, distinct, unmixed => by
    by_cases null : d = .null
    · rw [Shape.respell_eq_null_iff.2 null, null]
      rfl
    · rw [Shape.decode_optional_of_ne (mt Shape.respell_eq_null_iff.1 null),
        Shape.decode_optional_of_ne null, relocated_map]
      exact congrArg (Except.map some) (@Shape.decode_respell _ inner _ _ distinct unmixed)
  | _, .record title closed fields make parts, places, .mapping entries, distinct, unmixed => by
    obtain ⟨nodup, distinct⟩ := Bool.and_eq_true_iff.1 distinct
    obtain ⟨once, unmixed⟩ := Bool.and_eq_true_iff.1 unmixed
    have nodup := of_decide_eq_true nodup
    have follows : fields.Follows places (fields.respell places) := Fields.follows_respell
    let f := (Shape.record title closed fields make parts).respellPath places
    have traces : fields.Traces places f := ⟨fun _ _ _ _ => rfl, fun _ => rfl⟩
    have decoded := Fields.decode_respell nodup distinct follows traces once unmixed
    have unknown : unknownKeys (entries.map (fields.respell places))
        (fields.usedKeys (entries.map (fields.respell places))) =
          unknownKeys entries (fields.usedKeys entries) := by
      rw [Fields.unknownKeys_usedKeys once, Fields.unknownKeys_usedKeys
        (Fields.areSpelledOnce_map nodup follows once), Fields.unknownKeys_respell]
    have issues : (fields.decode entries).1.map (·.relocate f) ++
        (if closed then unknownKeys entries (fields.usedKeys entries) else []) =
          ((fields.decode entries).1 ++
            if closed then unknownKeys entries (fields.usedKeys entries) else []).map
              (·.relocate f) := by
      rw [List.map_append, apply_ite (List.map _), map_relocate_unknownKeys fun _ => rfl,
        List.map_nil]
    simp only [Shape.respell, Shape.decode, decoded, unknown, issues, conclude_relocate]
    cases conclude _ (fields.decode entries).2 with
    | error found => rfl
    | ok tuple =>
      simp only [relocated_ok]
      cases make tuple <;> rfl
  | _, .record .., _, .scalar _, _, _ | _, .record .., _, .list _, _, _ => rfl

/-- What is found for each field of a respelled mapping is read as before. -/
theorem Fields.decode_respell : {α : Type} → {fields : Fields α} → {places : List Step → Bool} →
    {entries : List (Scalar × Document)} → {g : Scalar × Document → Scalar × Document} →
    {f : List Step → List Step} → fields.keys.Nodup → fields.areDistinct = true →
    fields.Follows places g → fields.Traces places f → fields.areSpelledOnce entries = true →
    fields.areUnmixed entries = true → fields.decode (entries.map g) =
      ((fields.decode entries).1.map (·.relocate f), (fields.decode entries).2)
  | _, .done, _, _, _, _, _, _, _, _, _, _ => rfl
  | _, .field name other shape absent rest, places, entries, g, f, nodup, distinct, follows, traces,
      once, unmixed => by
    obtain ⟨distinct, distinctRest⟩ := Bool.and_eq_true_iff.1 distinct
    obtain ⟨once, onceRest⟩ := Bool.and_eq_true_iff.1 once
    obtain ⟨unmixed, unmixedRest⟩ := Bool.and_eq_true_iff.1 unmixed
    have behind := Fields.decode_respell (Fields.nodup_rest nodup) distinctRest
      (follows.behind nodup) (traces.behind nodup) onceRest unmixedRest
    cases found : findField entries name other with
    | none =>
      have found' := follows.findField_eq_none nodup once found
      cases absent with
      | some a => simp only [Fields.decode, behind, found, found']
      | none =>
        simp only [Fields.decode, behind, found, found', List.map_cons, Issue.relocate, traces.key]
    | some f =>
      obtain ⟨given, d⟩ := f
      have own : isKeyOf name other (.text given) = true :=
        isKeyOf_iff.2 ⟨given, key_of_findField found, rfl⟩
      have found' := follows.findField_eq_some nodup once found
      rw [found] at unmixed
      simp only [Fields.decode, behind, found, found', Shape.decode_respell distinct unmixed]
      cases shape.decode d with
      | ok a => rfl
      | error issues =>
        simp only [relocated_error, map_under_relocate fun _ => traces.head own, List.map_append]

end

/-- What is read from a respelled document is the same, or what is wrong has respelled places. -/
theorem Shape.read_respell {shape : Shape α} {places : List Step → Bool} {d : Document}
    (distinct : shape.isDistinct = true) (unmixed : shape.isUnmixed d = true) :
    shape.read (shape.respell places d) =
      (shape.read d).mapError (·.relocate (shape.respellPath places)) := by
  rw [Shape.read, Shape.decode_respell distinct unmixed, Shape.read]
  cases shape.decode d <;> rfl

end Chartwright.Schema
