import Chartwright.Proofs.Schema.Admission

/-!
# Round trips of shapes

Where nothing is lost when a value is written down and read again. Fields that have their defaults
may be left out of what is written.
-/

namespace Chartwright

/-- A document without some of its entries. -/
def Document.without (keys : List String) : Document → Document
  | .mapping entries => .mapping (entries.filter fun e => e.1 ∉ keys.map Scalar.text)
  | d => d

lemma Document.without_object (keys : List String) (entries : Dict String Document) :
    (Document.object entries).without keys = .object (entries.filter (·.1 ∉ keys)) := by
  simp only [Document.object, without, List.filter_map]
  congr 2
  have texts : Function.Injective Scalar.text := fun _ _ => Scalar.text.inj
  refine List.filter_congr fun e _ => decide_eq_decide.2 (not_congr ?_)
  exact List.mem_map_of_injective texts

namespace Schema

variable {α β : Type}

mutual

/-- The values of a shape are read as they are written. Times are left aside. -/
@[simp]
def Shape.Reversible : {α : Type} → Shape α → Prop
  | _, .text _ | _, .integer _ | _, .flag | _, .free => True
  | _, .duration | _, .moment => False
  | _, .choice options name =>
    ∀ s a, options.lookup s = some a → options.lookup (name a) = some a
  | _, .list item => item.Reversible
  | _, .table value => value.Reversible
  | _, .optional inner => inner.isOptional = false ∧ inner.Reversible
  | _, .record _ _ fields make parts =>
    fields.keys.Nodup ∧ fields.Defaulted ∧ fields.Reversible [] ∧
      ∀ tuple b, make tuple = .ok b → parts b = tuple

/-- The fields that are not omitted are read as they are written. -/
@[simp]
def Fields.Reversible : {α : Type} → Fields α → List String → Prop
  | _, .done, _ => True
  | _, .field name _ shape _ rest, omitted =>
    (name ∉ omitted → shape.Reversible) ∧ rest.Reversible omitted

end

/-- The fields that are omitted have their defaults. -/
def Fields.AtDefault : {α : Type} → Fields α → List String → α → Prop
  | _, .done, _, _ => True
  | _, .field name _ _ absent rest, omitted, (a, tuple) =>
    (name ∈ omitted → absent = some a) ∧ rest.AtDefault omitted tuple

/-- The fields that are omitted have no entry. -/
@[simp]
def Fields.Missing : {α : Type} → Fields α → List String → List (Scalar × Document) → Prop
  | _, .done, _, _ => True
  | _, .field name other _ _ rest, omitted, entries =>
    (name ∈ omitted → findField entries name other = none) ∧ rest.Missing omitted entries

lemma Shape.read_ok_iff {shape : Shape α} {d : Document} {a : α} :
    shape.read d = .ok a ↔ shape.decode d = .ok a :=
  Outcome.mapError_ok_iff

@[simp]
lemma Shape.admits_none {inner : Shape α} : (Shape.optional inner).Admits none := ⟨.null, rfl⟩

lemma Fields.atDefault_nil : {α : Type} → {fields : Fields α} → {tuple : α} →
    fields.AtDefault [] tuple
  | _, .done, _ => trivial
  | _, .field _ _ _ _ _, (_, _) => ⟨fun h => absurd h List.not_mem_nil, Fields.atDefault_nil⟩

/-- Where there is no entry, the default is read. -/
lemma Fields.atDefault_of_decode : {α : Type} → {fields : Fields α} → {omitted : List String} →
    {entries : List (Scalar × Document)} → {tuple : α} → fields.Missing omitted entries →
    (fields.decode entries).2 = some tuple → fields.AtDefault omitted tuple
  | _, .done, _, _, _, _, _ => trivial
  | _, .field name other shape absent rest, omitted, entries, (a, tuple), missing, h => by
    obtain ⟨none, missing⟩ := missing
    unfold Fields.decode at h
    simp only at h
    split at h
    next k d hd =>
      have present : name ∉ omitted := by
        intro ho
        rw [none ho] at hd
        cases hd
      split at h
      next b hb =>
        obtain ⟨t, ht, e⟩ := Option.map_eq_some_iff.1 h
        cases e
        exact ⟨fun ho => absurd ho present, Fields.atDefault_of_decode missing ht⟩
      next => cases h
    next b _ _ =>
      obtain ⟨t, ht, e⟩ := Option.map_eq_some_iff.1 h
      cases e
      exact ⟨fun _ => rfl, Fields.atDefault_of_decode missing ht⟩
    next => cases h

mutual

/-- What is written for an admitted value is read as it. -/
theorem Shape.decode_encode : {α : Type} → {shape : Shape α} → {a : α} → shape.Reversible →
    shape.Admits a → shape.decode (shape.encode a) = .ok a
  | _, .text _, _, _, h => atHere_ok_iff.2 (Shape.admits_text_iff.1 h)
  | _, .integer _, _, _, h =>
    atHere_ok_iff.2 (checkBounds_ok_iff.2 ⟨rfl, Shape.admits_integer_iff.1 h⟩)
  | _, .flag, _, _, _ => rfl
  | _, .duration, _, reversible, _ => reversible.elim
  | _, .moment, _, reversible, _ => reversible.elim
  | _, .choice options name, a, reversible, h => by
    obtain ⟨d, h⟩ := h
    unfold Shape.decode at h
    split at h
    next s =>
      split at h
      next b found =>
        cases h
        simp only [Shape.encode, Shape.decode, reversible s a found]
      next => cases h
    next => cases h
  | _, .free, entries, _, _ => by
    simp only [Shape.encode, Document.object, Shape.decode, keyIssues_object, textKeys_object,
      conclude]
  | _, .list item, values, reversible, h => by
    have items : List.Forall₂ (fun d a => item.decode d = .ok a) (values.map item.encode) values :=
      List.forall₂_map_left_iff.2 (List.forall₂_same.2 fun a ha =>
        Shape.decode_encode reversible (Shape.admits_list_iff.1 h a ha))
    simp only [Shape.encode, Shape.decode, decodeItems_of_forall₂ items, conclude]
  | _, .table value, entries, reversible, h => by
    have read : List.Forall₂ (fun p e => p.1 = e.1 ∧ value.decode p.2 = .ok e.2)
        (entries.map fun (k, v) => (k, value.encode v)) entries :=
      List.forall₂_map_left_iff.2 (List.forall₂_same.2 fun e he =>
        ⟨rfl, Shape.decode_encode reversible (Shape.admits_table_iff.1 h e he)⟩)
    simp only [Shape.encode, Document.object, Shape.decode, decodeEntries_object read, conclude]
  | _, .optional inner, none, _, _ => rfl
  | _, .optional inner, some a, reversible, h => by
    obtain ⟨plain, reversible⟩ := reversible
    have read := Shape.decode_encode reversible
      ((Shape.admits_optional_iff inner plain).1 h a rfl)
    unfold Shape.decode
    split
    next e =>
      have null : inner.encode a = .null := e
      rw [null] at read
      exact absurd read (Shape.decode_null_ne plain a)
    next => exact Outcome.map_ok_iff.2 ⟨a, read, rfl⟩
  | _, .record _ _ fields make parts, b, reversible, h => by
    obtain ⟨distinct, defaulted, reversible, whole⟩ := reversible
    obtain ⟨tuple, admitted, hb⟩ := (Shape.admits_record_iff defaulted distinct).1 h
    have written := Fields.written_encode reversible admitted Fields.atDefault_nil
    rw [List.filter_eq_self.2 fun e _ => decide_eq_true List.not_mem_nil] at written
    simp only [Shape.encode, whole tuple b hb]
    exact Shape.decode_record_of_written distinct written hb

/-- What is written for admitted fields, but for some that have their defaults, is a way to write
these fields. -/
theorem Fields.written_encode : {α : Type} → {fields : Fields α} → {omitted : List String} →
    {tuple : α} → fields.Reversible omitted → fields.Admits tuple → fields.AtDefault omitted tuple →
    fields.Written ((fields.encode tuple).filter (·.1 ∉ omitted)) tuple
  | _, .done, _, _, _, _, _ => rfl
  | _, .field name _ shape absent rest, omitted, (a, tuple), reversible, admitted, default => by
    have rest := Fields.written_encode reversible.2 admitted.2 default.2
    by_cases ho : name ∈ omitted
    · refine .inr ⟨default.1 ho, ?_⟩
      simp only [Fields.encode]
      rw [List.filter_cons_of_neg]
      · exact rest
      · simpa using ho
    · refine .inl ⟨shape.encode a, _, ?_, Shape.decode_encode (reversible.1 ho) admitted.1, rest⟩
      simp only [Fields.encode]
      rw [List.filter_cons_of_pos]
      simpa using ho

end

/-- A record is read as it is written where the fields are left out that had no entry. -/
lemma Shape.decode_without {title : String} {closed : Bool} {fields : Fields α}
    {make : α → Except String β} {parts : β → α} {omitted : List String}
    {entries : List (Scalar × Document)} {b : β} (distinct : fields.keys.Nodup)
    (defaulted : fields.Defaulted) (reversible : fields.Reversible omitted)
    (whole : ∀ tuple b, make tuple = .ok b → parts b = tuple)
    (missing : fields.Missing omitted entries)
    (h : (Shape.record title closed fields make parts).decode (.mapping entries) = .ok b) :
    (Shape.record title closed fields make parts).decode
      (((Shape.record title closed fields make parts).encode b).without omitted) = .ok b := by
  obtain ⟨_, tuple, e, ht, hb⟩ := Shape.decode_record_ok h
  cases e
  simp only [Shape.encode, whole tuple b hb, Document.without_object]
  exact Shape.decode_record_of_written distinct (Fields.written_encode reversible
    (Fields.admits_of_decode defaulted ht) (Fields.atDefault_of_decode missing ht)) hb

end Schema

end Chartwright
