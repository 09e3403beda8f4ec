import Mathlib.Data.List.Basic
import Mathlib.Tactic.Lemma
import Chartwright.Text.Bytes

/-!
# Bytes of text files

What reading a file as a text and writing the text again makes of its bytes: carriage returns are
turned into newlines, and all other bytes stay as they are. So a file is written as it was read just
where it has no carriage return.
-/

namespace Chartwright.Text

/-- Turns a carriage return, with or without a newline behind it, into a newline. -/
def unifyNewlineBytes : List UInt8 → List UInt8
  | [] => []
  | 13 :: 10 :: rest => 10 :: unifyNewlineBytes rest
  | b :: rest => (if b = 13 then 10 else b) :: unifyNewlineBytes rest

/-- The bytes of a file with newlines in place of carriage returns. -/
def unified (content : ByteArray) : ByteArray :=
  ⟨(unifyNewlineBytes content.data.toList).toArray⟩

lemma unifyNewlineBytes_cons {b : UInt8} (h : b ≠ 13) (bs : List UInt8) :
    unifyNewlineBytes (b :: bs) = b :: unifyNewlineBytes bs := by
  rw [unifyNewlineBytes, if_neg h]
  rintro _ rfl
  exact absurd rfl h

/-- Bytes without a carriage return stay as they are. -/
lemma unifyNewlineBytes_append {bs : List UInt8} (h : 13 ∉ bs) (rest : List UInt8) :
    unifyNewlineBytes (bs ++ rest) = bs ++ unifyNewlineBytes rest := by
  induction bs with
  | nil => rfl
  | cons b bs ih =>
    obtain ⟨hb, hbs⟩ := not_or.1 (mt List.mem_cons.2 h)
    rw [List.cons_append, unifyNewlineBytes_cons (Ne.symm hb), ih hbs]
    rfl

lemma head?_unifyNewlineBytes (rest : List UInt8) :
    (unifyNewlineBytes (13 :: rest)).head? = some 10 := by
  unfold unifyNewlineBytes
  split <;> simp_all

lemma unifyNewlineBytes_eq_self_iff {bs : List UInt8} : unifyNewlineBytes bs = bs ↔ 13 ∉ bs := by
  constructor
  · intro same mem
    obtain ⟨before, rest, rfl, first⟩ := List.eq_append_cons_of_mem mem
    rw [unifyNewlineBytes_append first] at same
    have head := head?_unifyNewlineBytes rest
    rw [List.append_cancel_left same] at head
    cases head
  · intro h
    have e := unifyNewlineBytes_append h []
    rw [List.append_nil] at e
    rw [e]
    exact List.append_nil bs

/-- A byte below 128 is that of a character of ASCII. -/
lemma toNat_of_mem_utf8EncodeChar {c : Char} {b : UInt8} (h : b ∈ String.utf8EncodeChar c)
    (small : b.toNat < 128) : c.toNat = b.toNat := by
  unfold String.utf8EncodeChar at h
  simp only at h
  split at h
  case isTrue ascii =>
    rw [List.mem_singleton] at h
    rw [h, UInt8.toNat_ofNat', Nat.mod_eq_of_lt (by omega)]
    rfl
  case isFalse =>
    -- all bytes of other characters have their highest bit set
    exfalso
    split at h
    case isTrue =>
      simp only [List.mem_cons, List.not_mem_nil, or_false] at h
      rcases h with rfl | rfl <;> · rw [UInt8.toNat_ofNat'] at small; omega
    case isFalse =>
      split at h <;> simp only [List.mem_cons, List.not_mem_nil, or_false] at h
      · rcases h with rfl | rfl | rfl <;> · rw [UInt8.toNat_ofNat'] at small; omega
      · rcases h with rfl | rfl | rfl | rfl <;> · rw [UInt8.toNat_ofNat'] at small; omega

/-- Only a carriage return has its byte. -/
lemma not_mem_utf8EncodeChar {c : Char} (h : c ≠ '\x0d') : 13 ∉ String.utf8EncodeChar c := by
  intro mem
  have e : c.toNat = '\x0d'.toNat := toNat_of_mem_utf8EncodeChar mem (by decide)
  exact h (Char.toNat_inj.1 e)

/-- The bytes of a text start with a newline where its characters do. -/
lemma head?_flatMap_utf8EncodeChar {cs : List Char} {rest : List UInt8}
    (h : cs.flatMap String.utf8EncodeChar = 10 :: rest) : ∃ cs', cs = '\n' :: cs' := by
  cases cs with
  | nil => cases h
  | cons c cs =>
    have mem : 10 ∈ String.utf8EncodeChar c := by
      rw [List.flatMap_cons] at h
      cases hc : String.utf8EncodeChar c with
      | nil => exact absurd hc String.utf8EncodeChar_ne_nil
      | cons b bs =>
        rw [hc] at h
        rw [(List.cons.inj h).1]
        exact List.mem_cons_self
    have e : c.toNat = '\n'.toNat := toNat_of_mem_utf8EncodeChar mem (by decide)
    exact ⟨cs, by rw [Char.toNat_inj.1 e]⟩

/-- Unifying the line ends of a text unifies those of its bytes. -/
lemma flatMap_unifyNewlines (cs : List Char) :
    (unifyNewlines cs).flatMap String.utf8EncodeChar =
      unifyNewlineBytes (cs.flatMap String.utf8EncodeChar) := by
  have newline : String.utf8EncodeChar '\n' = [10] := rfl
  have carriage : String.utf8EncodeChar '\x0d' = [13] := rfl
  induction cs using unifyNewlines.induct with
  | case1 => rfl
  | case2 rest ih =>
    rw [unifyNewlines, List.flatMap_cons, List.flatMap_cons, List.flatMap_cons, newline, carriage,
      ih]
    rfl
  | case3 c rest single ih =>
    rw [unifyNewlines, List.flatMap_cons, List.flatMap_cons, ih]
    · split
      case isTrue h =>
        subst h
        rw [newline, carriage, List.singleton_append, List.singleton_append, unifyNewlineBytes]
        · rfl
        · intro bytes _ e
          obtain ⟨cs', rfl⟩ := head?_flatMap_utf8EncodeChar e
          exact single cs' rfl rfl
      case isFalse h => exact (unifyNewlineBytes_append (not_mem_utf8EncodeChar h) _).symm
    · exact single

/-- The bytes of a text are those of its characters. -/
lemma encode_ofList (cs : List Char) :
    encode (String.ofList cs) = ⟨(cs.flatMap String.utf8EncodeChar).toArray⟩ := by
  have e : encode (String.ofList cs) = (cs.flatMap String.utf8EncodeChar).toByteArray :=
    String.toByteArray_ofList
  rw [e]
  exact ByteArray.ext List.data_toByteArray

/-- A file is a text where its bytes are UTF-8. -/
lemma isSome_decode?_iff {content : ByteArray} :
    (decode? content).isSome ↔ content.IsValidUTF8 := by
  unfold decode? String.fromUTF8?
  split
  case isTrue h => simp [h]
  case isFalse h => simp [h]

/-- The text of a file is written with newlines in place of carriage returns. -/
lemma encode_of_decode? {content : ByteArray} {text : String} (h : decode? content = some text) :
    encode text = unified content := by
  obtain ⟨s, read, rfl⟩ := Option.map_eq_some_iff.1 h
  have bytes : content = encode s := by
    unfold String.fromUTF8? at read
    split at read
    case isTrue =>
      cases read
      rfl
    case isFalse => cases read
  rw [bytes, ← String.ofList_toList (s := s), encode_ofList, encode_ofList, String.toList_ofList,
    flatMap_unifyNewlines]
  rfl

/-- A file is written as it was read just where it has no carriage return. -/
lemma unified_eq_self_iff {content : ByteArray} :
    unified content = content ↔ 13 ∉ content.data := by
  rw [← Array.mem_toList_iff, ← unifyNewlineBytes_eq_self_iff]
  constructor
  · intro h
    exact congrArg (fun b : ByteArray => b.data.toList) h
  · intro h
    unfold unified
    rw [h]

end Chartwright.Text
