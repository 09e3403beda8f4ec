import Chartwright.Proofs.Procfile.RoundTrip

/-!
# The grammar of procfiles

What a text says as a procfile, without regard to how it is read: which of its lines define a
process, and what the processes are that all lines define together. Just this is what is read.
-/

namespace Chartwright.Procfile

/-- A line defines a process: the name is what its trimmed text has before the first colon, and the
command is what it has behind it, trimmed as well. -/
structure Defines (line : List Char) (name command : String) : Prop where
  before : (Text.strip line).takeWhile (· ≠ ':') = name.toList
  named : name ≠ ""
  name_chars : ∀ c ∈ name.toList, isNameChar c = true
  behind : Text.strip ((Text.strip line).dropWhile (· ≠ ':')).tail = command.toList
  given : command ≠ ""

/-- Some line of a text defines a process of a name. -/
def Defined (lines : List (List Char)) (name : String) : Prop :=
  ∃ line ∈ lines, ∃ command, Defines line name command

/-- A name is defined by a line before any that defines another. -/
inductive Earlier (name later : String) : List (List Char) → Prop where
  | here {line lines command} :
    Defines line name command →
    name ≠ later →
    Earlier name later (line :: lines)
  | there {line lines} :
    (∀ command, ¬ Defines line later command) →
    Earlier name later lines →
    Earlier name later (line :: lines)

/-- A command is that of the last line that defines a name. -/
inductive LastDefines (name command : String) : List (List Char) → Prop where
  | here {line lines} :
    Defines line name command →
    ¬ Defined lines name →
    LastDefines name command (line :: lines)
  | there {line lines} :
    LastDefines name command lines →
    LastDefines name command (line :: lines)

/-- The procfile that some lines say. -/
structure Reads (lines : List (List Char)) (p : Procfile) : Prop where
  names : ∀ name, name ∈ Dict.keys p.processes ↔ Defined lines name
  ordered : (Dict.keys p.processes).Pairwise (Earlier · · lines)
  commands : ∀ e ∈ p.processes, ∃ command, e.2 = [command] ∧ LastDefines e.1 command lines
  routable : Routes (Dict.keys p.processes) p.routable

variable {line : List Char} {lines : List (List Char)} {name later command : String}

/-! ## Lines -/

lemma ne_colon_of_isNameChar {c : Char} (h : isNameChar c = true) : c ≠ ':' := by
  rintro rfl
  exact absurd h (by decide)

/-- What is read from a line is what it defines. -/
lemma definition?_iff_defines :
    definition? line = some (name, command) ↔ Defines line name command := by
  rw [definition?_eq_some_iff]
  constructor
  · rintro ⟨named, chars, given', rest, hl, hr⟩
    have plain : ∀ c ∈ name.toList, decide (c ≠ ':') = true := fun c hc =>
      decide_eq_true (ne_colon_of_isNameChar (chars c hc))
    refine ⟨?_, named, chars, ?_, given'⟩
    · rw [hl, List.takeWhile_append_of_pos plain, List.takeWhile_cons_of_neg (by decide),
        List.append_nil]
    · rw [hl, List.dropWhile_append_of_pos plain, List.dropWhile_cons_of_neg (by decide),
        List.tail_cons, hr]
  · rintro ⟨before, named, chars, behind, given'⟩
    refine ⟨named, chars, given', ((Text.strip line).dropWhile (· ≠ ':')).tail, ?_, behind⟩
    -- there is a colon, since there is a command behind it
    cases hd : (Text.strip line).dropWhile (· ≠ ':') with
    | nil =>
      rw [hd] at behind
      exact absurd (String.toList_eq_nil_iff.1 behind.symm) given'
    | cons c rest =>
      have colon : c = ':' := by
        have stop := List.head?_dropWhile_not (· ≠ ':') (Text.strip line)
        rw [hd] at stop
        simpa using stop
      have whole := List.takeWhile_append_dropWhile (p := (· ≠ ':')) (l := Text.strip line)
      rw [before, hd, colon] at whole
      exact whole.symm

lemma defines_iff_map (line : List Char) (name : String) :
    (∃ command, Defines line name command) ↔
      ∃ value, (definition? line).map (fun (name, command) => (name, [command])) =
        some (name, value) := by
  constructor
  · rintro ⟨command, d⟩
    exact ⟨[command], by rw [definition?_iff_defines.2 d]; rfl⟩
  · rintro ⟨value, h⟩
    obtain ⟨⟨n, command⟩, hd, e⟩ := Option.map_eq_some_iff.1 h
    cases e
    exact ⟨command, definition?_iff_defines.1 hd⟩

lemma Defines.unique {name' command' : String} (h : Defines line name command)
    (h' : Defines line name' command') : name = name' ∧ command = command' :=
  ⟨String.toList_inj.1 (h.before.symm.trans h'.before),
    String.toList_inj.1 (h.behind.symm.trans h'.behind)⟩

lemma LastDefines.defined (h : LastDefines name command lines) : Defined lines name := by
  induction h with
  | here d => exact ⟨_, List.mem_cons_self, _, d⟩
  | there _ ih =>
    obtain ⟨l, hl, d⟩ := ih
    exact ⟨l, List.mem_cons_of_mem _ hl, d⟩

/-- There is one last command at most. -/
lemma LastDefines.unique {command' : String} (h : LastDefines name command lines)
    (h' : LastDefines name command' lines) : command = command' := by
  induction h with
  | here d none =>
    cases h' with
    | here d' => exact (d.unique d').2
    | there h' => exact absurd h'.defined none
  | there h ih =>
    cases h' with
    | here _ none => exact absurd h.defined none
    | there h' => exact ih h'

/-- A name comes earlier just where the lines give it sooner. -/
lemma earlier_iff_sooner : Earlier name later lines ↔
    Dict.Sooner (fun line name => ∃ command, Defines line name command) name later lines := by
  constructor
  · intro h
    induction h with
    | here d differ => exact .here ⟨_, d⟩ differ
    | there none _ ih => exact .there (not_exists.2 none) ih
  · intro h
    induction h with
    | here d differ =>
      obtain ⟨command, d⟩ := d
      exact .here d differ
    | there none _ ih => exact .there (not_exists.1 none) ih

/-- Of two names, one at most comes earlier. -/
lemma Earlier.asymm (h : Earlier name later lines) : ¬ Earlier later name lines := by
  rw [earlier_iff_sooner] at h ⊢
  refine h.asymm fun line name name' d d' => ?_
  obtain ⟨command, d⟩ := d
  obtain ⟨command', d'⟩ := d'
  exact (d.unique d').1

/-! ## All lines -/

/-- The entries that are read from some lines. -/
lemma mem_filterMap_definition? : (name, command) ∈ lines.filterMap definition? ↔
    ∃ line ∈ lines, Defines line name command := by
  simp only [List.mem_filterMap, definition?_iff_defines]

lemma mem_names_iff : name ∈ (lines.filterMap definition?).map (·.1) ↔ Defined lines name := by
  constructor
  · intro h
    obtain ⟨⟨n, command⟩, hd, rfl⟩ := List.mem_map.1 h
    obtain ⟨line, hl, d⟩ := mem_filterMap_definition?.1 hd
    exact ⟨line, hl, command, d⟩
  · rintro ⟨line, hl, command, d⟩
    exact List.mem_map.2 ⟨(name, command), mem_filterMap_definition?.2 ⟨line, hl, d⟩, rfl⟩

/-- The last entry of a name is that of the last line that defines it. -/
lemma lastDefines_of_get?
    (h : Dict.get? (lines.filterMap definition?).reverse name = some command) :
    LastDefines name command lines := by
  induction lines with
  | nil => cases h
  | cons line lines ih =>
    cases hd : definition? line with
    | none =>
      rw [List.filterMap_cons_none hd] at h
      exact .there (ih h)
    | some e =>
      obtain ⟨n, c⟩ := e
      have d := definition?_iff_defines.1 hd
      rw [List.filterMap_cons_some hd, List.reverse_cons, Dict.get?_append] at h
      cases hl : Dict.get? (lines.filterMap definition?).reverse name with
      | some c' =>
        rw [hl] at h
        cases h
        exact .there (ih hl)
      | none =>
        have none : ¬ Defined lines name := by
          rw [← mem_names_iff, ← List.mem_reverse, ← List.map_reverse]
          exact Dict.get?_eq_none_iff.1 hl
        rw [hl, Option.none_or, Dict.get?] at h
        split at h
        case isTrue e =>
          subst e
          cases h
          exact .here d none
        case isFalse => cases h

/-! ## Texts -/

/-- The processes of a text have the names that its lines define. -/
lemma mem_keys_iff_defined {text : String} :
    name ∈ Dict.keys (Dict.ofList ((definitions text).map fun (name, command) => (name, [command])))
      ↔ Defined (Text.splitLines text.toList) name := by
  rw [Dict.mem_keys_ofList, List.map_map]
  exact mem_names_iff

/-- What is read from a text is what its lines say. -/
lemma reads_of_parse {text : String} {p : Procfile} (h : parse text = .ok p) :
    Reads (Text.splitLines text.toList) p := by
  obtain ⟨hp, routable⟩ := ofProcesses_ok_iff.1 h
  have distinct : (Dict.keys p.processes).Nodup := (processes_of_parse h).1
  rw [← hp] at routable
  refine ⟨fun name => ?_, ?_, fun e he => ?_, routes_of_routableName? routable⟩
  · rw [hp]
    exact mem_keys_iff_defined
  · have order := Dict.keys_ofList_sooner defines_iff_map (Text.splitLines text.toList)
    rw [← List.map_filterMap] at order
    rw [hp]
    exact order.imp earlier_iff_sooner.2
  · have found := Dict.get?_of_mem distinct he
    rw [hp, Dict.get?_ofList, ← List.map_reverse,
      Dict.get?_map_snd fun command => [command]] at found
    obtain ⟨command, last, only⟩ := Option.map_eq_some_iff.1 found
    exact ⟨command, only.symm, lastDefines_of_get? last⟩

/-- Some lines say one procfile at most. -/
lemma Reads.unique {p q : Procfile} (h : Reads lines p) (h' : Reads lines q) : p = q := by
  refine eq_of_ordered (fun _ _ first => first.asymm) h.ordered h'.ordered
    (fun name => (h.names name).trans (h'.names name).symm) ?_ h.routable h'.routable
  intro name v w hv hw
  obtain ⟨command, rfl, last⟩ := h.commands _ hv
  obtain ⟨command', rfl, last'⟩ := h'.commands _ hw
  rw [last.unique last']

/-- A text is refused where no line defines a process, and for no other reason. -/
lemma parse_error_iff {text : String} {problem : Problem} : parse text = .error problem ↔
    problem = .empty ∧ ∀ name, ¬ Defined (Text.splitLines text.toList) name := by
  simp only [← mem_keys_iff_defined, ← List.eq_nil_iff_forall_not_mem]
  rw [parse, ofProcesses_error_iff, Dict.keys, List.map_eq_nil_iff]

/-- What is read from a text is what its lines say as a procfile. Where no line defines a process
there is none, and it is refused as empty. -/
theorem parse_iff_reads (text : String) :
    (∀ p, parse text = .ok p ↔ Reads (Text.splitLines text.toList) p) ∧
      ∀ problem, parse text = .error problem ↔
        problem = .empty ∧ ∀ name, ¬ Defined (Text.splitLines text.toList) name := by
  refine ⟨fun p => ⟨reads_of_parse, fun h => ?_⟩, fun problem => parse_error_iff⟩
  cases hp : parse text with
  | ok q => rw [(reads_of_parse hp).unique h]
  | error problem =>
    have defined := (h.names p.routable).1 h.routable.present
    exact absurd defined ((parse_error_iff.1 hp).2 p.routable)

end Chartwright.Procfile
