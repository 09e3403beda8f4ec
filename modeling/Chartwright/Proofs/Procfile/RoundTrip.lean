import Mathlib.Data.List.TakeDrop
import Chartwright.Proofs.Procfile
import Chartwright.Proofs.Text.Lines

/-!
# Round trips of procfiles

Which processes a procfile can hold: those whose name has name characters alone and whose command,
joined by spaces, is one trimmed line. Just these are read as they were written, and whatever
was read from a text can be written and is read again as it was.
-/

namespace Chartwright

/-- The command of a process on one line. -/
def ProcessSpec.commandLine (spec : ProcessSpec) : String := " ".intercalate spec.command

namespace Procfile

/-- A line of a procfile can hold a name and a command. -/
structure Writable (name command : String) : Prop where
  named : name ≠ ""
  name_chars : ∀ c ∈ name.toList, isNameChar c = true
  given : command ≠ ""
  trimmed : Text.strip command.toList = command.toList
  unbroken : ∀ c ∈ command.toList, Text.isLineBreak c = false

/-- The processes of some specifications, each with its command on one line. -/
def listed (specs : List ProcessSpec) : Dict String (List String) :=
  specs.map fun spec => (spec.name, [spec.commandLine])

/-- The processes of a procfile as specifications that say nothing else. -/
def specs (p : Procfile) : List ProcessSpec :=
  p.processes.map fun (name, command) => ⟨name, command, none, [], none, [], [], none⟩

/-! ## Lines -/

/-- Name characters are not blank. -/
lemma isBlank_of_isNameChar {c : Char} (h : isNameChar c = true) : Text.isBlank c = false := by
  have bounds : 33 ≤ c.toNat ∧ c.toNat ≤ 126 := by
    simp only [isNameChar, Text.isDigit, Bool.or_eq_true, Bool.and_eq_true, decide_eq_true_eq] at h
    rcases h with (((⟨hl, hu⟩ | ⟨hl, hu⟩) | ⟨hl, hu⟩) | rfl) | rfl
    · exact ⟨.trans (by decide) hl, .trans hu (by decide)⟩
    · exact ⟨.trans (by decide) hl, .trans hu (by decide)⟩
    · exact ⟨.trans (by decide) hl, .trans hu (by decide)⟩
    · decide
    · decide
  exact Text.isBlank_of_graphic bounds.1 bounds.2

/-- Name characters end no line. -/
lemma isLineBreak_of_isNameChar {c : Char} (h : isNameChar c = true) :
    Text.isLineBreak c = false := by
  by_contra hb
  have blank := Text.isBlank_of_isLineBreak (Bool.eq_true_of_not_eq_false hb)
  rw [isBlank_of_isNameChar h] at blank
  cases blank

/-- A line defines what its trimmed text has before and behind the first colon. -/
lemma definition?_eq_some_iff {line : List Char} {name command : String} :
    definition? line = some (name, command) ↔
      name ≠ "" ∧ (∀ c ∈ name.toList, isNameChar c = true) ∧ command ≠ "" ∧
        ∃ rest, Text.strip line = name.toList ++ ':' :: rest ∧
          Text.strip rest = command.toList := by
  unfold definition?
  simp only [List.span_eq_takeWhile_dropWhile]
  constructor
  · intro h
    split at h
    next n ns rest hn hr =>
      split at h
      case isTrue => cases h
      case isFalse hne =>
        cases h
        simp only [ne_eq, String.ofList_eq_empty_iff, String.toList_ofList]
        refine ⟨by simp [hn], fun c => List.mem_takeWhile_imp, hne, rest, ?_, rfl⟩
        rw [← hr, List.takeWhile_append_dropWhile]
    next => cases h
  · rintro ⟨named, chars, given', rest, hl, hr⟩
    have name' : (Text.strip line).takeWhile isNameChar = name.toList := by
      rw [hl, List.takeWhile_append_of_pos chars, List.takeWhile_cons_of_neg (by decide),
        List.append_nil]
    have behind : (Text.strip line).dropWhile isNameChar = ':' :: rest := by
      rw [hl, List.dropWhile_append_of_pos chars, List.dropWhile_cons_of_neg (by decide)]
    obtain ⟨c, cs, hc⟩ := List.exists_cons_of_ne_nil (mt String.toList_eq_nil_iff.1 named)
    simp only [name', behind, hc, hr]
    rw [if_neg (mt String.toList_eq_nil_iff.1 given'), ← hc, String.ofList_toList,
      String.ofList_toList]

/-- What a line defines can be written. -/
lemma writable_of_definition? {line : List Char} {name command : String}
    (h : definition? line = some (name, command))
    (unbroken : ∀ c ∈ line, Text.isLineBreak c = false) : Writable name command := by
  obtain ⟨named, chars, given', rest, hl, hr⟩ := definition?_eq_some_iff.1 h
  refine ⟨named, chars, given', ?_, fun c hc => ?_⟩
  · rw [← hr, Text.strip_strip]
  · apply unbroken
    apply Text.mem_of_mem_strip
    rw [hl]
    rw [← hr] at hc
    exact List.mem_append_right _ (List.mem_cons_of_mem _ (Text.mem_of_mem_strip hc))

/-- The line that a definition is written on is trimmed. -/
lemma Writable.strip_line {name command : String} (h : Writable name command) :
    Text.strip (name.toList ++ ':' :: ' ' :: command.toList) =
      name.toList ++ ':' :: ' ' :: command.toList := by
  obtain ⟨c, cs, hc⟩ := List.exists_cons_of_ne_nil (mt String.toList_eq_nil_iff.1 h.named)
  apply Text.strip_eq_self_iff.2
  constructor
  · have first : Text.isBlank c = false :=
      isBlank_of_isNameChar (h.name_chars c (hc ▸ List.mem_cons_self))
    simpa [hc] using first
  · rw [List.append_cons, List.append_cons,
      List.getLast?_append_of_ne_nil _ (mt String.toList_eq_nil_iff.1 h.given)]
    exact (Text.strip_eq_self_iff.1 h.trimmed).2

/-- What can be written is defined by the line that it is written on. -/
lemma Writable.definition? {name command : String} (h : Writable name command) :
    definition? (name.toList ++ ':' :: ' ' :: command.toList) = some (name, command) := by
  refine definition?_eq_some_iff.2 ⟨h.named, h.name_chars, h.given, _, h.strip_line, ?_⟩
  rw [Text.strip_cons_of_isBlank (by decide), h.trimmed]

/-- The line that a definition is written on has no line break. -/
lemma Writable.unbroken_line {name command : String} (h : Writable name command) :
    ∀ c ∈ name.toList ++ ':' :: ' ' :: command.toList, Text.isLineBreak c = false := by
  simp only [List.forall_mem_append, List.forall_mem_cons]
  exact ⟨fun c hc => isLineBreak_of_isNameChar (h.name_chars c hc), by decide, by decide,
    h.unbroken⟩

/-! ## Texts -/

/-- Processes are written line by line. -/
lemma toList_render (specs : List ProcessSpec) :
    (render specs).toList = specs.flatMap fun spec =>
      (spec.name.toList ++ ':' :: ' ' :: spec.commandLine.toList) ++ ['\n'] := by
  rw [render, String.toList_join, List.flatMap_map]
  congr 1
  funext spec
  simp [ProcessSpec.commandLine]

/-- Processes that can be written are defined in the order in which they are written. -/
lemma definitions_render {specs : List ProcessSpec}
    (h : ∀ spec ∈ specs, Writable spec.name spec.commandLine) :
    definitions (render specs) = specs.map fun spec => (spec.name, spec.commandLine) := by
  rw [definitions, toList_render]
  induction specs with
  | nil => rfl
  | cons spec specs ih =>
    obtain ⟨hs, hl⟩ := List.forall_mem_cons.1 h
    rw [List.flatMap_cons, List.append_assoc, List.singleton_append,
      Text.splitLines_line hs.unbroken_line, List.filterMap_cons, hs.definition?, ih hl]
    rfl

/-- What a text defines can be written. -/
lemma writable_of_mem_definitions {text : String} {name command : String}
    (h : (name, command) ∈ definitions text) : Writable name command := by
  obtain ⟨line, hl, hd⟩ := List.mem_filterMap.1 h
  exact writable_of_definition? hd (Text.isLineBreak_of_mem_splitLines hl)

/-! ## Procfiles -/

/-- A procfile has the processes that it is made of, and a routable one. -/
lemma ofProcesses_ok_iff {processes : Dict String (List String)} {p : Procfile} :
    ofProcesses processes = .ok p ↔
      p.processes = processes ∧ routableName? (Dict.keys processes) = some p.routable := by
  unfold ofProcesses
  split
  next name hr =>
    rw [hr]
    constructor
    · intro h
      cases h
      exact ⟨rfl, rfl⟩
    · rintro ⟨rfl, hp⟩
      cases hp
      rfl
  next hr => simp [hr]

/-- Without processes there is no procfile, and for no other reason. -/
lemma ofProcesses_error_iff {processes : Dict String (List String)} {problem : Problem} :
    ofProcesses processes = .error problem ↔ problem = .empty ∧ processes = [] := by
  unfold ofProcesses
  split
  next name hr =>
    have inhabited : processes ≠ [] := by
      rintro rfl
      cases hr
    simp [inhabited]
  next hr => simp [List.map_eq_nil_iff.1 (eq_nil_of_routableName? hr), eq_comm]

/-- The processes of a procfile that was read have distinct names and one command each, which can
be written. -/
lemma processes_of_parse {text : String} {p : Procfile} (h : parse text = .ok p) :
    (Dict.keys p.processes).Nodup ∧
      ∀ e ∈ p.processes, ∃ command, e.2 = [command] ∧ Writable e.1 command := by
  obtain ⟨hp, -⟩ := ofProcesses_ok_iff.1 h
  rw [hp]
  refine ⟨Dict.nodup_keys_ofList _, fun e he => ?_⟩
  obtain ⟨⟨name, command⟩, hd, rfl⟩ := List.mem_map.1 (Dict.mem_of_mem_ofList he)
  exact ⟨command, rfl, writable_of_mem_definitions hd⟩

/-- The names of the processes of some specifications. -/
lemma keys_listed (specs : List ProcessSpec) : Dict.keys (listed specs) = specs.map (·.name) := by
  rw [Dict.keys, listed, List.map_map]
  rfl

/-- Processes that can be written are read as they are. -/
lemma parse_render {specs : List ProcessSpec} (distinct : (specs.map (·.name)).Nodup)
    (h : ∀ spec ∈ specs, Writable spec.name spec.commandLine) :
    parse (render specs) = ofProcesses (listed specs) := by
  have keys : (Dict.keys (listed specs)).Nodup := by
    rw [keys_listed]
    exact distinct
  rw [parse, definitions_render h, List.map_map]
  exact congrArg ofProcesses (Dict.ofList_of_nodup keys)

/-- The process that is routable among those of some specifications is that of their procfile. -/
lemma exists_ofSpecs {specs : List ProcessSpec} (distinct : (specs.map (·.name)).Nodup)
    {name : String} (h : routableName? (specs.map (·.name)) = some name) :
    ∃ q, ofSpecs specs = .ok q ∧ q.routable = name := by
  have keys : Dict.keys (specs.map fun spec => (spec.name, spec.command)) =
      specs.map (·.name) := by
    rw [Dict.keys, List.map_map]
    rfl
  rw [ofSpecs, Dict.ofList_of_nodup (keys ▸ distinct)]
  exact ⟨⟨_, name⟩, ofProcesses_ok_iff.2 ⟨rfl, keys ▸ h⟩, rfl⟩

/-- The processes of a procfile that was read are those of its specifications. -/
lemma listed_specs {text : String} {p : Procfile} (h : parse text = .ok p) :
    listed p.specs = p.processes := by
  rw [listed, specs, List.map_map]
  refine (List.map_congr_left fun e he => ?_).trans (List.map_id _)
  obtain ⟨command, hc, -⟩ := (processes_of_parse h).2 e he
  obtain ⟨name, _⟩ := e
  cases hc
  simp [ProcessSpec.commandLine]

/-- Processes that were read from some text can be written. -/
lemma writable_of_listed {specs : List ProcessSpec} {text : String} {p : Procfile}
    (h : parse text = .ok p) (hl : p.processes = listed specs) :
    ∀ spec ∈ specs, Writable spec.name spec.commandLine := by
  intro spec hs
  have read : (spec.name, [spec.commandLine]) ∈ p.processes := by
    rw [hl]
    exact List.mem_map_of_mem hs
  obtain ⟨command, hc, writable⟩ := (processes_of_parse h).2 _ read
  cases hc
  exact writable

/-- Writing processes with distinct names and reading them gives the same processes just where each
of them can be written, and then the same process is routable. Whatever was read is read again as
it was, when it is written. -/
theorem round_trips :
    (∀ specs : List ProcessSpec, specs ≠ [] → (specs.map (·.name)).Nodup →
      ((∃ p, parse (render specs) = .ok p ∧ p.processes = listed specs) ↔
        ∀ spec ∈ specs, Writable spec.name spec.commandLine) ∧
      ∀ p, parse (render specs) = .ok p → p.processes = listed specs →
        ∃ q, ofSpecs specs = .ok q ∧ q.routable = p.routable) ∧
    ∀ text p, parse text = .ok p →
      (∀ e ∈ p.processes, ∃ command, e.2 = [command]) ∧ parse (render p.specs) = .ok p := by
  constructor
  · intro specs inhabited distinct
    refine ⟨⟨?_, fun h => ?_⟩, fun p hp hl => ?_⟩
    · rintro ⟨p, hp, hl⟩
      exact writable_of_listed hp hl
    · rw [parse_render distinct h]
      obtain ⟨name, hn⟩ := Option.ne_none_iff_exists'.1
        (mt eq_nil_of_routableName? (mt List.map_eq_nil_iff.1 inhabited))
      refine ⟨⟨listed specs, name⟩, ofProcesses_ok_iff.2 ⟨rfl, ?_⟩, rfl⟩
      rw [keys_listed, hn]
    · obtain ⟨same, routable⟩ := ofProcesses_ok_iff.1 hp
      rw [← same, hl, keys_listed] at routable
      exact exists_ofSpecs distinct routable
  · intro text p hp
    have listing := listed_specs hp
    have names : (p.specs.map (·.name)).Nodup := by
      rw [← keys_listed, listing]
      exact (processes_of_parse hp).1
    constructor
    · intro e he
      obtain ⟨command, hc, -⟩ := (processes_of_parse hp).2 e he
      exact ⟨command, hc⟩
    · rw [parse_render names (writable_of_listed hp listing.symm), listing]
      obtain ⟨same, routable⟩ := ofProcesses_ok_iff.1 hp
      exact ofProcesses_ok_iff.2 ⟨rfl, same ▸ routable⟩

/-- The processes of a shop, one of them with a command of several words. -/
def shopProcesses : List ProcessSpec :=
  [⟨"worker", ["celery", "-A", "shop"], none, [], none, [], [], none⟩,
    ⟨"web", ["serve"], none, [], none, [], [], none⟩]

/-- A text with a comment, breaks of several kinds, a line that defines nothing and a process that
is defined twice. -/
def shopText : String :=
  "# processes\r\nweb:  serve \n\nworker: celery\x0cno process\rweb: serve twice"

/-- The processes of the shop are read as they are written, and what was read from its text is read
again as it was. -/
theorem shop_round_trips : shopProcesses ≠ [] ∧ (shopProcesses.map (·.name)).Nodup ∧
    (∀ spec ∈ shopProcesses, Writable spec.name spec.commandLine) ∧
    (∃ q, ofSpecs shopProcesses = .ok q ∧ q.routable = "web") ∧
    ∃ p, parse shopText = .ok p ∧ p.processes = [("web", ["serve twice"]), ("worker", ["celery"])] ∧
      parse (render p.specs) = .ok p := by
  have inhabited : shopProcesses ≠ [] := List.cons_ne_nil _ _
  have distinct : (shopProcesses.map (·.name)).Nodup := by decide
  have read : parse (render shopProcesses) = .ok ⟨listed shopProcesses, "web"⟩ := by
    decide +kernel
  have text : parse shopText =
      .ok ⟨[("web", ["serve twice"]), ("worker", ["celery"])], "web"⟩ := by
    decide +kernel
  obtain ⟨written, reread⟩ := round_trips
  obtain ⟨writable, routable⟩ := written shopProcesses inhabited distinct
  exact ⟨inhabited, distinct, writable.1 ⟨_, read, rfl⟩, routable _ read rfl, _, text, rfl,
    (reread _ _ text).2⟩

end Procfile

end Chartwright
