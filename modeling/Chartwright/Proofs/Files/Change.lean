import Chartwright.Proofs.Files.Walk

/-!
# Changes of a file tree

What the steps of a program leave behind: directories are made where they are missing on a way, a
directory is removed with all that is below it, and a new file is added to a directory.
-/

namespace Chartwright

lemma FileStep.all_cons {step : FileStep} {steps : List FileStep} {t t' : FileTree}
    (h : step t = (t', none)) : FileStep.all (step :: steps) t = FileStep.all steps t' := by
  rw [FileStep.all, h]

namespace FileTree

variable {t t' : FileTree} {p : Path} {q place : Place} {places : List Place} {name : String}
  {names : List String}

/-! ## Adding -/

/-- Something new in a directory makes a tree that a file system can have. -/
lemma Sound.append_new (sound : t.Sound) (new : t.node? q = none)
    (parent : t.node? q.dropLast = some .directory) (node : FileNode) :
    Sound (t ++ [(q, node)]) := by
  have keys : Dict.keys (t ++ [(q, node)]) = Dict.keys t ++ [q] := List.map_append
  constructor
  case distinct =>
    rw [keys, ← List.concat_eq_append]
    exact sound.distinct.concat (not_mem_keys_of_node? new)
  case listed =>
    rw [keys]
    refine List.forall_mem_append.2 ⟨sound.listed, List.forall_mem_singleton.2 ?_⟩
    simpa [isPermanent] using isPermanent_of_node? new
  case parent =>
    rw [keys]
    refine List.forall_mem_append.2 ⟨fun q' hq' => ?_, List.forall_mem_singleton.2 ?_⟩
    · exact node?_append_of_some (sound.parent q' hq') _
    · exact node?_append_of_some parent _

lemma node?_append_new (new : t.node? q = none) (node : FileNode) :
    FileTree.node? (t ++ [(q, node)]) q = some node := by
  rw [node?_append, new]
  exact if_pos rfl

lemma node?_append_of_ne (differ : q ≠ place) (node : FileNode) :
    FileTree.node? (t ++ [(q, node)]) place = t.node? place :=
  node?_append_of_unlisted (List.forall_mem_singleton.2 differ) t

/-! ## Making directories -/

/-- No place of some is that of a file. -/
def Free (t : FileTree) (places : List Place) : Prop :=
  ∀ s ∈ places, t.node? s = none ∨ t.node? s = some .directory

instance (t : FileTree) (places : List Place) : Decidable (t.Free places) :=
  inferInstanceAs (Decidable (∀ s ∈ places, _))

lemma Free.append_new (free : t.Free places) (new : t.node? q = none) :
    Free (t ++ [(q, .directory)]) places := by
  intro s hs
  by_cases e : q = s
  · exact .inr (e ▸ node?_append_new new .directory)
  · rw [node?_append_of_ne e]
    exact free s hs

/-- The directories that are missing among some places are made, and that is all. -/
structure Makes (t : FileTree) (places : List Place) (t' : FileTree) : Prop where
  there : ∀ s ∈ places, t'.node? s = some .directory
  only : ∃ made : List Place, t' = t ++ made.map (·, .directory) ∧
    ∀ q ∈ made, q ∈ places ∧ t.node? q = none
  sound : t'.Sound

lemma Makes.there_already (sound : t.Sound) (here : t.node? q = some .directory) :
    t.Makes [q] t where
  there := List.forall_mem_singleton.2 here
  only := ⟨[], (List.append_nil t).symm, List.forall_mem_nil _⟩
  sound := sound

lemma Makes.cons (here : t.node? q = some .directory) (makes : t.Makes places t') :
    t.Makes (q :: places) t' := by
  obtain ⟨made, rfl, fresh⟩ := makes.only
  exact {
    there := List.forall_mem_cons.2 ⟨node?_append_of_some here _, makes.there⟩
    only := ⟨made, rfl, fun s hs => ⟨List.mem_cons_of_mem _ (fresh s hs).1, (fresh s hs).2⟩⟩
    sound := makes.sound }

lemma Makes.after (new : t.node? q = none) (mem : q ∈ places)
    (makes : Makes (t ++ [(q, .directory)]) places t') : t.Makes places t' := by
  obtain ⟨made, e, fresh⟩ := makes.only
  refine ⟨makes.there, ⟨q :: made, by rw [e, List.append_assoc]; rfl, ?_⟩, makes.sound⟩
  refine List.forall_mem_cons.2 ⟨⟨mem, new⟩, ?_⟩
  intro s hs
  obtain ⟨among, none⟩ := fresh s hs
  rw [node?_append, Option.or_eq_none_iff] at none
  exact ⟨among, none.1⟩

/-- Where there was something before, or no directory was asked for, nothing has changed. -/
lemma Makes.node?_cases (makes : t.Makes places t') (q : Place) :
    t'.node? q = t.node? q ∨ q ∈ places ∧ t.node? q = none ∧ t'.node? q = some .directory := by
  by_cases mem : q ∈ places
  · cases h : t.node? q with
    | none => exact .inr ⟨mem, rfl, makes.there q mem⟩
    | some node =>
      obtain ⟨made, rfl, -⟩ := makes.only
      exact .inl (node?_append_of_some h _)
  · obtain ⟨made, rfl, fresh⟩ := makes.only
    refine .inl (node?_append_of_unlisted ?_ t)
    intro e he
    obtain ⟨s, hs, rfl⟩ := List.mem_map.1 he
    rintro rfl
    exact mem (fresh s hs).1

lemma Makes.node?_of_not_mem (makes : t.Makes places t') (h : q ∉ places) :
    t'.node? q = t.node? q :=
  (makes.node?_cases q).resolve_right fun made => h made.1

/-- A name that leads from a directory to nothing is that of something new in the directory. -/
lemma step_of_node? (sound : t.Sound) (here : t.node? place = some .directory)
    (new : t.node? (step place name) = none) : step place name = place ++ [name] := by
  refine if_neg ?_
  rintro ⟨up, inside⟩
  rw [step, if_pos ⟨up, inside⟩] at new
  split at new
  case isTrue => cases new
  case isFalse top =>
    -- the directory above is there
    have listed : place ∈ Dict.keys t := by
      rw [Dict.mem_keys_iff, ← node?_of_not_permanent (by simp_all [isPermanent]), here]
      rfl
    rw [sound.parent place listed] at new
    cases new

/-- Directories are made where no file is in the way. -/
lemma makeDirectories_of_free (sound : t.Sound) (here : t.node? place = some .directory)
    (short : ∀ name ∈ names, name.utf8ByteSize ≤ nameLimit)
    (free : t.Free (names.scanl step place)) (shown : String) (blocked : FileFault) :
    ∃ t', makeDirectories shown blocked place names t = (t', none) ∧
      t.Makes (names.scanl step place) t' := by
  induction names generalizing place t blocked with
  | nil => exact ⟨t, rfl, .there_already sound here⟩
  | cons name names ih =>
    obtain ⟨hn, hns⟩ := List.forall_mem_cons.1 short
    rw [List.scanl_cons] at free ⊢
    have later := (List.forall_mem_cons.1 free).2
    unfold makeDirectories
    rw [if_neg (Nat.not_lt.2 hn)]
    rcases later (step place name) mem_stages_start with new | there
    · have parent : t.node? (step place name).dropLast = some .directory := by
        rw [step_of_node? sound here new, List.dropLast_concat, here]
      obtain ⟨t', run, makes⟩ := ih (sound.append_new new parent .directory)
        (node?_append_new new _) hns (Free.append_new later new) (.alreadyThere shown)
      rw [new, put_of_node? new]
      exact ⟨t', run, (makes.after new mem_stages_start).cons here⟩
    · obtain ⟨t', run, makes⟩ := ih sound there hns later blocked
      rw [there]
      exact ⟨t', run, makes.cons here⟩

/-- A new directory is made with those on the way. -/
lemma makeDirectory_of_free (sound : t.Sound) (null : hasNull p = false)
    (short : ∀ n ∈ p.names, n.utf8ByteSize ≤ nameLimit) (named : IsFileName name)
    (free : t.Free (stages p)) (new : t.node? (destination p ++ [name]) = none)
    (apart : destination p ++ [name] ∉ stages p) :
    ∃ t', t.Makes (stages p) t' ∧
      makeDirectory p name t = (t' ++ [(destination p ++ [name], .directory)], none) := by
  obtain ⟨t', run, makes⟩ := makeDirectories_of_free sound (node?_origin t p) short free
    (p.join name).render (.notDirectory (p.join name).render)
  refine ⟨t', makes, ?_⟩
  have null' : hasNull (p.join name) = false := by
    rw [Path.join_fileName named]
    exact hasNull_join null (List.forall_mem_singleton.2 named)
  have new' : t'.node? (destination p ++ [name]) = none := by
    rw [makes.node?_of_not_mem apart, new]
  unfold makeDirectory
  simp only [null', run, step_of_ne named.not_above, new', put_of_node? new']
  simp [Nat.not_lt.2 named.short]

/-! ## Removing -/

/-- A tree without a directory and what is below it. -/
def without (t : FileTree) (place : Place) : FileTree := t.filter fun (q, _) => !isUnder place q

lemma isUnder_iff : isUnder place q = true ↔ ∃ rest, q = place ++ rest := by
  rw [isUnder, List.isPrefixOf_iff_prefix]
  exact exists_congr fun _ => eq_comm

lemma isUnder_append (place rest : Place) : isUnder place (place ++ rest) = true :=
  isUnder_iff.2 ⟨rest, rfl⟩

lemma isUnder_self (place : Place) : isUnder place place = true := by
  rw [isUnder, List.isPrefixOf_iff_prefix]

/-- Nothing is below a place that is not always there but places of the same kind. -/
lemma isUnder_of_permanent (top : isPermanent place = false) (h : isPermanent q = true) :
    isUnder place q = false := by
  rw [← Bool.not_eq_true, isUnder_iff]
  rintro ⟨rest, rfl⟩
  rw [isPermanent_of_append h] at top
  cases top

/-- What is kept stays as it is. -/
lemma node?_filter (keep : Place → Bool) (kept : ∀ q, isPermanent q = true → keep q = true) :
    FileTree.node? (t.filter (keep ·.1)) q = if keep q then t.node? q else none := by
  cases h : isPermanent q with
  | true => rw [node?_of_permanent h, node?_of_permanent h, if_pos (kept q h)]
  | false => rw [node?_of_not_permanent h, node?_of_not_permanent h, Dict.get?_filter]

lemma node?_without (top : isPermanent place = false) (t : FileTree) (q : Place) :
    (t.without place).node? q = if isUnder place q then none else t.node? q := by
  have kept (q : Place) (h : isPermanent q = true) : (!isUnder place q) = true := by
    rw [isUnder_of_permanent top h]
    rfl
  rw [without, node?_filter (fun q => !isUnder place q) kept]
  cases isUnder place q <;> rfl

lemma Sound.without (sound : t.Sound) (top : isPermanent place = false) :
    (t.without place).Sound := by
  have sub : (Dict.keys (t.without place)).Sublist (Dict.keys t) := List.filter_sublist.map _
  constructor
  case distinct => exact sub.nodup sound.distinct
  case listed => exact fun q hq => sound.listed q (sub.subset hq)
  case parent =>
    intro q hq
    obtain ⟨e, he, rfl⟩ := List.mem_map.1 hq
    have outside : isUnder place e.1 = false := by
      rw [← Bool.not_eq_true']
      exact (List.mem_filter.1 he).2
    have apart : isUnder place e.1.dropLast = false := by
      rw [← Bool.not_eq_true, isUnder, List.isPrefixOf_iff_prefix] at outside ⊢
      exact fun below => outside (below.trans (List.dropLast_prefix _))
    rw [node?_without top, apart]
    exact sound.parent e.1 (sub.subset hq)

/-- A place with nothing in it has nothing below it. -/
lemma without_of_node? (sound : t.Sound) (h : t.node? place = none) : t.without place = t := by
  refine List.filter_eq_self.2 ?_
  intro e he
  rw [Bool.not_eq_true', ← Bool.not_eq_true, isUnder_iff]
  rintro ⟨rest, below⟩
  have listed : e.1 ∈ Dict.keys t := List.mem_map_of_mem he
  cases rest with
  | nil => exact not_mem_keys_of_node? h (by rwa [below, List.append_nil] at listed)
  | cons name names =>
    rw [below] at listed
    rw [sound.directory_above (List.cons_ne_nil _ _) listed] at h
    cases h

/-- A directory is removed by a path that does not pass what is in it. -/
lemma removeDirectory_of_apart (located : t.locate p = .ok place)
    (there : t.node? place = some .directory) (top : isPermanent place = false)
    (apart : ∀ s ∈ stages p, isUnder place s = true → s = place) :
    removeDirectory p t = (t.without place, none) := by
  obtain ⟨null, leads, e⟩ := locate_eq_ok_iff.1 located
  let keep (q : Place) : Bool := !isUnder place q || q = place
  let emptied : FileTree := t.filter (keep ·.1)
  have kept (q : Place) (h : isPermanent q = true) : keep q = true := by
    simp [keep, isUnder_of_permanent top h]
  have again : emptied.locate p = .ok place := by
    refine locate_eq_ok_iff.2 ⟨null, leads.imp ?_, e⟩
    intro s hs directory
    rw [node?_filter keep kept, if_pos, directory]
    cases h : isUnder place s with
    | false => simp [keep, h]
    | true => simp [keep, apart s hs h]
  have rest : Dict.erase emptied place = t.without place := by
    rw [Dict.erase, List.filter_filter, without]
    refine List.filter_congr fun e _ => ?_
    by_cases h : e.1 = place
    · simp [keep, h, isUnder_self]
    · simp [keep, h]
  unfold removeDirectory
  rw [located]
  simp only
  rw [there]
  simp only
  rw [show (t.filter fun (q, _) => !isUnder place q || q = place) = emptied from rfl, again]
  exact congrArg (·, none) rest

/-! ## Writing files -/

/-- A new file stands behind what was there. -/
lemma writeFile_new (located : t.locate p = .ok q) (new : t.node? q = none)
    (parent : t.node? q.dropLast = some .directory) (content : ByteArray) :
    t.writeFile p content = .ok (t ++ [(q, .file content)]) := by
  unfold writeFile
  simp only [located, bind, Except.bind, new, parent, put_of_node? new]
  rfl

/-- A file to be written: its path, its place and its content. -/
structure NewFile where
  path : Path
  place : Place
  content : ByteArray

/-- The file can be added to a tree. -/
structure NewFile.Fits (f : NewFile) (t : FileTree) : Prop where
  located : t.locate f.path = .ok f.place
  new : t.node? f.place = none
  parent : t.node? f.place.dropLast = some .directory

lemma NewFile.Fits.append_new {f : NewFile} (fits : f.Fits t) (differ : q ≠ f.place)
    (node : FileNode) : f.Fits (t ++ [(q, node)]) where
  located := locate_append fits.located _
  new := by rw [node?_append_of_ne differ, fits.new]
  parent := node?_append_of_some fits.parent _

/-- New files with distinct places are all written, one behind the other. -/
lemma all_writeFile {files : List NewFile} (sound : t.Sound) (fits : ∀ f ∈ files, f.Fits t)
    (distinct : (files.map (·.place)).Nodup) :
    FileStep.all (files.map fun f => .ofExcept (·.writeFile f.path f.content)) t =
        (t ++ files.map fun f => (f.place, .file f.content), none) ∧
      Sound (t ++ files.map fun f => (f.place, .file f.content)) := by
  induction files generalizing t with
  | nil =>
    rw [List.map_nil, List.map_nil, List.append_nil]
    exact ⟨rfl, sound⟩
  | cons f files ih =>
    obtain ⟨first, later⟩ := List.forall_mem_cons.1 fits
    obtain ⟨fresh, distinct⟩ := List.nodup_cons.1 distinct
    have fits' g (hg : g ∈ files) : g.Fits (t ++ [(f.place, .file f.content)]) := by
      refine (later g hg).append_new ?_ _
      intro e
      exact fresh (List.mem_map.2 ⟨g, hg, e.symm⟩)
    have written : FileStep.ofExcept (·.writeFile f.path f.content) t =
        (t ++ [(f.place, .file f.content)], none) := by
      rw [FileStep.ofExcept, writeFile_new first.located first.new first.parent]
    obtain ⟨run, sound'⟩ := ih (sound.append_new first.new first.parent _) fits' distinct
    rw [← List.append_cons] at run sound'
    rw [List.map_cons, List.map_cons, FileStep.all_cons written]
    exact ⟨run, sound'⟩

/-! ## Files below a place -/

lemma filesBelow_append (t added : FileTree) (place : Place) :
    FileTree.filesBelow (t ++ added) place = t.filesBelow place ++ added.filesBelow place :=
  List.filterMap_append

lemma fileBelow?_append (inside : place ≠ []) (names : List String) (content : ByteArray) :
    fileBelow? place (place ++ names, .file content) = some ("/".intercalate names, content) := by
  simp [fileBelow?, isUnder_append, inside]

lemma filesBelow_without (t : FileTree) (place : Place) :
    (t.without place).filesBelow place = [] := by
  refine List.filterMap_eq_nil_iff.2 ?_
  rintro ⟨q, node⟩ hq
  have apart := (List.mem_filter.1 hq).2
  cases node with
  | directory => rfl
  | file content => simp_all [fileBelow?]

lemma filesBelow_directories (made : List Place) (place : Place) :
    FileTree.filesBelow (made.map (·, .directory)) place = [] := by
  refine List.filterMap_eq_nil_iff.2 ?_
  rintro ⟨q, node⟩ hq
  obtain ⟨_, -, e⟩ := List.mem_map.1 hq
  cases e
  rfl

end FileTree

end Chartwright
