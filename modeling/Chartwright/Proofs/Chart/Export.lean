import Chartwright.Chart.Export
import Chartwright.Proofs.Chart.Files
import Chartwright.Proofs.Files.Change

/-!
# What an export leaves behind

The directory of a chart has exactly the files of the chart after an export, whatever it had before,
and nothing else has changed. The path to the directory has to lead there before and after what
was in the chart's directory is gone: where it does not, an earlier export stays, or the new one
fails half way.
-/

namespace Chartwright

open FileTree

/-- The place of the directory of a chart. -/
def chartPlace (root : Path) (name : String) : Place := destination root ++ [name]

/-- A directory can take the chart of a name by a path. -/
structure Receives (t : FileTree) (root : Path) (name : String) : Prop where
  no_null : hasNull root = false
  short : ∀ n ∈ root.names, n.utf8ByteSize ≤ nameLimit
  free : t.Free (stages root)
  /-- The path does not pass what is in the chart's directory. -/
  apart : ∀ s ∈ stages root, isUnder (chartPlace root name) s = true → s = chartPlace root name
  /-- If there is an earlier export, the path leads to it. -/
  previous : t.at? (root.join name) = some .directory ∨ t.node? (chartPlace root name) = none

instance (t : FileTree) (root : Path) (name : String) : Decidable (Receives t root name) :=
  decidable_of_iff (hasNull root = false ∧ (∀ n ∈ root.names, n.utf8ByteSize ≤ nameLimit) ∧
      t.Free (stages root) ∧
      (∀ s ∈ stages root, isUnder (chartPlace root name) s = true → s = chartPlace root name) ∧
      (t.at? (root.join name) = some .directory ∨ t.node? (chartPlace root name) = none))
    ⟨fun ⟨a, b, c, d, e⟩ => ⟨a, b, c, d, e⟩, fun h => ⟨h.1, h.2, h.3, h.4, h.5⟩⟩

/-- What is at the places of a tree after the files of a chart took the place of what was in its
directory. -/
structure Replaced (t : FileTree) (root : Path) (name : String)
    (files : List (String × ByteArray)) (t' : FileTree) : Prop where
  located : t'.locate (root.join name) = .ok (chartPlace root name)
  distinct : (files.map (·.1)).Nodup
  exactly : (t'.filesBelow (chartPlace root name)).Perm files
  /-- Outside the directory, only directories are made that are missing on the way to it. -/
  outside : ∀ q, isUnder (chartPlace root name) q = false → t'.node? q = t.node? q ∨
    (q ∈ stages root ∧ t.node? q = none ∧ t'.node? q = some .directory)
  kept : t.isDirectory root = true →
    ∀ q, isUnder (chartPlace root name) q = false → t'.node? q = t.node? q
  sound : t'.Sound

/-- The directories of a chart are there, with nothing in them. -/
structure Prepared (t : FileTree) (root : Path) (name : String) (t' : FileTree) : Prop where
  way : ∀ s ∈ stages root, t'.node? s = some .directory
  chart : t'.node? (chartPlace root name) = some .directory
  templates : t'.node? (chartPlace root name ++ ["templates"]) = some .directory
  empty : ∀ rest, rest ≠ [] → rest ≠ ["templates"] → t'.node? (chartPlace root name ++ rest) = none
  no_files : t'.filesBelow (chartPlace root name) = []
  outside : ∀ q, isUnder (chartPlace root name) q = false → t'.node? q = t.node? q ∨
    (q ∈ stages root ∧ t.node? q = none ∧ t'.node? q = some .directory)
  sound : t'.Sound

/-- A file of a chart to be written. -/
def chartFile (root : Path) (name : String) (f : String × ByteArray) : NewFile where
  path := (root.join name).join f.1
  place := chartPlace root name ++ Path.namesOf f.1
  content := f.2

variable {t t' : FileTree} {root : Path} {name : String} {config : ChartConfig} {c : Chart}

lemma isPermanent_chartPlace (named : IsFileName name) (root : Path) :
    isPermanent (chartPlace root name) = false := by
  have above : isAbove (chartPlace root name) = false := by
    simp [isAbove, chartPlace, named.not_above]
  have top : chartPlace root name ≠ FileTree.root := by
    intro e
    have last : name = "/" := by
      have h := congrArg List.getLast? e
      rw [chartPlace, List.getLast?_concat] at h
      exact Option.some.inj h
    exact named.no_slash (last ▸ List.mem_cons_self)
  simp [isPermanent, above, top]

/-- By a path that does not go back, a chart can take the place of nothing or of any directory. -/
lemma receives_of_onward (sound : t.Sound) (named : IsFileName name) (null : hasNull root = false)
    (short : ∀ n ∈ root.names, n.utf8ByteSize ≤ nameLimit)
    (onward : Onward (origin root) root.names) (free : t.Free (stages root))
    (before : t.node? (chartPlace root name) = none ∨
      t.node? (chartPlace root name) = some .directory) : Receives t root name := by
  have above : ∀ s ∈ stages root, s <+: destination root := by
    rw [destination, onward.foldl]
    exact onward.above
  constructor
  case no_null => exact null
  case short => exact short
  case free => exact free
  case apart =>
    intro s hs below
    obtain ⟨rest, e⟩ := isUnder_iff.1 below
    have longer : (chartPlace root name ++ rest).length ≤ (destination root).length :=
      e ▸ (above s hs).length_le
    rw [chartPlace, List.append_assoc, List.length_append, List.length_append,
      List.length_singleton] at longer
    omega
  case previous =>
    refine before.symm.imp_left fun there => ?_
    have listed : chartPlace root name ∈ Dict.keys t := by
      rw [node?_of_not_permanent (isPermanent_chartPlace named root)] at there
      exact Dict.mem_keys_iff.2 (Option.isSome_of_eq_some there)
    have way : ∀ s ∈ stages root, t.node? s = some .directory := by
      intro s hs
      obtain ⟨rest, e⟩ := above s hs
      rw [chartPlace, ← e, List.append_assoc] at listed
      exact sound.directory_above (by simp) listed
    have located : t.locate (root.join name) = .ok (chartPlace root name) := by
      rw [locate_eq_ok_iff, destination_join named, Path.join_fileName named]
      refine ⟨hasNull_join null (List.forall_mem_singleton.2 named), ?_, rfl⟩
      refine (Leads.of_stages way short).append (.cons ?_ named.short .nil)
      exact way _ (List.mem_of_getLast? List.getLast?_scanl)
    rw [at?, located]
    exact there

/-! ## Preparing the directories -/

lemma clear_of_receives (sound : t.Sound) (named : IsFileName name) (h : Receives t root name) :
    Chart.clear (root.join name) t = (t.without (chartPlace root name), none) := by
  unfold Chart.clear
  cases located : t.locate (root.join name) with
  | error fault =>
    have gone : t.node? (chartPlace root name) = none := by
      refine h.previous.resolve_left ?_
      rw [at?, located]
      nofun
    rw [without_of_node? sound gone]
    cases fault with
    | nameTooLong shown =>
      refine absurd located (locate_ne_nameTooLong ?_ shown)
      rw [Path.join_fileName named]
      exact List.forall_mem_append.2 ⟨h.short, List.forall_mem_singleton.2 named.short⟩
    | _ => rfl
  | ok q =>
    have e : chartPlace root name = q := by
      rw [chartPlace, ← destination_join named]
      exact (locate_eq_ok_iff.1 located).2.2
    subst e
    simp only
    rcases h.previous with there | gone
    · rw [at?, located] at there
      rw [show t.node? (chartPlace root name) = some .directory from there]
      refine removeDirectory_of_apart located there (isPermanent_chartPlace named root) ?_
      rw [stages_join named]
      exact List.forall_mem_append.2 ⟨h.apart, List.forall_mem_singleton.2 fun _ => rfl⟩
    · rw [gone, without_of_node? sound gone]
      rfl

lemma node?_without_append (named : IsFileName name) (t : FileTree) (root : Path)
    (rest : List String) :
    (t.without (chartPlace root name)).node? (chartPlace root name ++ rest) = none := by
  rw [node?_without (isPermanent_chartPlace named root), if_pos (isUnder_append _ rest)]

lemma Receives.not_mem_stages (named : IsFileName name) (h : Receives t root name)
    {rest : List String} (below : rest ≠ []) :
    chartPlace root name ++ rest ∉ stages (root.join name) := by
  rw [stages_join named, List.mem_append, List.mem_singleton]
  rintro (mem | e)
  · exact below (List.append_right_eq_self.1 (h.apart _ mem (isUnder_append _ rest)))
  · exact below (List.append_right_eq_self.1 e)

lemma Receives.free_without (named : IsFileName name) (h : Receives t root name) :
    Free (t.without (chartPlace root name)) (stages (root.join name)) := by
  intro s hs
  rw [node?_without (isPermanent_chartPlace named root)]
  split
  case isTrue => exact .inl rfl
  case isFalse apart =>
    rw [stages_join named, List.mem_append, List.mem_singleton] at hs
    rcases hs with hs | rfl
    · exact h.free s hs
    · exact absurd (isUnder_self _) apart

lemma prepared_of_makes (named : IsFileName name) (h : Receives t root name)
    (makes : Makes (t.without (chartPlace root name)) (stages (root.join name)) t') :
    Prepared t root name (t' ++ [(chartPlace root name ++ ["templates"], .directory)]) := by
  have below {rest : List String} (hr : rest ≠ []) :
      t'.node? (chartPlace root name ++ rest) = none := by
    rw [makes.node?_of_not_mem (h.not_mem_stages named hr), node?_without_append named]
  have new := below (List.cons_ne_nil "templates" [])
  have there : ∀ s ∈ stages root ++ [chartPlace root name], t'.node? s = some .directory := by
    rw [chartPlace, ← stages_join named]
    exact makes.there
  obtain ⟨way, chart⟩ := List.forall_mem_append.1 there
  have chart := List.forall_mem_singleton.1 chart
  constructor
  case way => exact fun s hs => node?_append_of_some (way s hs) _
  case chart => exact node?_append_of_some chart _
  case templates => exact node?_append_new new .directory
  case empty =>
    intro rest hr ht
    rw [node?_append_of_ne (fun e => ht (List.append_cancel_left e).symm)]
    exact below hr
  case no_files =>
    obtain ⟨made, rfl, -⟩ := makes.only
    have last :=
      filesBelow_directories [chartPlace root name ++ ["templates"]] (chartPlace root name)
    rw [filesBelow_append, filesBelow_append, filesBelow_without, filesBelow_directories]
    exact last
  case outside =>
    intro q hq
    have differ : chartPlace root name ++ ["templates"] ≠ q := by
      rintro rfl
      rw [isUnder_append] at hq
      cases hq
    have before : (t.without (chartPlace root name)).node? q = t.node? q := by
      rw [node?_without (isPermanent_chartPlace named root), hq]
      rfl
    rw [node?_append_of_ne differ, ← before]
    refine (makes.node?_cases q).imp_right ?_
    rintro ⟨mem, made⟩
    rw [stages_join named, List.mem_append, List.mem_singleton] at mem
    refine ⟨mem.resolve_right ?_, made⟩
    rintro rfl
    rw [← chartPlace, isUnder_self] at hq
    cases hq
  case sound =>
    refine makes.sound.append_new new ?_ .directory
    rw [List.dropLast_concat]
    exact chart

/-- The directories of a chart are made where there are none. -/
lemma prepared_of_receives (sound : t.Sound) (named : IsFileName name) (h : Receives t root name) :
    ∃ t', Prepared t root name t' ∧
      makeDirectory (root.join name) "templates" (t.without (chartPlace root name)) =
        (t', none) := by
  have joined := destination_join named root
  have null : hasNull (root.join name) = false := by
    rw [Path.join_fileName named]
    exact hasNull_join h.no_null (List.forall_mem_singleton.2 named)
  have short : ∀ n ∈ (root.join name).names, n.utf8ByteSize ≤ nameLimit := by
    rw [Path.join_fileName named]
    exact List.forall_mem_append.2 ⟨h.short, List.forall_mem_singleton.2 named.short⟩
  have templates : IsFileName "templates" := by decide
  obtain ⟨t', makes, run⟩ := makeDirectory_of_free
    (sound.without (isPermanent_chartPlace named root)) null short templates
    (h.free_without named) (joined ▸ node?_without_append named t root ["templates"])
    (joined ▸ h.not_mem_stages named (List.cons_ne_nil _ _))
  rw [joined] at run
  exact ⟨_, prepared_of_makes named h makes, run⟩

/-! ## Writing the files -/

lemma chartFile_place {path : String} {names : List String} (h : ChartPath path names)
    (root : Path) (name : String) (bytes : ByteArray) :
    (chartFile root name (path, bytes)).place = chartPlace root name ++ names := by
  rw [chartFile, h.namesOf]

lemma Prepared.leads_chart (prepared : Prepared t root name t') (named : IsFileName name)
    (h : Receives t root name) : Leads t' (origin root) (root.names ++ [name]) := by
  have e : (root.names ++ [name]).scanl step (origin root) = stages (root.join name) := by
    rw [Path.join_fileName named]
    rfl
  refine Leads.of_stages ?_ ?_
  · rw [e, stages_join named]
    exact List.forall_mem_append.2 ⟨prepared.way, List.forall_mem_singleton.2 prepared.chart⟩
  · exact List.forall_mem_append.2 ⟨h.short, List.forall_mem_singleton.2 named.short⟩

lemma Prepared.located (prepared : Prepared t root name t') (named : IsFileName name)
    (h : Receives t root name) : t'.locate (root.join name) = .ok (chartPlace root name) := by
  rw [locate_eq_ok_iff, destination_join named, Path.join_fileName named]
  exact ⟨hasNull_join h.no_null (List.forall_mem_singleton.2 named), prepared.leads_chart named h,
    rfl⟩

lemma Prepared.leads (prepared : Prepared t root name t') (named : IsFileName name)
    (h : Receives t root name) {path : String} {names : List String}
    (chartPath : ChartPath path names) :
    Leads t' (origin root) (root.names ++ [name] ++ names) := by
  refine (prepared.leads_chart named h).append ?_
  rw [List.foldl_append, List.foldl_cons, List.foldl_nil, step_of_ne named.not_above]
  cases chartPath with
  | top hn _ => exact .cons prepared.chart hn.short .nil
  | template hn =>
    refine .cons prepared.chart (by decide) (.cons ?_ hn.short .nil)
    rw [step_of_ne (by decide)]
    exact prepared.templates

/-- A file of a chart can be written where the directories of the chart are. -/
lemma Prepared.fits (prepared : Prepared t root name t') (named : IsFileName name)
    (h : Receives t root name) {path : String} {names : List String}
    (chartPath : ChartPath path names) (bytes : ByteArray) :
    (chartFile root name (path, bytes)).Fits t' := by
  have place := chartFile_place chartPath root name bytes
  have whole : (chartFile root name (path, bytes)).path =
      { root with names := root.names ++ [name] ++ names } := by
    rw [chartFile, chartPath.join, Path.join_fileName named]
  constructor
  case located =>
    rw [whole, place, locate_eq_ok_iff]
    refine ⟨?_, prepared.leads named h chartPath, ?_⟩
    · rw [List.append_assoc]
      exact hasNull_join h.no_null
        (List.forall_mem_cons.2 ⟨named, chartPath.fileNames⟩)
    · have onward := Onward.of_ne (fun n hn => (chartPath.fileNames n hn).not_above)
        (chartPlace root name)
      rw [destination, List.foldl_append, List.foldl_append, List.foldl_cons, List.foldl_nil,
        step_of_ne named.not_above]
      exact onward.foldl
  case new =>
    rw [place]
    cases chartPath with
    | top _ other => exact prepared.empty _ (List.cons_ne_nil _ _) (by simpa using other)
    | template => exact prepared.empty _ (List.cons_ne_nil _ _) (by simp)
  case parent =>
    rw [place]
    cases chartPath with
    | top =>
      rw [List.dropLast_concat]
      exact prepared.chart
    | @template n =>
      rw [List.append_cons, List.dropLast_concat]
      exact prepared.templates

lemma nodup_chartFiles {files : List (String × ByteArray)} (distinct : (files.map (·.1)).Nodup)
    (plain : ∀ path ∈ files.map (·.1), ∃ names, ChartPath path names) (root : Path)
    (name : String) :
    ((files.map (chartFile root name)).map (·.place)).Nodup := by
  have e : (files.map (chartFile root name)).map (·.place) =
      (files.map (·.1)).map fun path => chartPlace root name ++ Path.namesOf path := by
    rw [List.map_map, List.map_map]
    rfl
  rw [e]
  refine distinct.map_on fun path hp path' hp' same => ?_
  obtain ⟨names, h⟩ := plain path hp
  obtain ⟨names', h'⟩ := plain path' hp'
  rw [List.append_cancel_left_eq, h.namesOf, h'.namesOf] at same
  rw [← h.intercalate, ← h'.intercalate, same]

/-- The written files are found below the chart's directory by their paths. -/
lemma filesBelow_chartFiles {files : List (String × ByteArray)}
    (plain : ∀ path ∈ files.map (·.1), ∃ names, ChartPath path names) (root : Path)
    (name : String) :
    FileTree.filesBelow ((files.map (chartFile root name)).map fun f => (f.place, .file f.content))
      (chartPlace root name) = files := by
  have inside : chartPlace root name ≠ [] :=
    List.append_ne_nil_of_right_ne_nil _ (List.cons_ne_nil _ _)
  rw [filesBelow, List.map_map, List.filterMap_map]
  refine (List.filterMap_congr fun f hf => ?_).trans (List.filterMap_some)
  obtain ⟨names, h⟩ := plain f.1 (List.mem_map_of_mem hf)
  show fileBelow? _ (chartPlace root name ++ Path.namesOf f.1, .file f.2) = some f
  rw [fileBelow?_append inside, h.namesOf, h.intercalate]

/-- The written files are nowhere else. -/
lemma node?_append_chartFiles {q : Place} (hq : isUnder (chartPlace root name) q = false)
    {files : List (String × ByteArray)} :
    FileTree.node? (t' ++ (files.map (chartFile root name)).map fun f =>
      (f.place, .file f.content)) q = t'.node? q := by
  refine node?_append_of_unlisted ?_ t'
  rw [List.map_map, List.forall_mem_map]
  rintro f - rfl
  rw [← Bool.not_eq_true] at hq
  exact hq (isUnder_append _ _)

/-- The files of a chart in its directories, with nothing else in them. -/
lemma Prepared.replaced (prepared : Prepared t root name t') (named : IsFileName name)
    (h : Receives t root name) {files : List (String × ByteArray)}
    (distinct : (files.map (·.1)).Nodup)
    (plain : ∀ path ∈ files.map (·.1), ∃ names, ChartPath path names) :
    ∃ t'', Replaced t root name files t'' ∧
      FileStep.all ((files.map (chartFile root name)).map fun f =>
        .ofExcept (·.writeFile f.path f.content)) t' = (t'', none) := by
  have fits : ∀ f ∈ files.map (chartFile root name), f.Fits t' := by
    intro f hf
    obtain ⟨⟨path, bytes⟩, mem, rfl⟩ := List.mem_map.1 hf
    obtain ⟨names, chartPath⟩ := plain path (List.mem_map_of_mem mem)
    exact prepared.fits named h chartPath bytes
  obtain ⟨run, sound⟩ :=
    all_writeFile prepared.sound fits (nodup_chartFiles distinct plain root name)
  refine ⟨_, ?_, run⟩
  constructor
  case located => exact locate_append (prepared.located named h) _
  case distinct => exact distinct
  case exactly =>
    rw [filesBelow_append, prepared.no_files, filesBelow_chartFiles plain]
    exact List.Perm.refl _
  case outside =>
    intro q hq
    rw [node?_append_chartFiles hq]
    exact prepared.outside q hq
  case kept =>
    intro way q hq
    rw [node?_append_chartFiles hq]
    refine (prepared.outside q hq).resolve_right ?_
    rintro ⟨mem, none, -⟩
    rw [directory_of_isDirectory way q mem] at none
    cases none
  case sound => exact sound

/-! ## Exports -/

/-- An export succeeds and replaces what was in the directory of the chart by the files of the
chart. -/
theorem export_replaces (sound : t.Sound) (distinct : (Dict.keys c.templates).Nodup)
    (plain : ∀ name ∈ Dict.keys c.templates, IsFileName name) (named : IsFileName config.appName)
    (h : Receives t root config.appName) :
    ∃ t', c.exportTo root config t = (t', none) ∧
      Replaced t root config.appName (c.buffered config) t' := by
  have paths : ∀ path ∈ (c.buffered config).map (·.1), ∃ names, ChartPath path names := by
    rw [Chart.keys_buffered]
    exact fun path hp => Chart.exists_chartPath distinct plain hp
  obtain ⟨t₁, prepared, made⟩ := prepared_of_receives sound named h
  obtain ⟨t₂, replaced, written⟩ :=
    prepared.replaced named h (Chart.nodup_keys_buffered distinct config) paths
  have steps : c.exportSteps root config =
      Chart.clear (root.join config.appName) ::
        makeDirectory (root.join config.appName) "templates" ::
        ((c.buffered config).map (chartFile root config.appName)).map fun f =>
          .ofExcept (·.writeFile f.path f.content) := by
    rw [Chart.exportSteps, Chart.buffered, List.map_map, List.map_map]
    rfl
  refine ⟨t₂, ?_, replaced⟩
  rw [Chart.exportTo, steps, FileStep.all_cons (clear_of_receives sound named h),
    FileStep.all_cons made, written]

/-- A directory with an export of an earlier version, a dependency of it and another chart. -/
def usedDirectory : FileTree :=
  .ofEntries [("out/shop/old.yaml", .file (Text.encode "old")),
    ("out/shop/charts/cache.yaml", .file (Text.encode "old")),
    ("out/blog/values.yaml", .file (Text.encode "blog"))]

/-- A chart with a template. -/
def serviceChart : Chart := bareChart [("web.yaml", "kind: Service")]

/-- The configuration of the chart. -/
def serviceConfig : ChartConfig := .ofApplication serviceChart.app .default

/-- The earlier export is replaced, and the other chart stays. -/
theorem usedDirectory_replaced : compile (bareInput serviceChart.templates) = .ok serviceChart ∧
    ∃ t', serviceChart.exportTo (.ofString "out") serviceConfig usedDirectory = (t', none) ∧
      Replaced usedDirectory (.ofString "out") "shop" (serviceChart.buffered serviceConfig) t' := by
  have sound : usedDirectory.Sound := by decide +kernel
  have named : IsFileName serviceConfig.appName := by decide +kernel
  have receives : Receives usedDirectory (.ofString "out") serviceConfig.appName :=
    receives_of_onward sound named (by decide +kernel) (by decide +kernel)
      (.of_ne (by decide +kernel) _) (by decide +kernel) (by decide +kernel)
  exact ⟨rfl, export_replaces sound (by decide +kernel) (by decide +kernel) named receives⟩

/-- What an export of the chart by a path makes of the directory. -/
def exported (root : String) : FileTree × Option FileFault :=
  serviceChart.exportTo (.ofString root) serviceConfig usedDirectory

/-- By a path through a directory that is not there and back, an old file stays in the chart's
directory; by a path through what is in it, the export fails when that is gone. -/
theorem detours_fail :
    usedDirectory.Sound ∧ compile (bareInput serviceChart.templates) = .ok serviceChart ∧
      (∀ name ∈ Dict.keys serviceChart.templates, IsFileName name) ∧
      IsFileName serviceConfig.appName ∧
      (exported "missing/../out").2 = none ∧
      "old.yaml" ∈ ((exported "missing/../out").1.filesBelow ["out", "shop"]).map (·.1) ∧
      "old.yaml" ∉ (serviceChart.buffered serviceConfig).map (·.1) ∧
      (exported "out/shop/charts/../..").2 =
        some (.notFound "out/shop/charts/../../shop") := by
  decide +kernel

end Chartwright
