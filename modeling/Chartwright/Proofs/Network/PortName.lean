import Mathlib.Data.List.Nodup
import Mathlib.Data.List.Range
import Mathlib.Tactic.Lemma
import Chartwright.Network.Port

/-!
# Names of service ports

A port without a name gets one that is made from its position. Two names that are made never meet,
since the text of a number tells the number; but nothing keeps a name that is given apart from one
that is made. So the names of the ports of a process are distinct where those that are given are,
and none of them is made for another port.
-/

namespace Chartwright

/-- Positions have names of their own. -/
lemma generatedPortName_inj {base : String} {i j : Nat} :
    generatedPortName base i = generatedPortName base j ↔ i = j := by
  constructor
  · intro h
    unfold generatedPortName at h
    rw [String.append_right_inj] at h
    have digits : Nat.toDigits 10 (i + 1) = Nat.toDigits 10 (j + 1) := by
      rw [← Nat.toList_repr, ← Nat.toList_repr]
      exact congrArg String.toList h
    have h := congrArg (Nat.ofDigitChars 10 · 0) digits
    simp only [Nat.ofDigitChars_ten_toDigits] at h
    exact Nat.succ.inj h
  · rintro rfl
    rfl

lemma generatedPortName_ne_empty (base : String) (i : Nat) : generatedPortName base i ≠ "" := by
  unfold generatedPortName
  simp

namespace PortSource

variable {s : PortSource} {process : String}

/-- The ports that a process is given, in place of those of the image. -/
def given (s : PortSource) (process : String) : List PortConfig :=
  (s.explicit.bind (Dict.get? · process)).getD []

/-- The names that the ports of a process are given. -/
def givenNames (s : PortSource) (process : String) : List String :=
  ((s.given process).filter (·.name ≠ "")).map (·.name)

/-- The names that are made for those ports that are given without one. -/
def madeNames (s : PortSource) (process : String) : List String :=
  ((s.given process).zipIdx.filter (·.1.name = "")).map fun (_, i) =>
    generatedPortName s.settings.defaultPortName i

/-- The names of the service ports of a process. -/
def serviceNames (s : PortSource) (process : String) : List String :=
  (s.servicePorts process).map (·.name)

/-- The name of the port at a position. -/
lemma serviceNames_eq (s : PortSource) (process : String) :
    s.serviceNames process =
      (s.configs process).zipIdx.map fun (config, i) => (s.servicePort i config).name := by
  rw [serviceNames, servicePorts, List.mapIdx_eq_zipIdx_map, List.map_map]
  rfl

lemma servicePort_name_of_given {config : PortConfig} (h : config.name ≠ "") (i : Nat) :
    (s.servicePort i config).name = config.name :=
  if_neg h

lemma servicePort_name_of_empty {config : PortConfig} (h : config.name = "") (i : Nat) :
    (s.servicePort i config).name = generatedPortName s.settings.defaultPortName i :=
  if_pos h

/-- The ports of an image have the names of their positions. -/
lemma serviceNames_image (h : s.explicit.bind (Dict.get? · process) = none) :
    s.serviceNames process =
      (List.range s.imagePorts.length).map (generatedPortName s.settings.defaultPortName) := by
  have configs : s.configs process = s.imagePorts.mapIdx s.configOfExposed := by
    unfold PortSource.configs
    rw [h]
  apply List.ext_getElem
  · simp [serviceNames, servicePorts, configs]
  · intro i hi hi'
    have name := generatedPortName_ne_empty s.settings.defaultPortName i
    simp [serviceNames, servicePorts, configs, servicePort, configOfExposed, name]

/-- Names that are made are distinct. -/
lemma nodup_madeNames (s : PortSource) (process : String) : (s.madeNames process).Nodup := by
  have positions : (((s.given process).zipIdx.filter (·.1.name = "")).map (·.2)).Nodup := by
    refine List.Nodup.sublist (List.filter_sublist.map _) ?_
    rw [List.zipIdx_map_snd]
    exact List.nodup_range'
  have e : s.madeNames process =
      (((s.given process).zipIdx.filter (·.1.name = "")).map (·.2)).map
        (generatedPortName s.settings.defaultPortName) := by
    rw [List.map_map]
    rfl
  rw [e]
  exact positions.map fun _ _ => generatedPortName_inj.1

/-- The names of the ports that a process is given are those that are given and those that are
made. -/
lemma perm_serviceNames {configs : List PortConfig}
    (h : s.explicit.bind (Dict.get? · process) = some configs) :
    (s.serviceNames process).Perm (s.givenNames process ++ s.madeNames process) := by
  have given : s.given process = configs := by
    rw [PortSource.given, h]
    rfl
  have all : s.configs process = configs := by
    unfold PortSource.configs
    rw [h]
  let name : PortConfig × Nat → String := fun (config, i) => (s.servicePort i config).name
  have named : ((configs.zipIdx.filter (fun p => !decide (p.1.name = ""))).map name) =
      s.givenNames process := by
    have first : configs.filter (·.name ≠ "") =
        (configs.zipIdx.filter (fun p => !decide (p.1.name = ""))).map (·.1) := by
      conv_lhs => rw [← List.zipIdx_map_fst 0 configs]
      rw [List.filter_map]
      congr 2
      funext p
      simp
    rw [givenNames, given, first, List.map_map]
    apply List.map_congr_left
    intro p hp
    exact servicePort_name_of_given (by simpa using (List.mem_filter.1 hp).2) p.2
  have unnamed : ((configs.zipIdx.filter (fun p => decide (p.1.name = ""))).map name) =
      s.madeNames process := by
    rw [madeNames, given]
    apply List.map_congr_left
    intro p hp
    exact servicePort_name_of_empty (of_decide_eq_true (List.mem_filter.1 hp).2) p.2
  have parts := (List.filter_append_perm (fun p : PortConfig × Nat => decide (p.1.name = ""))
    configs.zipIdx).map name
  rw [List.map_append, named, unnamed] at parts
  rw [serviceNames_eq, all]
  exact parts.symm.trans List.perm_append_comm

/-- The names of the service ports of a process are distinct just where the names that its ports are
given are distinct and none of them is made for a port that is given without one. Ports of the image
always have distinct names. -/
theorem serviceNames_nodup_iff (s : PortSource) (process : String) :
    (s.serviceNames process).Nodup ↔
      (s.givenNames process).Nodup ∧ ∀ name ∈ s.givenNames process, name ∉ s.madeNames process := by
  cases h : s.explicit.bind (Dict.get? · process) with
  | none =>
    have given : s.given process = [] := by
      rw [PortSource.given, h]
      rfl
    have names : s.givenNames process = [] := by
      rw [givenNames, given]
      rfl
    have distinct : (s.serviceNames process).Nodup := by
      rw [serviceNames_image h]
      exact List.nodup_range.map fun _ _ => generatedPortName_inj.1
    rw [names]
    simp [distinct]
  | some configs =>
    rw [(perm_serviceNames h).nodup_iff, List.nodup_append]
    have made := s.nodup_madeNames process
    constructor
    · rintro ⟨distinct, -, apart⟩
      exact ⟨distinct, fun name hg hm => apart name hg name hm rfl⟩
    · rintro ⟨distinct, apart⟩
      exact ⟨distinct, made, fun name hg made hm e => apart name hg (e ▸ hm)⟩

/-- A port of a process has the name that is made for the second one, which has none. -/
def crossed : PortSource :=
  ⟨some [("web", [⟨"http-default-2", "TCP", 80, 0⟩, ⟨"", "TCP", 81, 0⟩])], [], .default⟩

/-- The names that the ports are given are distinct, and those of the service ports are not. -/
theorem crossed_names_collide :
    crossed.givenNames "web" = ["http-default-2"] ∧ (crossed.givenNames "web").Nodup ∧
      crossed.serviceNames "web" = ["http-default-2", "http-default-2"] ∧
      ¬ (crossed.serviceNames "web").Nodup := by
  have given : crossed.givenNames "web" = ["http-default-2"] := by decide +kernel
  have names : crossed.serviceNames "web" = ["http-default-2", "http-default-2"] := by
    decide +kernel
  refine ⟨given, ?_, names, ?_⟩
  · rw [given]
    decide
  · rw [names]
    decide

end PortSource

end Chartwright
