import Chartwright.Proofs.Rollout.Phase

/-!
# Deployments that a tick keeps

A tick that does not end the rollout keeps all deployments. One that does keeps the new one alone:
with two deployments nothing but the old one is lost, and with more the others are lost as well.
-/

namespace Chartwright.Canary

variable {app : ApplicationSpec} {now : Moment} {t : Tick}

/-- What a tick keeps of the deployments. Their weights and units are a matter of the step. -/
structure Keeps (app : ApplicationSpec) (t : Tick) : Prop where
  revisions : ¬ t.Finished → t.app.deployments.map (·.revision) = app.deployments.map (·.revision)
  others : ¬ t.Finished → t.app.deployments.drop 2 = app.deployments.drop 2
  finished : t.Finished →
    t.app.deployments.map (·.revision) = ((app.deployments.map (·.revision)).drop 1).take 1

/-- Every tick keeps what it should, but for deployments behind the new one when it ends the
rollout. -/
lemma Ticks.keeps (tk : Ticks app now t) : Keeps app t := by
  cases tk with
  | idle =>
    exact ⟨fun _ => rfl, fun _ => rfl, fun h => by simp [Tick.Finished] at h⟩
  | early =>
    exact ⟨fun _ => rfl, fun _ => rfl, fun h => by simp [Tick.Finished] at h⟩
  | step ha hd hs hdue hn hp =>
    obtain ⟨es, ed⟩ := Pair.scaled?_withoutUnits hp
    have rs := DeploymentSpec.revision_of_withoutUnits es
    have rd := DeploymentSpec.revision_of_withoutUnits ed
    refine ⟨fun hf => ?_, fun hf => ?_, fun hf => ?_⟩
    · rw [stepTick_finished_iff] at hf
      rw [stepTick, settle, if_neg hf, stepped, hd, List.map_cons, List.map_cons, rs, rd]
      rfl
    · rw [stepTick_finished_iff] at hf
      rw [stepTick, settle, if_neg hf, stepped, hd]
      rfl
    · rw [stepTick_finished_iff] at hf
      rw [stepTick, settle, if_pos hf, finish, hd, List.map_singleton, revision_full, rd]
      rfl

/-- An active rollout that can be ticked has two deployments at least. -/
lemma Ticks.two_le (tk : Ticks app now t) (active : app.canary.active = true) :
    2 ≤ app.deployments.length := by
  cases tk with
  | idle h =>
    rw [h] at active
    cases active
  | early _ hd => simp [hd]
  | step _ hd => simp [hd]

/-- A tick of an active rollout loses no deployment unless it ends the rollout, and then it loses the
old one and every one behind the new one: nothing but the old one is lost where there are two. -/
theorem tick_keeps (active : app.canary.active = true) (ticked : (tick app now).value = .ok t) :
    Keeps app t ∧ (t.Finished →
      (t.app.deployments.map (·.revision) = (app.deployments.map (·.revision)).drop 1 ↔
        app.deployments.length = 2)) := by
  have tk := tick_ok_iff.1 ticked
  have two := tk.two_le active
  refine ⟨tk.keeps, fun hf => ?_⟩
  rw [tk.keeps.finished hf, List.take_eq_self_iff, List.length_drop, List.length_map]
  omega

/-- What the last tick of the shop keeps of its two deployments. -/
theorem shop_keeps : ∃ t, (tick (shopMidway 2 1 []) (shopClock 0)).value = .ok t ∧
    Keeps (shopMidway 2 1 []) t ∧ (t.Finished →
      (t.app.deployments.map (·.revision) =
          ((shopMidway 2 1 []).deployments.map (·.revision)).drop 1 ↔
        (shopMidway 2 1 []).deployments.length = 2)) := by
  obtain ⟨t, ticked⟩ := Outcome.exists_ok_of_toBool (show
    (tick (shopMidway 2 1 []) (shopClock 0)).value.toBool = true by decide +kernel)
  exact ⟨t, ticked, tick_keeps rfl ticked⟩

/-- The shop in the middle of the rollout to its second deployment, when it has got a third one. -/
def shopOfThree : ApplicationSpec :=
  { shopMidway 2 1 [] with deployments := shop.deployments ++ [shopDeployment 3 ["web"]] }

/-- A valid shop whose last tick loses the third deployment together with the first. -/
theorem shop_loses_third :
    ApplicationSpec.shape.Admits shopOfThree ∧ shopOfThree.canary.active = true ∧ ∃ t,
      (tick shopOfThree (shopClock 0)).value = .ok t ∧ t.Finished ∧
        shopOfThree.deployments.map (·.version) = [1, 2, 3] ∧
        t.app.deployments.map (·.version) = [2] := by
  have valid : ApplicationSpec.shape.Admits shopOfThree := by
    have midway := ApplicationSpec.admits_iff.1
      (shopMidway_admits (by decide : (0 : Int) ≤ 2 ∧ (2 : Int) ≤ 100)
        (by decide : (0 : Int) ≤ 1) [])
    refine ApplicationSpec.admits_iff.2 (midway.update ?_ midway.canary)
    rw [List.forall_mem_append, List.forall_mem_singleton]
    exact ⟨midway.deployments, shopDeployment_admits (by decide) (by decide) (by decide)⟩
  obtain ⟨t, ticked, e⟩ := Outcome.map_ok_iff.1 (show
    (tick shopOfThree (shopClock 0)).value.map
        (fun t => (t.events.map (·.name), t.app.deployments.map (·.version))) =
      .ok ([.nextStep, .finished], [2]) by decide +kernel)
  obtain ⟨names, versions⟩ := Prod.mk.inj e
  have finished : t.Finished := by
    rw [Tick.finished_iff, names]
    decide
  exact ⟨valid, rfl, t, ticked, finished, rfl, versions⟩

end Chartwright.Canary
