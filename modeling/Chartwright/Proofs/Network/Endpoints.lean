import Chartwright.Proofs.Chart.Access
import Chartwright.Proofs.Network.Label

/-!
# Names of endpoints

The label of a domain has the groups of letters and digits of its name, without case, and nothing
else: which other characters are between the groups, and how many, is lost. So the endpoints of an
application, and the secrets that are made for them, have distinct names where the domains have
distinct groups; domains that are distinct, even without case, are not enough.
-/

namespace Chartwright

/-- The groups of the secure domains of an application. -/
def ApplicationSpec.secureGroups (app : ApplicationSpec) : List (List (List Char)) :=
  (app.ingress.domains.filter (·.secure)).map (labelGroups ·.name)

/-- The groups of the secure domains of an application that have no secret of their own. -/
def ApplicationSpec.managedGroups (app : ApplicationSpec) : List (List (List Char)) :=
  ((app.ingress.domains.filter (·.secure)).filter (·.secretName = "")).map (labelGroups ·.name)

/-- The names of the secure endpoints. -/
def Ingress.uniqueNames (i : Ingress) : List String := i.https.map (·.uniqueName)

/-- The names of the secrets that are made for endpoints. -/
def Ingress.managedSecrets (i : Ingress) : List String :=
  (i.https.filter (·.managedBy = .authority)).map (·.secretName)

/-! ## Endpoints -/

section

variable {app : ApplicationSpec} {environment : EnvironmentSpec} {settings : Settings}
  {ingress : Ingress}

/-- What is computed from the elements of a list is distinct where what tells them apart is. -/
lemma nodup_map_congr {α β γ : Type} {f : α → β} {g : α → γ} {xs : List α}
    (same : ∀ x y, f x = f y ↔ g x = g y) : (xs.map f).Nodup ↔ (xs.map g).Nodup := by
  simp only [List.Nodup, List.pairwise_map, ne_eq, same]

/-- Endpoints have distinct names where their domains have distinct groups. -/
lemma nodup_uniqueNames_iff (h : app.resolveIngress environment settings = .ok ingress) :
    ingress.uniqueNames.Nodup ↔ app.secureGroups.Nodup := by
  cases ApplicationSpec.resolveIngress_inv h
  rw [Ingress.uniqueNames, List.map_map]
  apply nodup_map_congr
  intro d e
  rw [← domainLabel_eq_iff, Function.comp_apply, Function.comp_apply, Domain.endpoint,
    Domain.endpoint, String.append_right_inj]

/-- Secrets that are made have distinct names where the domains without a secret of their own have
distinct groups. -/
lemma nodup_managedSecrets_iff (h : app.resolveIngress environment settings = .ok ingress) :
    ingress.managedSecrets.Nodup ↔ app.managedGroups.Nodup := by
  cases ApplicationSpec.resolveIngress_inv h
  have managed : (fun e : SecureEndpoint => decide (e.managedBy = .authority)) ∘
      (Domain.endpoint app.name) = fun d => decide (d.secretName = "") := by
    funext d
    simp only [Function.comp_apply, Domain.endpoint]
    split <;> simp_all
  have made : ((app.ingress.domains.filter (·.secure)).filter (·.secretName = "")).map
        ((·.secretName) ∘ Domain.endpoint app.name) =
      ((app.ingress.domains.filter (·.secure)).filter (·.secretName = "")).map
        fun d => app.name ++ "-cname-" ++ domainLabel d.name := by
    apply List.map_congr_left
    intro d hd
    exact if_pos (of_decide_eq_true (List.mem_filter.1 hd).2)
  rw [Ingress.managedSecrets, List.filter_map, managed, List.map_map, made]
  apply nodup_map_congr
  intro d e
  rw [← domainLabel_eq_iff, String.append_right_inj]

/-- The endpoints of an application have distinct names just where no two of its secure domains have
the same groups of letters and digits, and so have the secrets that are made for them where this is
so of the domains without a secret of their own. -/
theorem names_distinct_iff (h : app.resolveIngress environment settings = .ok ingress) :
    (ingress.uniqueNames.Nodup ↔ app.secureGroups.Nodup) ∧
      (ingress.managedSecrets.Nodup ↔ app.managedGroups.Nodup) ∧
      (app.secureGroups.Nodup → ingress.uniqueNames.Nodup ∧ ingress.managedSecrets.Nodup) := by
  have names := nodup_uniqueNames_iff h
  have secrets := nodup_managedSecrets_iff h
  have fewer : app.managedGroups.Sublist app.secureGroups := List.filter_sublist.map _
  exact ⟨names, secrets, fun distinct => ⟨names.2 distinct, secrets.2 (distinct.sublist fewer)⟩⟩

end

/-- The shop with secure domains of some names, none of which has a secret of its own. -/
def secureShop (names : List String) : ApplicationSpec :=
  { openShop with ingress := ⟨false, names.map (⟨·, true, ""⟩)⟩ }

/-- Two domains with distinct groups have endpoints with distinct names. -/
theorem secureShop_names : ∃ ingress,
    (secureShop ["pay.example", "shop.example"]).resolveIngress publicEnvironment .default =
        .ok ingress ∧
      (secureShop ["pay.example", "shop.example"]).secureGroups.Nodup ∧
      ingress.uniqueNames.Nodup ∧ ingress.managedSecrets.Nodup := by
  obtain ⟨ingress, accepted⟩ := Outcome.exists_ok_of_toBool (show
    ((secureShop ["pay.example", "shop.example"]).resolveIngress publicEnvironment
      .default).toBool = true by decide +kernel)
  have distinct : (secureShop ["pay.example", "shop.example"]).secureGroups.Nodup := by
    decide +kernel
  obtain ⟨names, secrets⟩ := (names_distinct_iff accepted).2.2 distinct
  exact ⟨ingress, accepted, distinct, names, secrets⟩

/-- Two domains that are distinct without case, but not in their groups, have endpoints of one name
and secrets of one name. -/
theorem secureShop_names_collide :
    (((secureShop ["a.b", "a-b"]).ingress.domains.filter (·.secure)).map
        (Text.caseFold ·.name)).Nodup ∧
      ∃ ingress,
        (secureShop ["a.b", "a-b"]).resolveIngress publicEnvironment .default = .ok ingress ∧
        ingress.uniqueNames = ["shop-https-a-b", "shop-https-a-b"] ∧ ¬ ingress.uniqueNames.Nodup ∧
        ingress.managedSecrets = ["shop-cname-a-b", "shop-cname-a-b"] ∧
        ¬ ingress.managedSecrets.Nodup := by
  obtain ⟨ingress, accepted, e⟩ := Outcome.map_ok_iff.1 (show
    ((secureShop ["a.b", "a-b"]).resolveIngress publicEnvironment .default).map
        (fun i => (i.uniqueNames, i.managedSecrets)) =
      .ok (["shop-https-a-b", "shop-https-a-b"], ["shop-cname-a-b", "shop-cname-a-b"])
      by decide +kernel)
  obtain ⟨names, secrets⟩ := Prod.mk.inj e
  refine ⟨by decide +kernel, ingress, accepted, names, ?_, secrets, ?_⟩
  · rw [names]
    decide
  · rw [secrets]
    decide

end Chartwright
