import Chartwright.Proofs.Network.Endpoints
import Chartwright.Proofs.Rollout.Validity

/-!
# Endpoints as names of objects

The names of endpoints, and of the secrets that are made for them, are to name objects of a cluster.
They start with a letter and have letters, digits and dashes alone, whatever the domains are. But a
domain may have no letter or digit at all, and then its endpoint is named after nothing and ends
with a dash; and a domain may be so long that the name is longer than a label can be.
-/

namespace Chartwright

/-- What can name an object of a cluster: a label, which starts with a letter. -/
structure ObjectName (name : String) : Prop where
  length : 1 ≤ name.length ∧ name.length ≤ 63
  chars : ∀ c ∈ name.toList, isLabelChar c = true ∨ c = '-'
  first : ∃ c ∈ name.toList.head?, isLower c = true
  last : ∃ c ∈ name.toList.getLast?, isLabelChar c = true

lemma objectName_iff {name : String} : ObjectName name ↔
    (1 ≤ name.length ∧ name.length ≤ 63) ∧ name.toList.all (fun c => isLabelChar c || c = '-') ∧
      name.toList.head?.any isLower ∧ name.toList.getLast?.any isLabelChar := by
  simp only [List.all_eq_true, Bool.or_eq_true, decide_eq_true_eq, Option.any_eq_true]
  constructor
  · intro h
    exact ⟨h.length, h.chars, h.first, h.last⟩
  · rintro ⟨length, chars, first, last⟩
    exact ⟨length, chars, first, last⟩

instance (name : String) : Decidable (ObjectName name) := decidable_of_iff' _ objectName_iff

/-- A name that an application gives for a domain. It can name an object just where the domain has a
letter or digit, and its label leaves room for the name of the application and seven characters. -/
structure GivenFor (app domain name : String) : Prop where
  chars : ∀ c ∈ name.toList, isLabelChar c = true ∨ c = '-'
  first : ∃ c ∈ name.toList.head?, isLower c = true
  valid : ObjectName name ↔
    labelGroups domain ≠ [] ∧ app.length + 7 + (domainLabel domain).length ≤ 63

variable {app domain : String}

/-! ## Parts of names -/

lemma domainLabel_eq_empty_iff : domainLabel domain = "" ↔ labelGroups domain = [] := by
  rw [← String.toList_eq_nil_iff, domainLabel_eq]
  cases h : labelGroups domain with
  | nil => simp
  | cons group groups =>
    have inhabited : group ≠ [] := (of_mem_labelRuns (h ▸ List.mem_cons_self)).1
    simp [intercalate_ne_nil inhabited]

/-- A label does not end with a dash. -/
lemma isLabelChar_of_getLast? {c : Char} (h : c ∈ (domainLabel domain).toList.getLast?) :
    isLabelChar c = true := by
  have last : c ≠ '-' := by
    rw [domainLabel, String.toList_ofList] at h
    exact of_decide_eq_false (Text.not_of_getLast?_trimWhile c h)
  exact (of_mem_domainLabel (List.mem_of_mem_getLast? h)).resolve_right last

/-- The name of an application starts with a letter and has characters of labels alone. -/
lemma exists_of_accepts (h : applicationNamePattern.accepts app.toList = true) :
    ∃ c cs, app.toList = c :: cs ∧ isLower c = true ∧
      ∀ d ∈ c :: cs, isLabelChar d = true ∨ d = '-' := by
  cases hc : app.toList with
  | nil =>
    rw [hc] at h
    cases h
  | cons c cs =>
    rw [hc] at h
    simp only [applicationNamePattern, Bool.and_eq_true, List.all_eq_true, Bool.or_eq_true,
      decide_eq_true_eq] at h
    obtain ⟨first, others⟩ := h
    refine ⟨c, cs, rfl, first, List.forall_mem_cons.2 ⟨.inl ?_, fun d hd => ?_⟩⟩
    · simp [isLabelChar, first]
    · simpa [isLabelChar] using others d hd

/-! ## Names -/

/-- What stands between the name of an application and the label of a domain. -/
def nameTies : List String := ["-https-", "-cname-"]

lemma of_mem_nameTies {tie : String} (h : tie ∈ nameTies) :
    tie.length = 7 ∧ tie.toList.getLast? = some '-' ∧
      ∀ c ∈ tie.toList, isLabelChar c = true ∨ c = '-' := by
  have both : ∀ tie ∈ nameTies, tie.length = 7 ∧ tie.toList.getLast? = some '-' ∧
      tie.toList.all (fun c => isLabelChar c || c = '-') = true := by decide
  obtain ⟨seven, dash, chars⟩ := both tie h
  exact ⟨seven, dash, by simpa using chars⟩

/-- A name that is made with a tie ends like its label, or with a dash if there is nothing in it. -/
lemma getLast?_name {tie : String} (h : tie.toList.getLast? = some '-') :
    (∃ c ∈ (app ++ tie ++ domainLabel domain).toList.getLast?, isLabelChar c = true) ↔
      labelGroups domain ≠ [] := by
  rw [String.toList_append, String.toList_append, ne_eq, ← domainLabel_eq_empty_iff,
    ← String.toList_eq_nil_iff]
  have inhabited : tie.toList ≠ [] := by
    intro none
    rw [none] at h
    cases h
  cases hl : (domainLabel domain).toList with
  | nil =>
    rw [List.append_nil, List.getLast?_append_of_ne_nil _ inhabited, h]
    simp [isLabelChar, isLower, Text.isDigit]
  | cons d ds =>
    rw [List.getLast?_append_of_ne_nil _ (List.cons_ne_nil d ds), ← hl]
    refine iff_of_true ⟨_, List.getLast?_eq_getLast_of_ne_nil (hl ▸ List.cons_ne_nil d ds), ?_⟩ ?_
    · exact isLabelChar_of_getLast? (List.getLast?_eq_getLast_of_ne_nil _)
    · exact hl ▸ List.cons_ne_nil d ds

/-- A name is given for a domain, with the one or the other tie. -/
lemma givenFor {tie : String} (h : applicationNamePattern.accepts app.toList = true)
    (ht : tie ∈ nameTies) : GivenFor app domain (app ++ tie ++ domainLabel domain) := by
  obtain ⟨c, cs, hc, lower, plain⟩ := exists_of_accepts h
  obtain ⟨seven, dash, tied⟩ := of_mem_nameTies ht
  have chars : ∀ d ∈ (app ++ tie ++ domainLabel domain).toList, isLabelChar d = true ∨ d = '-' := by
    simp only [String.toList_append, List.mem_append]
    rintro d ((hd | hd) | hd)
    · exact plain d (hc ▸ hd)
    · exact tied d hd
    · exact of_mem_domainLabel hd
  have first : ∃ d ∈ (app ++ tie ++ domainLabel domain).toList.head?, isLower d = true :=
    ⟨c, by simp [hc], lower⟩
  have length : (app ++ tie ++ domainLabel domain).length =
      app.length + 7 + (domainLabel domain).length := by
    rw [String.length_append, String.length_append, seven]
  refine ⟨chars, first, fun valid => ?_, fun ⟨inhabited, short⟩ => ?_⟩
  · exact ⟨(getLast?_name dash).1 valid.last, length ▸ valid.length.2⟩
  · exact ⟨by omega, chars, first, (getLast?_name dash).2 inhabited⟩

/-- The endpoints of an application that passes, and the secrets that are made for them, have names
that start with a letter and have characters of labels alone. Such a name can name an object just
where the domain has a letter or digit and the name is not longer than a label can be. -/
theorem endpoints_named {app : ApplicationSpec} {environment : EnvironmentSpec}
    {settings : Settings} {ingress : Ingress} (admitted : ApplicationSpec.shape.Admits app)
    (accepted : app.resolveIngress environment settings = .ok ingress) :
    List.Forall₂ (fun d e => e.host = d.name ∧ GivenFor app.name d.name e.uniqueName ∧
        (e.managedBy = .authority → GivenFor app.name d.name e.secretName))
      (app.ingress.domains.filter (·.secure)) ingress.https := by
  have pattern := (ApplicationSpec.admits_iff.1 admitted).name_pattern
  cases ApplicationSpec.resolveIngress_inv accepted
  rw [List.forall₂_map_right_iff, List.forall₂_same]
  intro d _
  refine ⟨rfl, givenFor pattern (by decide), fun managed => ?_⟩
  have own : d.secretName = "" := by
    by_contra given'
    simp [Domain.endpoint, given'] at managed
  rw [Domain.endpoint, own]
  exact givenFor pattern (by decide)

/-- An application passes with other domains if they pass. -/
lemma ApplicationSpec.Admitted.withIngress {app : ApplicationSpec} (h : app.Admitted)
    {ingress : IngressSpec} (hi : IngressSpec.shape.Admits ingress) :
    ({ app with ingress } : ApplicationSpec).Admitted :=
  { h with ingress := hi }

/-- The shop passes with secure domains that do. -/
lemma secureShop_admits (names : List String)
    (h : IngressSpec.shape.Admits (secureShop names).ingress) :
    ApplicationSpec.shape.Admits (secureShop names) :=
  ApplicationSpec.admits_iff.2 (Canary.shop_admitted.withIngress h)

/-- A domain with capitals has an endpoint, and a secret, whose names can name objects. -/
theorem secureShop_named : ∃ ingress,
    ApplicationSpec.shape.Admits (secureShop ["Shop.Example.com"]) ∧
      (secureShop ["Shop.Example.com"]).resolveIngress publicEnvironment .default = .ok ingress ∧
      ingress.https = [⟨"shop-https-shop-example-com", "Shop.Example.com",
        "shop-cname-shop-example-com", .authority⟩] ∧
      ObjectName "shop-https-shop-example-com" ∧ ObjectName "shop-cname-shop-example-com" := by
  obtain ⟨ingress, accepted, https⟩ := Outcome.map_ok_iff.1 (show
    ((secureShop ["Shop.Example.com"]).resolveIngress publicEnvironment .default).map (·.https) =
      .ok [⟨"shop-https-shop-example-com", "Shop.Example.com", "shop-cname-shop-example-com",
        .authority⟩]
      by decide +kernel)
  have admitted := secureShop_admits ["Shop.Example.com"]
    ⟨IngressSpec.shape.encode (secureShop ["Shop.Example.com"]).ingress, by decide +kernel⟩
  have roomy : labelGroups "Shop.Example.com" ≠ [] ∧
      "shop".length + 7 + (domainLabel "Shop.Example.com").length ≤ 63 := by
    decide +kernel
  have named := endpoints_named admitted accepted
  rw [https] at named
  cases named with
  | cons first _ =>
    obtain ⟨_, unique, secret⟩ := first
    exact ⟨ingress, admitted, accepted, https, unique.valid.2 roomy, (secret rfl).valid.2 roomy⟩

/-- Two secure domains of the shop: one without a letter or digit of ASCII, and a long one. -/
def awkwardDomains : List String :=
  ["例え.テスト", "summer-sale-of-everything-you-never-wanted.shops.example.com"]

/-- Domains without letters or digits, and long ones, have endpoints and secrets whose names cannot
name objects. -/
theorem awkwardDomains_unnamed : ∃ ingress,
    ApplicationSpec.shape.Admits (secureShop awkwardDomains) ∧
      (secureShop awkwardDomains).resolveIngress publicEnvironment .default = .ok ingress ∧
      ingress.uniqueNames = ["shop-https-",
        "shop-https-summer-sale-of-everything-you-never-wanted-shops-example-com"] ∧
      ingress.managedSecrets = ["shop-cname-",
        "shop-cname-summer-sale-of-everything-you-never-wanted-shops-example-com"] ∧
      ∀ name ∈ ingress.uniqueNames ++ ingress.managedSecrets, ¬ ObjectName name := by
  obtain ⟨ingress, accepted, e⟩ := Outcome.map_ok_iff.1 (show
    ((secureShop awkwardDomains).resolveIngress publicEnvironment .default).map
        (fun i => (i.uniqueNames, i.managedSecrets)) =
      .ok (["shop-https-",
          "shop-https-summer-sale-of-everything-you-never-wanted-shops-example-com"],
        ["shop-cname-",
          "shop-cname-summer-sale-of-everything-you-never-wanted-shops-example-com"])
      by decide +kernel)
  obtain ⟨names, secrets⟩ := Prod.mk.inj e
  have admitted := secureShop_admits awkwardDomains
    ⟨IngressSpec.shape.encode (secureShop awkwardDomains).ingress, by decide +kernel⟩
  refine ⟨ingress, admitted, accepted, names, secrets, ?_⟩
  rw [names, secrets]
  decide +kernel

end Chartwright
